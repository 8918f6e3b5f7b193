/-! Which errors a fallible computation can raise. -/

namespace Raising

variable {ε α β : Type}

/-- Every error of the computation is an allowed one. -/
def Only (allowed : ε → Prop) (result : Except ε α) : Prop := ∀ error, result = .error error → allowed error

variable {allowed : ε → Prop}

theorem Only.ok (value : α) : Only allowed (.ok value : Except ε α) := by
  intro error raised
  cases raised

theorem Only.pure (value : α) : Only allowed (Pure.pure value : Except ε α) := Only.ok value

theorem Only.error {error : ε} (holds : allowed error) : Only allowed (.error error : Except ε α) := by
  intro other raised
  cases raised
  exact holds

theorem Only.throw {error : ε} (holds : allowed error) : Only allowed (throw error : Except ε α) :=
  Only.error holds

theorem Only.bind {result : Except ε α} {next : α → Except ε β} (first : Only allowed result)
    (rest : ∀ value, result = .ok value → Only allowed (next value)) : Only allowed (result >>= next) := by
  cases returned : result with
  | ok value => exact rest value returned
  | error error =>
    intro other raised
    cases raised
    exact first error returned

theorem Only.ite {condition : Prop} [Decidable condition] {first second : Except ε α}
    (holds : condition → Only allowed first) (fails : ¬ condition → Only allowed second) :
    Only allowed (if condition then first else second) := by
  by_cases tested : condition
  · simpa only [tested, if_true] using holds tested
  · simpa only [tested, if_false] using fails tested

section Returning
variable {result : Except ε α} {next : α → Except ε β} {value : β}

theorem bind_ok : (result >>= next) = .ok value ↔ ∃ first, result = .ok first ∧ next first = .ok value := by
  cases result with
  | error error =>
    constructor
    · intro returned
      cases returned
    · intro found
      obtain ⟨_, returned, _⟩ := found
      cases returned
  | ok first => simp [bind, Except.bind]

theorem ok_bind (first : α) (next : α → Except ε β) : (Except.ok first >>= next) = next first := rfl

theorem pure_ok {other : β} : (pure other : Except ε β) = .ok value ↔ other = value := by
  simp [pure, Except.pure]

/-- A check that raises lets through what it does not reject. -/
theorem reject_ok {condition : Prop} [Decidable condition] {error : ε} {rest : Except ε β} :
    (if condition then .error error else rest) = .ok value ↔ ¬ condition ∧ rest = .ok value := by
  split <;> simp_all

theorem require_ok {condition : Prop} [Decidable condition] {error : ε} {rest : Except ε β} :
    (if condition then rest else .error error) = .ok value ↔ condition ∧ rest = .ok value := by
  split <;> simp_all

end Returning

end Raising
