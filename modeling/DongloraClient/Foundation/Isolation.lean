import DongloraClient.Foundation.Transition

/-! What is seen of a run. Where a view can be kept up to date with what is seen of each
step, two runs that look the same leave the same view, whatever else happens in them. -/

namespace Transition

variable {σ ε ω π : Type*} {step : σ → ε → Option σ} {observe : σ → ε → Option ω} {start state next : σ}
  {events : List ε} {event : ε}

/-- What an observer sees of the events of a run. -/
def observed (step : σ → ε → Option σ) (observe : σ → ε → Option ω) : σ → List ε → List ω
  | _, [] => []
  | state, event :: rest =>
    match step state event with
    | some next => (observe state event).toList ++ observed step observe next rest
    | none => []

theorem observed_append {later : List ε} (executed : execute step start events = some state) :
    observed step observe start (events ++ later) =
      observed step observe start events ++ observed step observe state later := by
  induction events generalizing start with
  | nil =>
    cases executed
    rfl
  | cons head rest ih =>
    obtain ⟨middle, taken, remaining⟩ := Option.bind_eq_some_iff.mp executed
    simp only [List.cons_append, observed, taken, ih remaining, List.append_assoc]

theorem observed_snoc (run : Run (Steps step) start events state) (taken : step state event = some next) :
    observed step observe start (events ++ [event]) =
      observed step observe start events ++ (observe state event).toList := by
  rw [observed_append (run_execute run)]
  simp only [observed, taken, List.append_nil]

/-- A view that is kept up to date with what is seen of every step follows the run. -/
theorem Throughout.followed {property : List ε → σ → Prop} {react : π → ω → π} {Follows : π → σ → Prop} {view : π}
    (whole : Throughout (Steps step) property start events state) (initial : Follows view start)
    (seen : ∀ view events state event next, Throughout (Steps step) property start events state →
      step state event = some next → property (events ++ [event]) next → Follows view state →
      Follows ((observe state event).toList.foldl react view) next) :
    Follows ((observed step observe start events).foldl react view) state := by
  induction whole with
  | nil => exact initial
  | snoc before taken holds ih =>
    rw [observed_snoc before.run taken, List.foldl_append]
    exact seen _ _ _ _ _ before taken holds ih

end Transition
