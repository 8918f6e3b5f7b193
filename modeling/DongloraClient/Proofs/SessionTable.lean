import DongloraClient.Proofs.SessionSteps

/-! The pending table against the commands in flight: every entry names a command
that holds that tag, and the slot of a command in flight describes that command. -/

namespace DongloraClient.Proofs.SessionTable
open Session SessionSteps

/-- Between `_register_pending` and `_forget_pending`. -/
def InFlight (call : Call) : Prop :=
  match call.pc with
  | .registered | .waiting | .woken | .unfailed | .leaving _ => True
  | .idle | .entered | .allocated | .finished _ => False

instance (call : Call) : Decidable (InFlight call) := by
  unfold InFlight
  split <;> infer_instance

variable {cobs : Cobs.Codec} {session next : Session} {label : Step} {id : Nat}

theorem PcMove.inFlight {call : Call} {pc : Pc} (move : PcMove cobs call id label pc) :
    InFlight call ∧ InFlight { call with pc } := by
  cases move with
  | sent before | unsent before | woken before | expired before | failed before | unfailed before
  | returned before => exact ⟨by simp only [InFlight, before], trivial⟩

theorem inFlight_kept (taken : step cobs session label = some next) (flying : InFlight (session.calls id)) :
    InFlight (next.calls id) ∨ label = .forget id := by
  generalize same : next.calls id = call
  cases same ▸ step_calls taken id with
  | same => exact Or.inl flying
  | moved move => exact Or.inl (PcMove.inFlight move).2
  | written => exact Or.inl flying
  | forgotten => exact Or.inr rfl
  | rejected before | entered before | allocated before | registered before =>
    simp only [InFlight, before] at flying

theorem inFlight_entered (taken : step cobs session label = some next) (flying : InFlight (next.calls id)) :
    InFlight (session.calls id) ∨ label = .register id := by
  generalize same : next.calls id = call at flying
  cases same ▸ step_calls taken id with
  | same => exact Or.inl flying
  | moved move => exact Or.inl (PcMove.inFlight move).1
  | written => exact Or.inl flying
  | registered => exact Or.inr rfl
  | rejected | entered | allocated | forgotten => exact False.elim flying

def Registered (call : Call) : Prop := call.pc ≠ .idle ∧ call.pc ≠ .entered ∧ call.pc ≠ .allocated

theorem InFlight.registered {call : Call} (flying : InFlight call) : Registered call := by
  refine ⟨?_, ?_, ?_⟩ <;> intro place <;> simp only [InFlight, place] at flying

/-- From its registration on, a command keeps its tag and its request. -/
theorem registered_fixed (taken : step cobs session label = some next) (past : Registered (session.calls id)) :
    Registered (next.calls id) ∧ (next.calls id).tag = (session.calls id).tag ∧
      (next.calls id).request = (session.calls id).request := by
  generalize same : next.calls id = call
  cases same ▸ step_calls taken id with
  | same | written => exact ⟨past, rfl, rfl⟩
  | moved move => exact ⟨(PcMove.inFlight move).2.registered, rfl, rfl⟩
  | forgotten => exact ⟨⟨nofun, nofun, nofun⟩, rfl, rfl⟩
  | rejected before | entered before => exact absurd before past.1
  | allocated before => exact absurd before past.2.1
  | registered before => exact absurd before past.2.2

theorem inFlight_fixed (taken : step cobs session label = some next) (flying : InFlight (session.calls id)) :
    (next.calls id).tag = (session.calls id).tag ∧ (next.calls id).request = (session.calls id).request :=
  (registered_fixed taken flying.registered).2

theorem register_call (taken : step cobs session (.register id) = some next) :
    (session.calls id).pc = .allocated ∧ next.calls id = { session.calls id with
      pc := .registered
      slot := { tag := (session.calls id).tag, cmdType := (session.calls id).request.typeId } } := by
  cases stepped taken with
  | registered ready => exact ⟨ready, by simp⟩
  | moved move => cases move

theorem forget_call (taken : step cobs session (.forget id) = some next) :
    ∃ outcome, (session.calls id).pc = .leaving outcome ∧
      next.calls id = { session.calls id with pc := .finished outcome } := by
  cases stepped taken with
  | forgotten leaving => exact ⟨_, leaving, by simp [forgetPending]⟩
  | moved move => cases move

theorem act_todo {agent : Agent} (taken : step cobs session (.act agent) = some next) :
    ∃ action rest, session.todo agent = action :: rest ∧ next.todo agent = rest ∧
      ∀ id, next.calls id = { session.calls id with slot := effect id (session.calls id).slot action } := by
  cases stepped taken with
  | acted found => exact ⟨_, _, found, by simp, fun id => by rw [setTodo_calls, apply_calls]⟩
  | moved move => cases move

/-- Every command in flight is the one its tag leads to. -/
def Listed (session : Session) : Prop :=
  ∀ id, InFlight (session.calls id) → session.pending.lookup (session.calls id).tag = some id

/-- Only a registration under a tag in use or the clearing of the table hides a command. -/
theorem Listed.preserved (listed : Listed session) (taken : step cobs session label = some next)
    (free : ∀ owner, label = .register owner → ∀ id, InFlight (session.calls id) →
      (session.calls id).tag ≠ (session.calls owner).tag)
    (held : ∀ agent, .clear ∉ session.todo agent) : Listed next := by
  intro id flying
  have before (entered : label ≠ .register id) : InFlight (session.calls id) :=
    (inFlight_entered taken flying).resolve_right entered
  generalize table : next.pending = pending
  generalize lock : next.lock = owner
  cases table ▸ lock ▸ step_table taken with
  | same quiet =>
    have flew := before (quiet id).1
    rw [(inFlight_fixed taken flew).1]
    exact listed id flew
  | @registered owner =>
    by_cases own : id = owner
    · subst own
      rw [(register_call taken).2, Dict.lookup_assign]
    · have flew := before fun same => own (Step.register.inj same).symm
      rw [(inFlight_fixed taken flew).1, Dict.lookup_assign_ne (free owner rfl id flew)]
      exact listed id flew
  | @forgotten owner outcome leaving =>
    have flew := before nofun
    have own : id ≠ owner := by
      intro same
      subst same
      obtain ⟨outcome, _, call⟩ := forget_call taken
      rw [call] at flying
      exact flying
    have apart : (session.calls id).tag ≠ (session.calls owner).tag := by
      intro same
      have found := listed owner (by simp only [InFlight, leaving])
      rw [← same, listed id flew] at found
      exact own (Option.some.inj found)
    rw [(inFlight_fixed taken flew).1, AList.lookup_erase_ne apart]
    exact listed id flew
  | shutdown | sweep =>
    have flew := before nofun
    rw [(inFlight_fixed taken flew).1]
    exact listed id flew
  | cleared found => exact absurd (found ▸ List.mem_cons_self) (held _)

/-- A command in flight keeps the tag, the type and, once it is set, the event of its slot. -/
theorem slot_kept (taken : step cobs session label = some next) (flying : InFlight (session.calls id)) :
    (next.calls id).slot.tag = (session.calls id).slot.tag ∧
      (next.calls id).slot.cmdType = (session.calls id).slot.cmdType ∧
      ((session.calls id).slot.event = true → (next.calls id).slot.event = true) := by
  generalize same : next.calls id = call
  cases same ▸ step_calls taken id with
  | same | moved | forgotten => exact ⟨rfl, rfl, fun set => set⟩
  | written => exact ⟨effect_tag _ _ _, effect_cmdType _ _ _, effect_event _ _⟩
  | rejected before | entered before | allocated before | registered before =>
    simp only [InFlight, before] at flying

structure Sound (session : Session) : Prop where
  owned : ∀ tag id, session.pending.lookup tag = some id →
    InFlight (session.calls id) ∧ (session.calls id).tag = tag
  slot : ∀ id, InFlight (session.calls id) → (session.calls id).slot.tag = (session.calls id).tag ∧
    (session.calls id).slot.cmdType = (session.calls id).request.typeId
  woken : ∀ id, (session.calls id).pc = .woken ∨ (session.calls id).pc = .unfailed →
    (session.calls id).slot.event = true

namespace Sound

theorem initial : Sound {} where
  owned tag id found := by cases found
  slot id flying := by cases flying
  woken id place := by rcases place with place | place <;> cases place

theorem owned_kept (sound : Sound session) (taken : step cobs session label = some next) {tag : Nat}
    (found : next.pending.lookup tag = some id) : InFlight (next.calls id) ∧ (next.calls id).tag = tag := by
  have carried {id : Nat} (other : label ≠ .forget id) (found : session.pending.lookup tag = some id) :
      InFlight (next.calls id) ∧ (next.calls id).tag = tag := by
    obtain ⟨flying, same⟩ := sound.owned tag id found
    exact ⟨(inFlight_kept taken flying).resolve_right other, (inFlight_fixed taken flying).1.trans same⟩
  generalize table : next.pending = pending at found
  generalize held : next.lock = lock
  cases table ▸ held ▸ step_table taken with
  | same quiet => exact carried (quiet id).2 found
  | shutdown | sweep => exact carried nofun found
  | @registered owner ready =>
    by_cases own : tag = (session.calls owner).tag
    · rw [own, Dict.lookup_assign] at found
      cases found
      rw [(register_call taken).2]
      exact ⟨trivial, own.symm⟩
    · rw [Dict.lookup_assign_ne own] at found
      exact carried nofun found
  | @forgotten owner outcome =>
    by_cases own : tag = (session.calls owner).tag
    · rw [own, AList.lookup_erase] at found
      cases found
    · rw [AList.lookup_erase_ne own] at found
      refine carried ?_ found
      -- The entry of the command that leaves is the erased one.
      rintro ⟨⟩
      exact own (sound.owned tag id found).2.symm
  | cleared => cases found

theorem slot_described (sound : Sound session) (taken : step cobs session label = some next)
    (flying : InFlight (next.calls id)) : (next.calls id).slot.tag = (next.calls id).tag ∧
      (next.calls id).slot.cmdType = (next.calls id).request.typeId := by
  rcases inFlight_entered taken flying with before | rfl
  · obtain ⟨tag, cmdType, _⟩ := slot_kept taken before
    obtain ⟨sameTag, sameRequest⟩ := inFlight_fixed taken before
    rw [tag, cmdType, sameTag, sameRequest]
    exact sound.slot id before
  · rw [(register_call taken).2]
    exact ⟨rfl, rfl⟩

theorem woken_kept (sound : Sound session) (taken : step cobs session label = some next)
    (place : (next.calls id).pc = .woken ∨ (next.calls id).pc = .unfailed) : (next.calls id).slot.event = true := by
  generalize same : next.calls id = call at place
  cases same ▸ step_calls taken id with
  | same => exact sound.woken id place
  | rejected | entered | allocated | registered | forgotten => rcases place with place | place <;> cases place
  | written => exact effect_event id _ (sound.woken id place)
  | moved move =>
    cases move with
    | woken _ set => exact set
    | unfailed before => exact sound.woken id (Or.inl before)
    | sent | unsent | expired | failed | returned => rcases place with place | place <;> cases place

theorem preserved (sound : Sound session) (taken : step cobs session label = some next) : Sound next where
  owned _ _ := sound.owned_kept taken
  slot _ := sound.slot_described taken
  woken _ := sound.woken_kept taken

theorem reachable {events : List Step} (run : Transition.Run (Transition.Steps (step cobs)) {} events session) :
    Sound session :=
  run.preserves initial fun _ _ _ sound taken => sound.preserved taken

/-- What `_dispatch` finds in the table is a command in flight with the tag it looked up. -/
theorem found (sound : Sound session) {tag cmdType : Nat} (found : session.getPending tag = some (id, cmdType)) :
    tag ≠ 0 ∧ session.pending.lookup tag = some id ∧ InFlight (session.calls id) ∧
      (session.calls id).tag = tag ∧ cmdType = (session.calls id).request.typeId := by
  simp only [getPending] at found
  split at found
  next => cases found
  next nonzero =>
    obtain ⟨owner, looked, same⟩ := Option.map_eq_some_iff.mp found
    obtain ⟨rfl, rfl⟩ := Prod.mk.inj same
    obtain ⟨flying, tag⟩ := sound.owned _ _ looked
    exact ⟨nonzero, looked, flying, tag, (sound.slot _ flying).2⟩

end Sound

theorem mem_values : id ∈ session.values ↔ ∃ tag, session.pending.lookup tag = some id := Dict.mem_values

def Unswept (events : List Step) : Prop := ∀ label ∈ events, label ≠ .shutdown ∧ ∀ closer, label ≠ .sweep closer

end DongloraClient.Proofs.SessionTable
