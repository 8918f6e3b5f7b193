import DongloraClient.Proofs.SessionAnswers

/-! One transmission on a session whose transport may fail at any point: which runs leave
its caller with an error that a reconnect can make up for. -/

namespace DongloraClient.Proofs.SessionAttempts
open Session SessionSteps SessionReplies SessionAnswers Transition

variable {cobs : Cobs.Codec} {session next entered attempted : Session} {label : Step} {earlier steps : List Step}
  {id : Nat}

def Recoverable : Outcome → Prop
  | .error exc => exc.isDonglora = true ∧ exc.isNotConfigured = false
  | .ok _ => False

/-- The frame of the command goes out, and neither `ERR(ENOTCONFIGURED)` nor `TX_DONE`
has reached its caller when it looks. -/
def Unsettled (cobs : Cobs.Codec) (id : Nat) (session : Session) : Step → Prop
  | .write owner failure => owner = id → failure = none ∧ ∃ bytes, wire cobs (session.calls id) = .ok bytes
  | .readErr owner => owner = id → ∀ exc, (session.calls id).slot.err = some exc → exc.isNotConfigured = false
  | .readResult owner => owner = id → (session.calls id).slot.txDone = none
  | _ => True

inductive Decides (id : Nat) : Step → Prop where
  | write (failure : Option String) : Decides id (.write id failure)
  | readErr : Decides id (.readErr id)
  | readResult : Decides id (.readResult id)

theorem unsettled_other (other : ¬ Decides id label) : Unsettled cobs id session label := by
  cases label with
  | write owner failure => exact fun same => absurd (same ▸ .write failure) other
  | readErr owner => exact fun same => absurd (same ▸ .readErr) other
  | readResult owner => exact fun same => absurd (same ▸ .readResult) other
  | _ => trivial

theorem decided (decides : Decides id label) (taken : step cobs session label = some next) :
    ∃ pc, PcMove cobs (session.calls id) id label pc ∧ next.calls id = { session.calls id with pc } := by
  cases decides with
  | write | readErr | readResult =>
    cases stepped taken with
    | moved move => cases move <;> exact ⟨_, by constructor <;> assumption, Function.update_self ..⟩

theorem donglora_seen {events : List Step} {exc : Exc} (seen : ErrSeen events id exc) : exc.isDonglora = true := by
  rcases seen with ⟨frame, _, refusal⟩ | rfl | rfl
  · exact refusal.donglora
  · rfl
  · rfl

/-- However the command has ended, a reconnect can make up for it. -/
def Favourable (call : Call) : Prop := ∀ outcome, Ends call outcome → Recoverable outcome

def carried : Pc → Option Outcome
  | .leaving outcome | .finished outcome => some outcome
  | .idle | .entered | .allocated | .registered | .waiting | .woken | .unfailed => none

theorem favourable_running {call : Call} {pc : Pc} (place : call.pc = pc) (running : carried pc = none) :
    Favourable call := by
  intro outcome ends
  subst place
  rcases ends with ends | ends
  · rw [ends] at running
    cases running
  · rw [ends] at running
    cases running

theorem favourable_ended {call : Call} {outcome : Outcome} (ended : Ends call outcome) :
    Favourable call ↔ Recoverable outcome := by
  constructor
  · exact fun favourable => favourable outcome ended
  · intro recoverable other ends
    have same : other = outcome := by
      rcases ended with place | place <;> rcases ends with found | found <;> cases place.symm.trans found <;> rfl
    exact same ▸ recoverable

theorem favourable_step {events : List Step} (traced : Traced events session)
    (taken : step cobs session label = some next) (begun : (session.calls id).pc ≠ .idle)
    (tx : (session.calls id).request.typeId = typeTx) :
    Favourable (next.calls id) ↔ Favourable (session.calls id) ∧ Unsettled cobs id session label := by
  by_cases decides : Decides id label
  · obtain ⟨pc, move, same⟩ := decided decides taken
    rw [same]
    cases move with
    | sent place =>
      have sent : ∃ bytes, wire cobs (session.calls id) = .ok bytes := by
        cases encoded : wire cobs (session.calls id) with
        | ok bytes => exact ⟨bytes, rfl⟩
        | error exc =>
          have unsent : step cobs session (.write id none) = some (session.setPc id (.leaving (.error exc))) := by
            simp only [step, place, if_true, encoded]
          cases unsent.symm.trans taken
          rw [setPc_calls, if_pos rfl] at same
          cases congrArg Call.pc same
      exact iff_of_true (favourable_running rfl rfl)
        ⟨favourable_running place rfl, fun _ => ⟨rfl, sent⟩⟩
    | unsent place failed =>
      rw [favourable_ended (Or.inl rfl)]
      refine iff_of_false ?_ ?_
      · intro recoverable
        rcases failed with raised | ⟨text, _, rfl⟩
        · cases (Decoding.wire_foreign cobs _ _ raised).symm.trans recoverable.1
        · cases recoverable.1
      · intro both
        obtain ⟨working, bytes, encoded⟩ := both.2 rfl
        rcases failed with raised | ⟨text, broken, _⟩
        · cases encoded.symm.trans raised
        · cases working.symm.trans broken
    | woken | expired => cases decides
    | @failed exc place set =>
      rw [favourable_ended (Or.inl rfl), and_iff_right (favourable_running place rfl)]
      have donglora := donglora_seen (traced.err id exc set)
      constructor
      · intro recoverable _ other found
        cases set.symm.trans found
        exact recoverable.2
      · exact fun unsettled => ⟨donglora, unsettled rfl exc set⟩
    | unfailed place unset =>
      refine iff_of_true (favourable_running rfl rfl)
        ⟨favourable_running place rfl, fun _ exc found => ?_⟩
      cases unset.symm.trans found
    | returned place =>
      rw [favourable_ended (Or.inl rfl), and_iff_right (favourable_running place rfl), Call.result, if_pos tx]
      cases reported : (session.calls id).slot.txDone with
      | none => exact iff_of_true ⟨rfl, rfl⟩ fun _ => reported
      | some done =>
        refine iff_of_false (fun recoverable => recoverable) fun unsettled => ?_
        cases (unsettled rfl).symm.trans reported
  · rw [and_iff_left (unsettled_other decides)]
    generalize same : next.calls id = call
    cases same ▸ step_calls taken id with
    | same => exact Iff.rfl
    | written => exact Iff.rfl
    | rejected idle | entered idle => exact absurd idle begun
    | allocated place | registered place =>
      exact iff_of_true (favourable_running rfl rfl) (favourable_running place rfl)
    | @forgotten outcome leaving =>
      rw [favourable_ended (Or.inr rfl), favourable_ended (Or.inl leaving)]
    | moved move =>
      cases move with
      | sent | unsent => exact absurd (.write _) decides
      | failed | unfailed => exact absurd .readErr decides
      | returned => exact absurd .readResult decides
      | woken place =>
        exact iff_of_true (favourable_running rfl rfl) (favourable_running place rfl)
      | expired place =>
        rw [favourable_ended (Or.inl rfl)]
        exact iff_of_true ⟨rfl, rfl⟩ (favourable_running place rfl)

structure Begun (call : Call) : Prop where
  begun : call.pc ≠ .idle
  tx : call.request.typeId = typeTx

theorem begun_kept (begun : Begun (session.calls id)) (taken : step cobs session label = some next) :
    Begun (next.calls id) := by
  generalize same : next.calls id = call
  cases same ▸ step_calls taken id with
  | same => exact begun
  | written => exact ⟨begun.begun, begun.tx⟩
  | rejected idle | entered idle => exact absurd idle begun.begun
  | allocated | registered | forgotten => exact ⟨nofun, begun.tx⟩
  | moved move =>
    refine ⟨?_, begun.tx⟩
    cases move <;> exact nofun

/-- An attempt ends with an error that a reconnect can make up for if and only if it is
never settled. -/
theorem recoverable_iff (before : Run (Steps (step cobs)) {} earlier entered) (begun : Begun (entered.calls id))
    (running : Favourable (entered.calls id)) (run : Run (Steps (step cobs)) entered steps attempted) :
    Favourable (attempted.calls id) ↔ Run (Guarded (Steps (step cobs)) (Unsettled cobs id)) entered steps attempted := by
  suffices whole : Begun (attempted.calls id) ∧ (Favourable (attempted.calls id) ↔
      Run (Guarded (Steps (step cobs)) (Unsettled cobs id)) entered steps attempted) from whole.2
  induction run with
  | nil => exact ⟨begun, iff_of_true running .nil⟩
  | @snoc events state label last prior taken ih =>
    obtain ⟨still, same⟩ := ih
    refine ⟨begun_kept still taken, ?_⟩
    have traced := Traced.reachable (before.append prior)
    rw [favourable_step traced taken still.begun still.tx, same, guarded_snoc prior taken]

end DongloraClient.Proofs.SessionAttempts
