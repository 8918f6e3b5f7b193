import DongloraClient.Proofs.DongleLogic

/-! What a bring-up that fails leaves open. The requests of `_open_and_init` and
`_session_on` are recorded, so that "has been closed" is a fact about the record. -/

namespace DongloraClient.Proofs.BringUp
open Program Python DongleLogic

variable {law : World → Exchange → Prop} {world : World} {α : Type}

abbrev Log := List (Sigma Reply)

def created : Sigma Reply → Option Nat
  | ⟨.openSession _, session⟩ => some session
  | _ => none

def released : Sigma Reply → Option Nat
  | ⟨.closeSession session, _⟩ => some session
  | _ => none

def failure : Sigma Reply → Option Exc
  | ⟨.command _ _ _, .error exc⟩ => some exc
  | _ => none

def greeting : Sigma Reply → Option Info
  | ⟨.command _ .getInfo _, .ok (some info)⟩ => some info
  | _ => none

/-- A command has raised something other than a `DongloraError`, or the preparation of the
requested configuration for the device does. -/
def Escapes (requested : Option Modulation) (log : Log) : Prop :=
  (∃ exc ∈ log.filterMap failure, exc.isDonglora = false) ∨
    ∃ info ∈ log.filterMap greeting, info.protoMajor = 1 ∧ ∃ modulation, requested = some modulation ∧
      ∃ exc, prepareConfig info modulation = .error exc ∧ exc.isDonglora = false

/-- A bring-up that has failed has closed the session it created, unless something else
than a `DongloraError` was raised; then it has not. -/
def Released (requested : Option Modulation) (log : Log) : Prop :=
  ∀ session ∈ log.filterMap created, session ∈ log.filterMap released ↔ ¬ Escapes requested log

/-- Nothing has been done with a session yet. -/
structure Silent (log : Log) : Prop where
  created : log.filterMap created = []
  released : log.filterMap released = []
  failure : log.filterMap failure = []
  greeting : log.filterMap greeting = []

section Rules
variable {log : Log}

abbrev Records (law : World → Exchange → Prop) (program : Python α) (returns : α → World × Log → Prop)
    (raises : Exc → World × Log → Prop) (world : World) (log : Log) : Prop :=
  Program.Ensures (Logged (Answers law)) program returns raises (world, log)

variable {raises : Exc → World × Log → Prop}

theorem records_request (op : Op) {returns : Reply op → World × Log → Prop} :
    Records law (Program.request op) returns raises world log ↔
      ∀ reply, world.Permits law op reply → returns reply (world.after op reply, ⟨op, reply⟩ :: log) := by
  apply (ensures_logged op).trans
  constructor
  · exact fun holds reply permitted => holds reply _ ⟨permitted, rfl⟩
  · rintro holds reply next ⟨permitted, rfl⟩
    exact holds reply permitted

theorem records_command (session : Nat) (request : Request) (timeout : Option Rat)
    {returns : request.Value → World × Log → Prop} :
    Records law (command session request timeout) returns raises world log ↔
      (∀ value, law world ⟨session, request, .ok value⟩ →
        returns value (world.exchange ⟨session, request, .ok value⟩,
          ⟨.command session request timeout, .ok value⟩ :: log)) ∧
      ∀ exc, law world ⟨session, request, .error exc⟩ →
        raises exc (world.exchange ⟨session, request, .error exc⟩,
          ⟨.command session request timeout, .error exc⟩ :: log) := by
  constructor
  · intro ensures
    exact ⟨fun value allowed => ensures (.ok value) _ ⟨⟨allowed, rfl⟩, rfl⟩,
      fun exc allowed => ensures (.error exc) _ ⟨⟨allowed, rfl⟩, rfl⟩⟩
  · rintro ⟨returned, raised⟩ (exc | value) ⟨next, _⟩ ⟨⟨allowed, rfl⟩, rfl⟩
    · exact raised exc allowed
    · exact returned value allowed

theorem records_closingOnError (session : Nat) (body : Python α) {returns : α → World × Log → Prop}
    (closing : Records law body returns (fun exc after =>
      raises exc (if exc.isDonglora then (after.1.kill session, ⟨.closeSession session, ()⟩ :: after.2) else after))
      world log) : Records law (closingOnError session body) returns raises world log := by
  apply (ensures_tryCatch body _).mpr
  apply Ensures.mono closing
  · exact fun value last returned => returned
  · intro exc last raised
    cases donglora : exc.isDonglora with
    | true =>
      simp only [donglora, if_true, ensures_bind, ensures_throw] at raised ⊢
      apply (records_request (.closeSession session)).mpr
      exact fun reply permitted => raised
    | false => simpa [donglora] using raised

end Rules

section Course
variable {requested : Option Modulation} {log after : Log} {session : Nat} {exc : Exc}

def settled (session : Nat) (exc : Exc) (log : Log) : Log :=
  if exc.isDonglora then ⟨.closeSession session, ()⟩ :: log else log

/-- The requests of a bring-up, by the place where it ends. -/
inductive Course (requested : Option Modulation) (log : Log) : Option Exc → Log → Prop where
  | unanswered {transport session : Nat} {timeout : Option Rat} {exc : Exc} :
      Course requested log exc (settled session exc
        (⟨.command session .getInfo timeout, .error exc⟩ :: ⟨.openSession transport, session⟩ :: log))
  | nameless {transport session : Nat} {timeout : Option Rat} {exc : Exc} :
      Course requested log exc (⟨.closeSession session, ()⟩ ::
        ⟨.command session .getInfo timeout, .ok none⟩ :: ⟨.openSession transport, session⟩ :: log)
  | incompatible {transport session : Nat} {timeout : Option Rat} {info : Info} {exc : Exc} : info.protoMajor ≠ 1 →
      Course requested log exc (⟨.closeSession session, ()⟩ ::
        ⟨.command session .getInfo timeout, .ok (some info)⟩ :: ⟨.openSession transport, session⟩ :: log)
  | unprepared {transport session : Nat} {timeout : Option Rat} {info : Info} {modulation : Modulation} {exc : Exc} :
      info.protoMajor = 1 → requested = some modulation → prepareConfig info modulation = .error exc →
      Course requested log exc (settled session exc
        (⟨.command session .getInfo timeout, .ok (some info)⟩ :: ⟨.openSession transport, session⟩ :: log))
  | refused {transport session : Nat} {timeout : Option Rat} {info : Info} {modulation config : Modulation} {exc : Exc} :
      requested = some modulation → prepareConfig info modulation = .ok config →
      Course requested log exc (settled session exc (⟨.command session (.setConfig config) timeout, .error exc⟩ ::
        ⟨.command session .getInfo timeout, .ok (some info)⟩ :: ⟨.openSession transport, session⟩ :: log))
  | configured {transport session : Nat} {timeout : Option Rat} {info : Info} {modulation config : Modulation}
      {result : Option SetConfigResult} : requested = some modulation → prepareConfig info modulation = .ok config →
      Course requested log none (⟨.command session (.setConfig config) timeout, .ok result⟩ ::
        ⟨.command session .getInfo timeout, .ok (some info)⟩ :: ⟨.openSession transport, session⟩ :: log)
  | unconfigured {transport session : Nat} {timeout : Option Rat} {info : Info} : requested = none →
      Course requested log none
        (⟨.command session .getInfo timeout, .ok (some info)⟩ :: ⟨.openSession transport, session⟩ :: log)

theorem settled_log {session : Nat} {exc : Exc} {world : World} {log : Log} :
    (if exc.isDonglora then (world.kill session, ⟨.closeSession session, ()⟩ :: log) else (world, log) : World × Log).2 =
      settled session exc log := by
  unfold settled
  split <;> rfl

theorem settled_keeps {field : Sigma Reply → Option α} (unaffected : field ⟨.closeSession session, ()⟩ = none) :
    (settled session exc log).filterMap field = log.filterMap field := by
  unfold settled
  split
  · exact List.filterMap_cons_none unaffected
  · rfl

theorem bringUp_course (transport : Nat) (timeout : Rat) :
    Records law (bringUp transport timeout requested) (fun _ after => Course requested log none after.2)
      (fun exc after => Course requested log (some exc) after.2) world log := by
  apply (ensures_bind _ _).mpr
  apply (records_request (.openSession transport)).mpr
  rintro session -
  apply (ensures_bind _ _).mpr
  apply records_closingOnError
  apply (records_command _ _ _).mpr
  constructor
  · rintro (_ | info) -
    · apply (ensures_bind _ _).mpr
      apply (records_request (.closeSession session)).mpr
      exact fun _ _ => .nameless
    · apply (ensures_ite _ _ _).mpr
      constructor
      · intro other
        apply (ensures_bind _ _).mpr
        apply (records_request (.closeSession session)).mpr
        exact fun _ _ => .incompatible other
      · intro same
        cases requested with
        | none => exact .unconfigured rfl
        | some modulation =>
          apply (ensures_bind _ _).mpr
          apply records_closingOnError
          apply (ensures_bind _ _).mpr
          cases prepared : prepareConfig info modulation with
          | error exc =>
            change Course _ _ _ (if exc.isDonglora = true then _ else (_, _)).2
            exact settled_log ▸ .unprepared (not_not.mp same) rfl prepared
          | ok config =>
            apply (ensures_bind _ _).mpr
            apply (records_command _ _ _).mpr
            constructor
            · exact fun _ _ => .configured rfl prepared
            · exact fun exc _ => settled_log ▸ .refused rfl prepared
  · exact fun exc _ => settled_log ▸ .unanswered

section Ends
variable {failures : List Exc} {greetings : List Info}

/-- `Escapes`, by what has been raised and what the device has answered. -/
def Escaping (requested : Option Modulation) (failures : List Exc) (greetings : List Info) : Prop :=
  (∃ exc ∈ failures, exc.isDonglora = false) ∨ ∃ info ∈ greetings, info.protoMajor = 1 ∧
    ∃ modulation, requested = some modulation ∧ ∃ exc, prepareConfig info modulation = .error exc ∧ exc.isDonglora = false

theorem released_closed (made : log.filterMap created = [session]) (failed : log.filterMap failure = failures)
    (greeted : log.filterMap greeting = greetings) (kept : ¬ Escaping requested failures greetings) :
    Released requested (⟨.closeSession session, ()⟩ :: log) := by
  subst failed greeted
  intro other member
  have same : other = session := List.mem_singleton.mp (made ▸ member)
  subst same
  exact iff_of_true List.mem_cons_self kept

theorem released_settled (made : log.filterMap created = [session]) (unclosed : log.filterMap released = [])
    (failed : log.filterMap failure = failures) (greeted : log.filterMap greeting = greetings)
    (escapes : Escaping requested failures greetings ↔ exc.isDonglora = false) :
    Released requested (settled session exc log) := by
  cases donglora : exc.isDonglora with
  | true =>
    rw [settled, if_pos donglora]
    refine released_closed made failed greeted fun escaped => ?_
    cases donglora.symm.trans (escapes.mp escaped)
  | false =>
    rw [settled, if_neg (Bool.eq_false_iff.mp donglora)]
    subst failed greeted
    intro other _
    rw [unclosed]
    exact iff_of_false List.not_mem_nil (not_not_intro (escapes.mpr donglora))

end Ends

theorem Course.released (silent : Silent log) (course : Course requested log (some exc) after) :
    Released requested after := by
  cases course with
  | unanswered =>
    apply released_settled
    · exact congrArg (List.cons _) silent.created
    · exact silent.released
    · exact congrArg (List.cons exc) silent.failure
    · exact silent.greeting
    · simp [Escaping]
  | nameless =>
    apply released_closed
    · exact congrArg (List.cons _) silent.created
    · exact silent.failure
    · exact silent.greeting
    · simp [Escaping]
  | incompatible other =>
    apply released_closed
    · exact congrArg (List.cons _) silent.created
    · exact silent.failure
    · exact congrArg (List.cons _) silent.greeting
    · simp [Escaping, other]
  | unprepared major same prepared =>
    apply released_settled
    · exact congrArg (List.cons _) silent.created
    · exact silent.released
    · exact silent.failure
    · exact congrArg (List.cons _) silent.greeting
    · simp [Escaping, major, same, prepared]
  | refused same prepared =>
    apply released_settled
    · exact congrArg (List.cons _) silent.created
    · exact silent.released
    · exact congrArg (List.cons exc) silent.failure
    · exact congrArg (List.cons _) silent.greeting
    · simp [Escaping, same, prepared]

end Course

inductive Fails (law : World → Exchange → Prop) : Option Modulation → Exc → Log → Prop where
  | openAndInit {settings : Settings} {start last : World} {exc : Exc} {log : Log} :
      Executes (Logged (Answers law)) (openAndInit settings).run (start, []) (.error exc) (last, log) →
      Fails law settings.requested exc log
  | sessionOn {transport : Nat} {start last : World} {exc : Exc} {log : Log} :
      Executes (Logged (Answers law)) (sessionOn transport).run (start, []) (.error exc) (last, log) →
      Fails law (some (.lora LoRaConfig.default)) exc log

/-- The session of a failed bring-up has been closed exactly when nothing but
`DongloraError`s were raised on the way. -/
theorem failed_bringup_released {requested : Option Modulation} {exc : Exc} {log : Log}
    (fails : Fails law requested exc log) : Released requested log := by
  cases fails with
  | @openAndInit settings start last exc log executed =>
    have opened : Records law (openAndInit settings) (fun _ _ => True)
        (fun _ after => Released settings.requested after.2) start [] := by
      apply (ensures_bind _ _).mpr
      rintro (exc | transport) ⟨middle, log⟩ ⟨-, rfl⟩
      · exact fun session member => absurd member List.not_mem_nil
      · refine (bringUp_course transport _).mono (fun _ _ _ => trivial) fun exc after course => ?_
        exact course.released ⟨rfl, rfl, rfl, rfl⟩
    exact opened.raised executed
  | @sessionOn transport start last exc log executed =>
    have brought : Records law (sessionOn transport) (fun _ _ => True)
        (fun _ after => Released (some (.lora LoRaConfig.default)) after.2) start [] := by
      apply (ensures_bind _ _).mpr
      apply (bringUp_course transport 2).mono
      · intro value after _
        apply (ensures_bind _ _).mpr
        apply (records_request .now).mpr
        rintro time -
        exact (records_request (.assign _)).mpr fun _ _ => trivial
      · exact fun exc after course => course.released ⟨rfl, rfl, rfl, rfl⟩
    exact brought.raised executed

/-- A device that fails in the same way at every command. -/
def failing (exc : Exc) (_ : World) (request : Request) : Except Exc request.Value := .error exc

theorem sessionOn_failing {exc : Exc} {last : World} {log : Log}
    (computed : execute (logged (respond (failing exc))) (sessionOn 0).run (unconnected, []) =
      some (.error exc, last, log)) : Fails Unrestricted (some (.lora LoRaConfig.default)) exc log :=
  .sessionOn (execute_executes (logged_sound (respond_answers fun _ _ _ => trivial)) computed)

/-- The device does not answer `GET_INFO`. -/
theorem failed_bringup_released_timeout : ∃ log,
    Fails Unrestricted (some (.lora LoRaConfig.default)) (.timeoutError "command 0x02 tag=1 timed out") log ∧
      log.filterMap created = [1] ∧ log.filterMap released = [1] ∧ Released (some (.lora LoRaConfig.default)) log :=
  have fails := sessionOn_failing rfl
  ⟨_, fails, rfl, rfl, failed_bringup_released fails⟩

/-- The transport fails while `GET_INFO` is written, and the session stays open. -/
theorem write_failure_leaks : ∃ log,
    Fails Unrestricted (some (.lora LoRaConfig.default)) (.osError "write failed: [Errno 5] Input/output error") log ∧
      log.filterMap created = [1] ∧ log.filterMap released = [] :=
  ⟨_, sessionOn_failing rfl, rfl, rfl⟩

end DongloraClient.Proofs.BringUp
