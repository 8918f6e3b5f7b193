import DongloraClient.Keepalive
import DongloraClient.Proofs.DongleLogic

/-! What ends the keepalive thread. -/

namespace DongloraClient.Proofs.KeepaliveLoop
open Program Python Keepalive

variable {self : Dongle} {settings : Settings} {requested : Option Modulation} {state : World × Record}
  {record : Record} {α : Type}

/-- The thread is reconnecting, and nothing has been raised that the code does not catch. -/
structure Inside (requested : Option Modulation) (state : World × Record) : Prop where
  holding : holding state.2 = true
  contained : Contained requested state.2

/-- The same where it does not reconnect. -/
structure Outside (requested : Option Modulation) (state : World × Record) : Prop where
  free : holding state.2 = false
  contained : Contained requested state.2

/-- An exception that a reconnect has raised. The code catches it as `caught` says. -/
structure Judged (requested : Option Modulation) (caught : Exc → Bool) (exc : Exc) (state : World × Record) : Prop where
  holding : holding state.2 = true
  contained : Contained requested state.2 ↔ caught exc = true

abbrev Keeps (invariant : World × Record → Prop) (raises : Exc → World × Record → Prop) (program : Python α) : Prop :=
  Program.Keeps (Logged Interleaved) invariant raises program

def Steady (op : Op) : Prop := ∀ reply record, holding (⟨op, reply⟩ :: record) = holding record

section Requests
variable {raises : Exc → World × Record → Prop}

theorem request_inside (op : Op) (steady : Steady op) (covered : ∀ reply, Covered requested ⟨op, reply⟩) :
    Keeps (Inside requested) raises (Program.request op) := by
  intro ⟨world, record⟩ inside
  refine (ensures_logged op).mpr fun reply next _ => ?_
  exact ⟨(steady reply record).trans inside.holding, fun _ => covered reply, inside.contained⟩

theorem request_outside (op : Op) (steady : Steady op) : Keeps (Outside requested) raises (Program.request op) := by
  intro ⟨world, record⟩ outside
  refine (ensures_logged op).mpr fun reply next _ => ?_
  refine ⟨(steady reply record).trans outside.free, fun held => ?_, outside.contained⟩
  exact absurd (outside.free.symm.trans held) Bool.false_ne_true

theorem read_inside (field : Attributes → α) : Keeps (Inside requested) raises (Python.read field) :=
  (request_inside .read (fun _ _ => rfl) fun _ => trivial).bind fun _ => .pure _

theorem assign_inside (change : Attributes → Attributes) : Keeps (Inside requested) raises (assign change) :=
  request_inside (.assign change) (fun _ _ => rfl) fun _ => trivial

theorem isAlive_inside (session : Nat) : Keeps (Inside requested) raises (isAlive session) :=
  request_inside (.isAlive session) (fun _ _ => rfl) fun _ => trivial

theorem read_outside (field : Attributes → α) : Keeps (Outside requested) raises (Python.read field) :=
  (request_outside .read fun _ _ => rfl).bind fun _ => .pure _

theorem isAlive_outside (session : Nat) : Keeps (Outside requested) raises (isAlive session) :=
  request_outside (.isAlive session) fun _ _ => rfl

theorem markWrite_outside : Keeps (Outside requested) raises Dongle.markWrite :=
  (request_outside .now fun _ _ => rfl).bind fun _ => request_outside (.assign _) fun _ _ => rfl

theorem command_outside (session : Nat) (request : Request) (limit : Option Rat) :
    Keeps (Outside requested) (fun _ => Outside requested) (command session request limit) := by
  intro ⟨world, record⟩ outside reply ⟨next, _⟩ ⟨answered, same⟩
  cases same
  have kept : Outside requested (next, ⟨.command session request limit, reply⟩ :: record) := by
    refine ⟨outside.free, fun held => ?_, outside.contained⟩
    exact absurd (outside.free.symm.trans held) Bool.false_ne_true
  cases reply with
  | error exc => exact kept
  | ok value => exact kept

theorem setConfig_outside (session : Nat) (modulation : Modulation) :
    Keeps (Outside requested) (fun _ => Outside requested) (Python.setConfig session modulation) :=
  command_outside _ _ _

/-- Under the lock, an exception is caught if and only if the record covers it. -/
theorem command_inside {caught : Exc → Bool} (session : Nat) (request : Request) (limit : Option Rat)
    (answers : ∀ value, Covered requested ⟨.command session request limit, .ok value⟩)
    (fails : ∀ exc, Covered requested ⟨.command session request limit, .error exc⟩ ↔ caught exc = true) :
    Keeps (Inside requested) (Judged requested caught) (command session request limit) := by
  intro ⟨world, record⟩ inside reply ⟨next, _⟩ ⟨answered, same⟩
  cases same
  cases reply with
  | error exc =>
    refine ⟨inside.holding, ?_⟩
    rw [← fails exc]
    exact ⟨fun contained => contained.1 inside.holding, fun covered => ⟨fun _ => covered, inside.contained⟩⟩
  | ok value => exact ⟨inside.holding, fun _ => answers value, inside.contained⟩

theorem setConfig_inside (session : Nat) (modulation : Modulation) (limit : Rat) :
    Keeps (Inside requested) (Judged requested retried) (Python.setConfig session modulation limit) :=
  command_inside _ _ _ (fun _ => trivial) fun _ => Iff.rfl

theorem rxStart_inside (session : Nat) :
    Keeps (Inside requested) (Judged requested Exc.isDonglora) (rxStart session) :=
  command_inside _ _ _ (fun _ => trivial) fun _ => Iff.rfl

theorem openTransport_inside (port : Option String) (limit : Rat) :
    Keeps (Inside requested) (Judged requested retried) (openTransport port limit) := by
  intro ⟨world, record⟩ inside reply ⟨next, _⟩ ⟨answered, same⟩
  cases same
  cases reply with
  | error exc =>
    refine ⟨inside.holding, ?_⟩
    exact ⟨fun contained => contained.1 inside.holding, fun covered => ⟨fun _ => covered, inside.contained⟩⟩
  | ok value => exact ⟨inside.holding, fun _ => trivial, inside.contained⟩

theorem throw_inside {caught : Exc → Bool} {exc : Exc} (catches : caught exc = true) :
    Keeps (Inside requested) (Judged requested caught) (throw exc : Python α) :=
  .throw fun _ inside => ⟨inside.holding, iff_of_true inside.contained catches⟩

theorem closeSession_inside (session : Nat) : Keeps (Inside requested) raises (closeSession session) :=
  request_inside (.closeSession session) (fun _ _ => rfl) fun _ => trivial

theorem rethrow_judged {caught : Exc → Bool} {exc : Exc} (session : Nat) (judged : Judged requested caught exc state)
    {returns : α → World × Record → Prop} :
    Program.Ensures (Logged Interleaved) (if exc.isDonglora then do
        closeSession session
        throw exc
      else throw exc : Python α) returns (Judged requested caught) state := by
  refine (ensures_ite _ _ _).mpr ⟨fun _ => (ensures_bind _ _).mpr ?_, fun _ => judged⟩
  refine (ensures_logged (Op.closeSession session)).mpr fun reply next _ => ?_
  refine ⟨judged.holding, Iff.trans ?_ judged.contained⟩
  exact ⟨fun contained => contained.2, fun contained => ⟨fun _ => trivial, contained⟩⟩

end Requests

section Reconnects
/-! An exception leaves a reconnect if and only if the record says so. -/

theorem configure_judged {world : World} (inside : Inside requested (world, record)) {session : Nat} {limit : Rat}
    {asked : Option Rat} {info : Info} {modulation : Modulation} (major : info.protoMajor = 1)
    (wanted : requested = some modulation) {next : World} :
    Program.Ensures (Logged Interleaved) (closingOnError session do
        let prepared ← liftExcept (prepareConfig info modulation)
        return (prepared, ← Python.setConfig session prepared limit))
      (fun _ => Inside requested) (Judged requested retried)
      (next, ⟨.command session .getInfo asked, .ok (some info)⟩ :: record) := by
  refine (ensures_tryCatch _ _).mpr ((ensures_bind _ _).mpr ?_)
  cases prepared : prepareConfig info modulation with
  | error exc =>
    have judged : Judged requested retried exc
        (next, ⟨.command session .getInfo asked, .ok (some info)⟩ :: record) := by
      refine ⟨inside.holding, fun contained => ?_, fun catches => ⟨?_, inside.contained⟩⟩
      · exact contained.1 inside.holding major modulation exc wanted prepared
      · intro _ _ other raised same fails
        cases wanted.symm.trans same
        cases prepared.symm.trans fails
        exact catches
    exact rethrow_judged session judged
  | ok config =>
    have greeted : Inside requested (next, ⟨.command session .getInfo asked, .ok (some info)⟩ :: record) := by
      refine ⟨inside.holding, fun _ _ other raised same fails => ?_, inside.contained⟩
      cases wanted.symm.trans same
      cases prepared.symm.trans fails
    refine (ensures_bind _ _).mpr ((setConfig_inside session config limit _ greeted).mono ?_ ?_)
    · exact fun _ _ kept => kept
    · exact fun exc last judged => rethrow_judged session judged

theorem bringUp_inside (transport : Nat) (limit : Rat) :
    Keeps (Inside requested) (Judged requested retried) (bringUp transport limit requested) := by
  refine (request_inside (.openSession transport) (fun _ _ => rfl) fun _ => trivial).bind fun session => ?_
  intro ⟨world, record⟩ inside
  refine (ensures_bind _ _).mpr ((ensures_tryCatch _ _).mpr ?_)
  intro reply ⟨next, _⟩ ⟨answered, same⟩
  cases same
  cases reply with
  | error exc =>
    have judged : Judged requested retried exc
        (next, ⟨.command session .getInfo (some limit), .error exc⟩ :: record) := by
      refine ⟨inside.holding, fun contained => ?_, fun catches => ⟨fun _ => catches, inside.contained⟩⟩
      exact contained.1 inside.holding
    exact rethrow_judged session judged
  | ok told =>
    cases told with
    | none =>
      have unmet : Inside requested (next, ⟨.command session .getInfo (some limit), .ok none⟩ :: record) :=
        ⟨inside.holding, fun _ => trivial, inside.contained⟩
      exact ((closeSession_inside session).bind fun _ => throw_inside rfl) _ unmet
    | some info =>
      refine (ensures_ite _ _ _).mpr ⟨fun other => ?_, fun same => ?_⟩
      · have unmet : Inside requested (next, ⟨.command session .getInfo (some limit), .ok (some info)⟩ :: record) :=
          ⟨inside.holding, fun _ major => absurd major other, inside.contained⟩
        exact ((closeSession_inside session).bind fun _ => throw_inside rfl) _ unmet
      · have major : info.protoMajor = 1 := not_not.mp same
        cases requested with
        | none =>
          have greeted : Inside none (next, ⟨.command session .getInfo (some limit), .ok (some info)⟩ :: record) := by
            refine ⟨inside.holding, fun _ _ _ _ wanted => ?_, inside.contained⟩
            cases wanted
          exact greeted
        | some modulation =>
          refine (ensures_bind _ _).mpr ?_
          exact (configure_judged inside major rfl).mono (fun _ _ kept => kept) fun _ _ judged => judged

theorem reopen_inside (settings : Settings) :
    Keeps (Inside settings.requested) (Judged settings.requested Exc.isDonglora) (Dongle.reopen settings) := by
  have opens : Keeps (Inside settings.requested) (Judged settings.requested retried) (openAndInit settings) :=
    (openTransport_inside _ _).bind fun _ => bringUp_inside _ _
  refine (opens.bind fun _ => .pure _).tryCatch fun exc state judged => ?_
  refine (ensures_ite _ _ _).mpr ⟨fun catches => ?_, fun foreign => ⟨judged.holding, ?_⟩⟩
  · exact ⟨judged.holding, judged.contained.mpr catches⟩
  · have uncaught : exc.isDonglora = false :=
      Bool.eq_false_of_not_eq_true fun own => foreign (Bool.or_eq_true_iff.mpr (Or.inl own))
    rw [judged.contained, uncaught]
    exact iff_of_false foreign Bool.false_ne_true

theorem restartRx_inside (session : Nat) :
    Keeps (Inside requested) (Judged requested Exc.isDonglora) (Dongle.restartRx session) := by
  refine (read_inside _).bind fun started => .ite ?_ (.pure _)
  refine (rxStart_inside session).tryCatch fun exc state judged => ?_
  refine (ensures_ite _ _ _).mpr ⟨fun own => ?_, fun _ => judged⟩
  exact assign_inside _ state ⟨judged.holding, judged.contained.mpr own⟩

theorem install_inside (session : Nat) (info : Info) (applied : Option Modulation) :
    Keeps (Inside requested) (Judged requested Exc.isDonglora) (Dongle.install session info applied) := by
  refine (assign_inside _).bind fun _ => (assign_inside _).bind fun _ => ?_
  cases applied with
  | none => exact restartRx_inside session
  | some config => exact (assign_inside _).bind fun _ => restartRx_inside session

theorem reconnect_inside (attempts : Nat) (backoff : Rat) :
    Keeps (Inside settings.requested) (Judged settings.requested Exc.isDonglora)
      (Dongle.reconnect settings attempts backoff) := by
  induction attempts generalizing backoff with
  | zero => exact fun _ _ => trivial
  | succ attempts ih =>
    refine (read_inside _).bind fun closed => (read_inside _).bind fun stopped => ?_
    refine .ite (.pure _) ((reopen_inside settings).bind fun reopened => ?_)
    cases reopened with
    | none => exact (request_inside (.waitStop backoff) (fun _ _ => rfl) fun _ => trivial).bind fun _ => .ite (.pure _) (ih _)
    | some bringup => exact install_inside _ _ _

theorem recoverSessionLocked_inside :
    Keeps (Inside settings.requested) (Judged settings.requested Exc.isDonglora) (self.recoverSessionLocked settings) :=
  (read_inside _).bind fun _ => (closeSession_inside _).bind fun _ => reconnect_inside _ _

structure Fatal (requested : Option Modulation) (exc : Exc) (state : World × Record) : Prop where
  uncovered : ¬ Contained requested state.2
  foreign : exc.isDonglora = false

/-- What the lock does to a program that keeps to the record. An exception of the code's
own family goes on to the handler of the loop. -/
theorem withLock_outside {body : Python α} (kept : Keeps (Inside requested) (Judged requested Exc.isDonglora) body) :
    Keeps (Outside requested) (fun exc state => exc.isDonglora = true ∧ Outside requested state ∨ Fatal requested exc state)
      (withLock body) := by
  intro ⟨world, record⟩ outside
  refine (ensures_bind _ _).mpr ((ensures_logged Op.acquire).mpr fun _ entered _ => ?_)
  have inside : Inside requested (entered, ⟨.acquire, ()⟩ :: record) :=
    ⟨rfl, fun _ => trivial, outside.contained⟩
  refine (ensures_bind _ _).mpr ((ensures_tryCatch _ _).mpr ((kept _ inside).mono ?_ ?_))
  · intro value ⟨middle, done⟩ finished
    refine (ensures_bind _ _).mpr ((ensures_logged Op.release).mpr fun _ last _ => ?_)
    exact ⟨rfl, fun _ => trivial, finished.contained⟩
  · intro exc ⟨middle, done⟩ judged
    refine (ensures_bind _ _).mpr ((ensures_logged Op.release).mpr fun _ last _ => ?_)
    cases own : exc.isDonglora with
    | true => exact Or.inl ⟨own, rfl, fun _ => trivial, judged.contained.mpr own⟩
    | false =>
      refine Or.inr ⟨fun contained => ?_, own⟩
      exact absurd (judged.contained.mp contained.2) (Bool.eq_false_iff.mp own)

theorem ensureSessionAlive_outside (reopener : self.reopener = some settings) :
    Keeps (Outside settings.requested) (fun exc state =>
        exc.isDonglora = true ∧ Outside settings.requested state ∨ Fatal settings.requested exc state)
      self.ensureSessionAlive := by
  refine (read_outside _).bind fun session => (isAlive_outside session).bind fun living => .ite (.pure _) ?_
  rw [reopener]
  refine withLock_outside ((read_inside _).bind fun session => (isAlive_inside session).bind fun living => ?_)
  exact .ite (.pure _) recoverSessionLocked_inside

end Reconnects

section Loop

theorem reapplyConfig_outside : Keeps (Outside requested) (fun _ => Outside requested) Dongle.reapplyConfig := by
  refine (read_outside _).bind fun session => (read_outside _).bind fun applied => ?_
  cases applied with
  | none => exact .throw fun _ outside => outside
  | some config => exact (setConfig_outside session config).bind fun _ => .pure _

theorem keepaliveReapply_outside {raises : Exc → World × Record → Prop} :
    Keeps (Outside requested) raises Dongle.keepaliveReapply := by
  refine (read_outside _).bind fun applied => .ite ?_ (.pure _)
  exact reapplyConfig_outside.tryCatch fun _ _ outside => outside

/-- One iteration leaves the thread only by an exception of a foreign family that was
raised under the lock. -/
theorem keepaliveIteration_outside :
    Keeps (Outside self.reapplied) (Fatal self.reapplied) self.keepaliveIteration := by
  refine (read_outside _).bind fun session => (isAlive_outside session).bind fun living => ?_
  by_cases dead : (!living && self.reopener.isSome) = true
  · rw [if_pos dead]
    obtain ⟨settings, reopener⟩ := Option.isSome_iff_exists.mp (Bool.and_eq_true_iff.mp dead).2
    have same : self.reapplied = settings.requested := by
      rw [Dongle.reapplied, reopener]
      rfl
    rw [same]
    refine (ensureSessionAlive_outside reopener).tryCatch fun exc state raised => ?_
    refine (ensures_ite _ _ _).mpr ⟨fun own => ?_, fun foreign => ?_⟩
    · obtain ⟨_, outside⟩ | fatal := raised
      · exact outside
      · exact absurd own (Bool.eq_false_iff.mp fatal.foreign)
    · obtain ⟨own, _⟩ | fatal := raised
      · exact absurd own foreign
      · exact fatal
  · rw [if_neg dead]
    refine (request_outside .now fun _ _ => rfl).bind fun time => (read_outside _).bind fun marked => ?_
    refine .ite (.pure _) ?_
    have pings : Keeps (Outside self.reapplied) (fun _ => Outside self.reapplied) (do
        Python.ping (← Python.read Attributes.session)
        Dongle.markWrite) :=
      (read_outside _).bind fun session => (command_outside _ _ _).bind fun _ => markWrite_outside
    refine pings.tryCatch fun exc state outside => ?_
    exact (ensures_ite _ _ _).mpr ⟨fun _ => keepaliveReapply_outside state outside, fun _ => outside⟩

theorem keepaliveLoop_ends (iterations : Nat) (outside : Outside self.reapplied state) :
    Program.Ensures (Logged Interleaved) (self.keepaliveLoop iterations)
      (fun _ last => Contained self.reapplied last.2 ∧ last.1.attributes.keepaliveStop = true) (Fatal self.reapplied)
      state := by
  induction iterations generalizing state with
  | zero => trivial
  | succ iterations ih =>
    obtain ⟨world, record⟩ := state
    refine (ensures_bind _ _).mpr ((ensures_logged (Op.waitStop Dongle.keepaliveInterval)).mpr ?_)
    intro stopped next ⟨met, told, same⟩
    have waited : Outside self.reapplied (next, ⟨.waitStop Dongle.keepaliveInterval, stopped⟩ :: record) := by
      refine ⟨outside.free, fun held => ?_, outside.contained⟩
      exact absurd (outside.free.symm.trans held) Bool.false_ne_true
    refine (ensures_ite _ _ _).mpr ⟨fun set => ⟨waited.contained, ?_⟩, fun _ => (ensures_bind _ _).mpr ?_⟩
    · rw [same]
      exact told.symm.trans set
    · exact (keepaliveIteration_outside _ waited).mono (fun _ _ kept => ih kept) fun _ _ fatal => fatal

/-- A keepalive thread whose reconnects have met nothing but what they catch has left its
loop because `_keepalive_stop` was set. Otherwise it has left by an exception that is not
a `DongloraError`. -/
theorem keepaliveLoop_leaves {result : Except Exc Unit} {last : World}
    (leaves : self.LeavesLoop result last record) :
    (Contained self.reapplied record → result = .ok () ∧ last.attributes.keepaliveStop = true) ∧
      (¬ Contained self.reapplied record → ∃ exc, result = .error exc ∧ exc.isDonglora = false) := by
  obtain ⟨iterations, start, executed⟩ := leaves
  have ended := executed.ends (keepaliveLoop_ends iterations ⟨rfl, trivial⟩)
  cases result with
  | ok value => exact ⟨fun _ => ⟨rfl, ended.2⟩, fun uncovered => absurd ended.1 uncovered⟩
  | error exc =>
    have fatal : Fatal self.reapplied exc (last, record) := ended
    exact ⟨fun contained => absurd contained fatal.uncovered, fun _ => ⟨exc, rfl, fatal.foreign⟩⟩

end Loop

section Executions
open DongleLogic

/-- The device does what it is asked but for `RX_START`: the port fails again. -/
def relapsing : (request : Request) → Except Exc request.Value
  | .rxStart => .error (.osError "write failed: [Errno 5] Input/output error")
  | request => obliging request

/-- `close()` is called once something has been exchanged. -/
def closing (device : (request : Request) → Except Exc request.Value) (world : World) (op : Op) :
    Option (Reply op × World) :=
  respond (fun _ => device) (world.assign fun attributes =>
    { attributes with keepaliveStop := !world.history.isEmpty }) op

theorem closing_interleaved (device : (request : Request) → Except Exc request.Value) (world : World) (op : Op)
    (reply : Reply op) (next : World) (responded : closing device world op = some (reply, next)) :
    Interleaved world op reply next :=
  ⟨_, respond_answers (fun _ _ _ => trivial) _ op reply next responded⟩

theorem respond_interleaved (device : (request : Request) → Except Exc request.Value) (world : World) (op : Op)
    (reply : Reply op) (next : World) (responded : respond (fun _ => device) world op = some (reply, next)) :
    Interleaved world op reply next :=
  ⟨world, respond_answers (fun _ _ _ => trivial) world op reply next responded⟩

def deafened : World where
  attributes := { session := 0, info := stockInfo, appliedConfig := none, rxStarted := true }
  opened := 1

theorem leavesLoop_of_execution {respond : World → (op : Op) → Option (Reply op × World)}
    (sound : ∀ world op reply next, respond world op = some (reply, next) → Interleaved world op reply next)
    (iterations : Nat) (start : World) {last : World} {result : Except Exc Unit}
    (computed : execute (logged respond) (self.keepaliveLoop iterations).run (start, []) = some (result, last, record)) :
    self.LeavesLoop result last record :=
  ⟨iterations, start, execute_executes (logged_sound sound) computed⟩

/-- The thread reconnects, and then finds that the `Dongle` has been closed. -/
theorem keepaliveLoop_leaves_ok :
    ∃ last record, Dongle.LeavesLoop ⟨some {}, 1⟩ (.ok ()) last record ∧ last.attributes.session = 1 ∧
      Contained (some (.lora LoRaConfig.default)) record ∧ last.attributes.keepaliveStop = true := by
  obtain ⟨last, record, leaves, installed⟩ : ∃ last record, Dongle.LeavesLoop ⟨some {}, 1⟩ (.ok ()) last record ∧
      last.attributes.session = 1 := ⟨_, _, leavesLoop_of_execution (closing_interleaved obliging) 2 deafened rfl, rfl⟩
  have contained : Contained (some (.lora LoRaConfig.default)) record := by
    by_contra uncovered
    obtain ⟨_, same, _⟩ := (keepaliveLoop_leaves leaves).2 uncovered
    cases same
  exact ⟨last, record, leaves, installed, contained, ((keepaliveLoop_leaves leaves).1 contained).2⟩

/-- The session has been replaced, and the exception from the restart of RX is not caught. -/
theorem keepalive_thread_dies :
    ∃ last record,
      Dongle.LeavesLoop ⟨some {}, 1⟩ (.error (.osError "write failed: [Errno 5] Input/output error")) last record ∧
        last.attributes.session = 1 ∧ last.attributes.keepaliveStop = false :=
  ⟨_, _, leavesLoop_of_execution (respond_interleaved relapsing) 1 deafened rfl, rfl, rfl⟩

end Executions
end DongloraClient.Proofs.KeepaliveLoop
