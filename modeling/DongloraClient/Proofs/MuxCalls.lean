import DongloraClient.Foundation.Transition
import DongloraClient.Proofs.StickyMux

/-! Which calls open a serial port, over a sequence of calls between which the
surroundings change. -/

namespace DongloraClient.Proofs.MuxCalls
open Program Net StickyMux Transition

variable {int : String → Option Int} {setting : Setting} {process : Process} {timeout : Rat} {α : Type}

/-- The surroundings of a call. A device may be plugged in while it waits for one, and with
the flag set the socket of a mux may appear while it waits for that. -/
def Answers (setting : Setting) (process : Process) : (op : NetOp) → NetReply op → Process → Prop
  | .findPort, _, next => next = process
  | .exists path, there, next => (process.usedMux = false → there = setting.present path) ∧ next = process
  | op, reply, next => setting.respond process op = some (reply, next)

abbrev Record := List (Sigma NetReply)

def connected : Sigma NetReply → Bool
  | ⟨.connect (.unix _), .ok _⟩ | ⟨.connect (.tcp _ _), .ok _⟩ => true
  | _ => false

def opensSerial : Sigma NetReply → Bool
  | ⟨.connect (.serial _), _⟩ => true
  | _ => false

structure Episode where
  setting : Setting
  call : EntryPoint
  record : Record

def Takes (int : String → Option Int) (process : Process) (episode : Episode) (next : Process) : Prop :=
  ∃ attempts result, Executes (Logged (Answers episode.setting)) (episode.call.opens int attempts).run (process, []) result
    (next, episode.record)

/-- Where the address in `DONGLORA_MUX_TCP` accepts the first connection to a mux, the
socket accepts the timeout of the call. -/
def Accepts (int : String → Option Int) (process : Process) (episode : Episode) : Prop :=
  process.usedMux = false → ∀ timeout, episode.call.tcpTimeout = some timeout → episode.setting.TcpMux int →
    episode.setting.accepts timeout = true

def Unconnected (record : Record) : Prop := ∀ entry ∈ record, connected entry = false

def Clear (record : Record) : Prop := ∀ entry ∈ record, opensSerial entry = false

/-- A call that opens a serial port has had no mux to go to, and no call before it has
been connected to one. -/
def Rightful (int : String → Option Int) (earlier : List Episode) (episode : Episode) : Prop :=
  ¬ Clear episode.record → (∀ prior ∈ earlier, Unconnected prior.record) ∧ Unconnected episode.record ∧
    ¬ episode.setting.TcpMux int ∧ episode.setting.muxSocket = none

abbrev Ensures (setting : Setting) (program : Net α) (returns : α → Process × Record → Prop)
    (raises : Exc → Process × Record → Prop) (process : Process) (record : Record) : Prop :=
  Program.Ensures (Logged (Answers setting)) program returns raises (process, record)

section Sticky
/-! A call that begins with the flag set. -/

/-- The flag is set, and no serial port has been opened. -/
structure Sticky (state : Process × Record) : Prop where
  used : state.1.usedMux = true
  clear : Clear state.2

def Muxed : NetOp → Prop
  | .connect (.serial _) => False
  | _ => True

theorem usedMux_kept {op : NetOp} {reply : NetReply op} {next : Process} (answered : Answers setting process op reply next)
    (used : process.usedMux = true) : next.usedMux = true := by
  cases op with
  | findPort =>
    cases answered
    exact used
  | «exists» path =>
    obtain ⟨_, rfl⟩ := answered
    exact used
  | setUsedMux =>
    cases answered
    rfl
  | _ =>
    cases answered
    exact used

theorem muxed_clear {op : NetOp} (muxed : Muxed op) (reply : NetReply op) : opensSerial ⟨op, reply⟩ = false := by
  cases op with
  | connect endpoint =>
    cases endpoint with
    | serial port => exact muxed.elim
    | unix path => rfl
    | tcp host port => rfl
  | _ => rfl

theorem Clear.cons {record : Record} (clear : Clear record) {entry : Sigma NetReply}
    (other : opensSerial entry = false) : Clear (entry :: record) :=
  List.forall_mem_cons.mpr ⟨other, clear⟩

theorem sticky_confined {program : Net α} {record : Record} (confined : Confined Muxed program)
    (sticky : Sticky (process, record)) :
    Ensures setting program (fun _ => Sticky) (fun _ => Sticky) process record := by
  refine Confined.ensures confined (fun state op reply next muxed answered sticky => ?_) sticky
  refine ⟨usedMux_kept answered.1 sticky.used, ?_⟩
  rw [answered.2]
  exact sticky.clear.cons (muxed_clear muxed reply)

theorem findMuxSocket_confined : Confined Muxed findMuxSocket := by
  refine .bind (.request trivial) fun mux => ?_
  cases truthy mux with
  | some env => exact .bind (.request trivial) fun _ => .ite (.pure _) (.pure _)
  | none =>
    refine .bind (.request trivial) fun runtime => ?_
    cases truthy runtime with
    | some xdg =>
      exact .bind (.request trivial) fun _ =>
        .ite (.pure _) (.bind (.request trivial) fun _ => .ite (.pure _) (.pure _))
    | none => exact .bind (.request trivial) fun _ => .ite (.pure _) (.pure _)

theorem defaultSocketPath_confined : Confined Muxed defaultSocketPath := by
  refine .bind (.request trivial) fun mux => ?_
  cases truthy mux with
  | some env => exact .pure _
  | none =>
    refine .bind (.request trivial) fun runtime => ?_
    cases truthy runtime with
    | some xdg => exact .pure _
    | none => exact .pure _

theorem waitForMux_confined (path : String) (attempts : Nat) : Confined Muxed (waitForMux path attempts) := by
  induction attempts with
  | zero => exact .bind (.request trivial) fun _ => .ite (.pure _) trivial
  | succ attempts ih =>
    exact .bind (.request trivial) fun _ => .ite (.pure _) (.bind (.request trivial) fun _ => ih)

theorem outcome_confined {allowed : NetOp → Prop} {op : NetOp}
    {outcomes : NetReply op → Program NetOp NetReply (Except Exc α)} (may : allowed op)
    (ends : ∀ reply, Requests allowed (outcomes reply)) : Confined allowed (ExceptT.mk (Program.perform op outcomes)) :=
  ⟨may, ends⟩

theorem muxConnection_confined (endpoint : Endpoint) : Confined Muxed (muxConnection endpoint timeout) :=
  .bind (outcome_confined trivial fun _ => trivial) fun _ => .pure _

theorem openUnix_confined (path : String) : Confined Muxed (openUnix path timeout) :=
  .bind (outcome_confined trivial fun _ => trivial) fun _ => .bind (.request trivial) fun _ => muxConnection_confined _

theorem openUnixMux_confined : Confined Muxed (openUnixMux timeout) := by
  refine .bind findMuxSocket_confined fun found => ?_
  cases found with
  | none => exact .pure _
  | some path => exact .bind (openUnix_confined path) fun _ => .pure _

theorem tryTcpMux_confined (addr : String) : Confined Muxed (tryTcpMux int addr timeout) := by
  unfold tryTcpMux
  obtain ⟨host, portStr⟩ := splitAddress addr
  dsimp only
  cases int portStr with
  | none => exact .pure _
  | some port =>
    refine .tryCatch (.bind (outcome_confined trivial fun _ => trivial) fun _ => ?_) fun _ => .ite (.pure _) (.throw _)
    exact .bind (muxConnection_confined _) fun _ => .pure _

theorem openTcpMux_confined : Confined Muxed (openTcpMux int timeout) := by
  refine .bind (.request trivial) fun tcp => ?_
  cases truthy tcp with
  | none => exact .pure _
  | some addr => exact tryTcpMux_confined addr

theorem reopenMux_confined (attempts : Nat) : Confined Muxed (reopenMux attempts timeout) :=
  .bind defaultSocketPath_confined fun path => .bind (waitForMux_confined path attempts) fun _ =>
    .bind (outcome_confined trivial fun _ => trivial) fun _ => muxConnection_confined _

theorem connectMuxAuto_confined : Confined Muxed (connectMuxAuto int timeout) := by
  refine .bind openTcpMux_confined fun found => ?_
  cases found with
  | some conn => exact .bind (.request trivial) fun _ => .pure _
  | none =>
    refine .bind openUnixMux_confined fun found => ?_
    cases found with
    | some conn => exact .pure _
    | none => exact .throw _

theorem muxConnect_confined (path : Option String) : Confined Muxed (muxConnect path timeout) := by
  cases path with
  | some path => exact openUnix_confined path
  | none =>
    refine .bind findMuxSocket_confined fun found => ?_
    cases found with
    | none => exact .throw _
    | some path => exact openUnix_confined path

theorem muxTcpConnect_confined (host : String) (port : Int) : Confined Muxed (muxTcpConnect host port timeout) :=
  .bind (outcome_confined trivial fun _ => trivial) fun _ => .bind (.request trivial) fun _ => muxConnection_confined _

theorem opens_sticky (call : EntryPoint) (attempts : Nat) {record : Record} (sticky : Sticky (process, record)) :
    Ensures setting (call.opens int attempts) (fun _ => Sticky) (fun _ => Sticky) process record := by
  have asked {program other : Net Transport} (confined : Confined Muxed program) :
      Ensures setting (do if ← usedMux then program else other) (fun _ => Sticky) (fun _ => Sticky) process record := by
    refine (ensures_bind _ _).mpr ((ensures_logged NetOp.usedMux).mpr fun used next answered => ?_)
    cases answered
    rw [if_pos sticky.used]
    exact sticky_confined confined ⟨sticky.used, sticky.clear.cons rfl⟩
  cases call with
  | connect timeout => exact asked (reopenMux_confined attempts)
  | tryConnect timeout => exact asked connectMuxAuto_confined
  | connectMuxAuto timeout => exact sticky_confined connectMuxAuto_confined sticky
  | muxConnect path timeout => exact sticky_confined (muxConnect_confined path) sticky
  | muxTcpConnect host port timeout => exact sticky_confined (muxTcpConnect_confined host port) sticky

end Sticky

section Fresh
/-! A call that begins without the flag. -/

/-- The flag is not set, no mux has been reached and no serial port opened. -/
structure Quiet (state : Process × Record) : Prop where
  fresh : state.1.usedMux = false
  clear : Clear state.2
  unconnected : Unconnected state.2

theorem Quiet.cons {record : Record} (quiet : Quiet (process, record)) {entry : Sigma NetReply}
    (other : opensSerial entry = false) (unconnected : connected entry = false) : Quiet (process, entry :: record) :=
  ⟨quiet.fresh, quiet.clear.cons other, List.forall_mem_cons.mpr ⟨unconnected, quiet.unconnected⟩⟩

structure Muxless (int : String → Option Int) (setting : Setting) : Prop where
  tcp : ¬ setting.TcpMux int
  unix : setting.muxSocket = none

inductive Settled (int : String → Option Int) (setting : Setting) (state : Process × Record) : Prop where
  | sticky : Sticky state → Settled int setting state
  | quiet : Quiet state → Settled int setting state
  | direct : Unconnected state.2 → Muxless int setting → Settled int setting state

variable {record : Record} {raises : Exc → Process × Record → Prop}

theorem ensures_getenv (name : String) {returns : Option String → Process × Record → Prop}
    (holds : returns (setting.environ name) (process, ⟨.getenv name, setting.environ name⟩ :: record)) :
    Ensures setting (getenv name) returns raises process record := by
  refine (ensures_logged (NetOp.getenv name)).mpr fun value next answered => ?_
  cases answered
  exact holds

theorem ensures_pathExists (path : String) (fresh : process.usedMux = false) {returns : Bool → Process × Record → Prop}
    (holds : returns (setting.present path) (process, ⟨.exists path, setting.present path⟩ :: record)) :
    Ensures setting (pathExists path) returns raises process record := by
  refine (ensures_logged (NetOp.exists path)).mpr fun there next answered => ?_
  obtain ⟨same, rfl⟩ := answered
  cases same fresh
  exact holds

theorem looked_quiet (path : String) (quiet : Quiet (process, record)) {rest : Bool → Net (Option String)} {socket : Option String}
    (next : ∀ record, Quiet (process, record) → Ensures setting (rest (setting.present path))
      (fun found state => found = socket ∧ Quiet state) raises process record) :
    Ensures setting (pathExists path >>= rest) (fun found state => found = socket ∧ Quiet state) raises process record :=
  (ensures_bind _ _).mpr (ensures_pathExists path quiet.fresh (next _ (quiet.cons rfl rfl)))

theorem findMuxSocket_quiet (quiet : Quiet (process, record)) :
    Ensures setting findMuxSocket (fun found state => found = setting.muxSocket ∧ Quiet state) raises process record := by
  refine (ensures_bind _ _).mpr (ensures_getenv "DONGLORA_MUX" ?_)
  replace quiet : Quiet (process, ⟨.getenv "DONGLORA_MUX", setting.environ "DONGLORA_MUX"⟩ :: record) := quiet.cons rfl rfl
  cases mux : truthy (setting.environ "DONGLORA_MUX") with
  | some env =>
    refine looked_quiet env quiet fun record quiet => ?_
    cases there : setting.present env <;> exact ⟨by simp [Setting.muxSocket, Setting.value, mux, there], quiet⟩
  | none =>
    refine (ensures_bind _ _).mpr (ensures_getenv "XDG_RUNTIME_DIR" ?_)
    replace quiet : Quiet (process, ⟨.getenv "XDG_RUNTIME_DIR", setting.environ "XDG_RUNTIME_DIR"⟩ :: _) := quiet.cons rfl rfl
    cases runtime : truthy (setting.environ "XDG_RUNTIME_DIR") with
    | some xdg =>
      refine looked_quiet (xdgSocket xdg) quiet fun record quiet => ?_
      cases there : setting.present (xdgSocket xdg) with
      | true => exact ⟨by simp [Setting.muxSocket, Setting.value, mux, runtime, there], quiet⟩
      | false =>
        refine looked_quiet tmpSocket quiet fun record quiet => ?_
        cases last : setting.present tmpSocket <;>
          exact ⟨by simp [Setting.muxSocket, Setting.value, mux, runtime, there, last], quiet⟩
    | none =>
      refine looked_quiet tmpSocket quiet fun record quiet => ?_
      cases there : setting.present tmpSocket <;>
        exact ⟨by simp [Setting.muxSocket, Setting.value, mux, runtime, there], quiet⟩

theorem ensures_dial (endpoint : Endpoint) {returns : Unit → Process × Record → Prop}
    (reached : setting.refuses endpoint = none → returns () (process, ⟨.connect endpoint, .ok ()⟩ :: record))
    (refused : ∀ exc, setting.refuses endpoint = some exc → raises exc (process, ⟨.connect endpoint, .error exc⟩ :: record)) :
    Ensures setting (dial endpoint) returns raises process record := by
  intro reply ⟨next, _⟩ ⟨answered, same⟩
  cases same
  cases result : setting.refuses endpoint with
  | none =>
    simp only [Answers, Setting.respond, result] at answered
    cases answered
    exact reached result
  | some exc =>
    simp only [Answers, Setting.respond, result] at answered
    cases answered
    exact refused exc result

theorem ensures_muxConnection (endpoint : Endpoint) {returns : Transport → Process × Record → Prop}
    (made : setting.accepts timeout = true →
      returns ⟨endpoint, timeout⟩ (process, ⟨.settimeout timeout, .ok ()⟩ :: record))
    (refused : ∀ exc, setting.accepts timeout = false → exc.isOSError = false →
      raises exc (process, ⟨.settimeout timeout, .error exc⟩ :: record)) :
    Ensures setting (muxConnection endpoint timeout) returns raises process record := by
  refine (ensures_bind _ _).mpr ?_
  intro reply ⟨next, _⟩ ⟨answered, same⟩
  cases same
  cases accepted : setting.accepts timeout with
  | true =>
    simp only [Answers, Setting.respond, accepted, if_true] at answered
    cases answered
    exact made accepted
  | false =>
    simp only [Answers, Setting.respond, accepted, Bool.false_eq_true, if_false] at answered
    cases answered
    exact refused _ accepted rfl

theorem ensures_setUsedMux (clear : Clear record) {rest : Net α} {returns : α → Process × Record → Prop}
    (next : Sticky ({ process with usedMux := true }, ⟨.setUsedMux, ()⟩ :: record) →
      Ensures setting rest returns raises { process with usedMux := true } (⟨.setUsedMux, ()⟩ :: record)) :
    Ensures setting (setUsedMux >>= fun _ => rest) returns raises process record := by
  refine (ensures_bind _ _).mpr ((ensures_logged NetOp.setUsedMux).mpr fun _ after answered => ?_)
  cases answered
  exact next ⟨rfl, clear.cons rfl⟩

/-- Once the socket is connected, the flag is set before anything can fail. -/
theorem reached_quiet (quiet : Quiet (process, record)) {endpoint : Endpoint}
    (mux : opensSerial ⟨.connect endpoint, .ok ()⟩ = false)
    (failed : ∀ exc, Quiet (process, ⟨.connect endpoint, .error exc⟩ :: record)) :
    Ensures setting (do dial endpoint; setUsedMux; muxConnection endpoint timeout) (fun _ => Sticky)
      (fun _ state => Sticky state ∨ Quiet state) process record := by
  refine (ensures_bind _ _).mpr (ensures_dial _ (fun _ => ?_) fun exc _ => Or.inr (failed exc))
  refine ensures_setUsedMux (quiet.clear.cons mux) fun sticky => ?_
  exact (sticky_confined (muxConnection_confined _) sticky).mono (fun _ _ kept => kept) fun _ _ kept => Or.inl kept

theorem openUnix_quiet (quiet : Quiet (process, record)) (path : String) :
    Ensures setting (openUnix path timeout) (fun _ => Sticky) (fun _ state => Sticky state ∨ Quiet state) process
      record :=
  reached_quiet quiet rfl fun _ => quiet.cons rfl rfl

theorem muxTcpConnect_quiet (quiet : Quiet (process, record)) (host : String) (port : Int) :
    Ensures setting (muxTcpConnect host port timeout) (fun _ => Sticky) (fun _ state => Sticky state ∨ Quiet state)
      process record :=
  reached_quiet quiet rfl fun _ => quiet.cons rfl rfl

theorem openUnixMux_quiet (quiet : Quiet (process, record)) :
    Ensures setting (openUnixMux timeout)
      (fun found state => (found = none → Quiet state ∧ setting.muxSocket = none) ∧ (found ≠ none → Sticky state))
      (fun _ state => Sticky state ∨ Quiet state) process record := by
  refine (ensures_bind _ _).mpr ((findMuxSocket_quiet quiet).mono ?_ fun _ _ raised => raised)
  intro found ⟨middle, after⟩ ⟨same, quiet⟩
  cases found with
  | none => exact ⟨fun _ => ⟨quiet, same.symm⟩, fun some => absurd rfl some⟩
  | some path =>
    refine (ensures_bind _ _).mpr ((openUnix_quiet quiet path).mono ?_ fun _ _ raised => raised)
    exact fun conn last sticky => ⟨nofun, fun _ => sticky⟩

/-- `DONGLORA_MUX_TCP`, where an address that is reached comes with a timeout that the
socket accepts. -/
theorem tryTcpMux_quiet (quiet : Quiet (process, record)) {addr : String} (set : setting.value "DONGLORA_MUX_TCP" = some addr)
    (accepts : setting.TcpMux int → setting.accepts timeout = true) :
    Ensures setting (tryTcpMux int addr timeout)
      (fun found state => (found = none → Quiet state ∧ ¬ setting.TcpMux int) ∧ (found ≠ none → Clear state.2))
      (fun _ state => Quiet state) process record := by
  unfold tryTcpMux
  cases parsed : int (splitAddress addr).2 with
  | none =>
    simp only [parsed]
    refine ⟨fun _ => ⟨quiet, not_tcpMux fun other same => ?_⟩, fun some => absurd rfl some⟩
    cases set.symm.trans same
    exact parsed
  | some port =>
    simp only [parsed]
    refine (ensures_tryCatch _ _).mpr ((ensures_bind _ _).mpr (ensures_dial _ (fun reached => ?_) fun exc refused => ?_))
    · have accepted := accepts ((tcpMux_iff set parsed).mpr reached)
      refine (ensures_bind _ _).mpr (ensures_muxConnection _ (fun _ => ⟨nofun, fun _ => ?_⟩) fun exc rejected _ => ?_)
      · exact (quiet.clear.cons rfl).cons rfl
      · cases accepted.symm.trans rejected
    · have kept : Quiet (process, ⟨.connect (.tcp (splitAddress addr).1 port), .error exc⟩ :: record) := quiet.cons rfl rfl
      have unreached : ¬ setting.TcpMux int := fun reached => by
        cases refused.symm.trans ((tcpMux_iff set parsed).mp reached)
      exact (ensures_ite _ _ _).mpr ⟨fun _ => ⟨fun _ => ⟨kept, unreached⟩, fun some => absurd rfl some⟩, fun _ => kept⟩

theorem openTcpMux_quiet (quiet : Quiet (process, record)) (accepts : setting.TcpMux int → setting.accepts timeout = true) :
    Ensures setting (openTcpMux int timeout)
      (fun found state => (found = none → Quiet state ∧ ¬ setting.TcpMux int) ∧ (found ≠ none → Clear state.2))
      (fun _ state => Quiet state) process record := by
  refine (ensures_bind _ _).mpr (ensures_getenv "DONGLORA_MUX_TCP" ?_)
  have kept : Quiet (process, ⟨.getenv "DONGLORA_MUX_TCP", setting.environ "DONGLORA_MUX_TCP"⟩ :: record) := quiet.cons rfl rfl
  cases set : truthy (setting.environ "DONGLORA_MUX_TCP") with
  | some addr => exact tryTcpMux_quiet kept set accepts
  | none =>
    refine ⟨fun _ => ⟨kept, not_tcpMux fun addr same => ?_⟩, fun some => absurd rfl some⟩
    cases set.symm.trans same

theorem choice_settled (quiet : Quiet (process, record)) (accepts : setting.TcpMux int → setting.accepts timeout = true)
    {resort : Net Transport}
    (resorts : ∀ process record, Quiet (process, record) → Muxless int setting →
      Ensures setting resort (fun _ => Settled int setting) (fun _ => Settled int setting) process record) :
    Ensures setting (do
        match ← openTcpMux int timeout with
        | some conn =>
          setUsedMux
          return conn
        | none =>
          match ← openUnixMux timeout with
          | some conn => return conn
          | none => resort)
      (fun _ => Settled int setting) (fun _ => Settled int setting) process record := by
  refine (ensures_bind _ _).mpr ((openTcpMux_quiet quiet accepts).mono ?_ fun _ _ raised => .quiet raised)
  intro found ⟨middle, after⟩ ⟨missed, reached⟩
  cases found with
  | some conn => exact ensures_setUsedMux (reached nofun) fun sticky => .sticky sticky
  | none =>
    obtain ⟨quiet, tcp⟩ := missed rfl
    refine (ensures_bind _ _).mpr ((openUnixMux_quiet quiet).mono ?_ fun _ _ raised => raised.elim .sticky .quiet)
    intro found ⟨later, done⟩ ⟨missed, reached⟩
    cases found with
    | some conn => exact .sticky (reached nofun)
    | none => exact resorts _ _ (missed rfl).1 ⟨tcp, (missed rfl).2⟩

def Direct : NetOp → Prop
  | .connect (.unix _) | .connect (.tcp _ _) => False
  | _ => True

theorem direct_unconnected {op : NetOp} (direct : Direct op) (reply : NetReply op) : connected ⟨op, reply⟩ = false := by
  cases op with
  | connect endpoint =>
    cases endpoint with
    | serial port => rfl
    | unix path => exact direct.elim
    | tcp host port => exact direct.elim
  | _ => rfl

theorem direct_confined {program : Net α} (confined : Confined Direct program) (muxless : Muxless int setting)
    (quiet : Quiet (process, record)) :
    Ensures setting program (fun _ => Settled int setting) (fun _ => Settled int setting) process record := by
  have ensures : Ensures setting program (fun _ state => Unconnected state.2) (fun _ state => Unconnected state.2)
      process record := by
    refine Confined.ensures confined (fun state op reply next direct answered unconnected => ?_) quiet.unconnected
    rw [answered.2]
    exact List.forall_mem_cons.mpr ⟨direct_unconnected direct reply, unconnected⟩
  exact ensures.mono (fun _ _ held => .direct held muxless) fun _ _ held => .direct held muxless

theorem openSerial_confined (port : String) : Confined Direct (openSerial port timeout) :=
  .bind (outcome_confined trivial fun _ => trivial) fun _ => .pure _

theorem waitForDevice_confined (attempts : Nat) : Confined Direct (waitForDevice attempts) := by
  induction attempts with
  | zero => trivial
  | succ attempts ih =>
    refine .bind (.request trivial) fun found => ?_
    cases truthy found with
    | some port => exact .bind (.request trivial) fun _ => .pure _
    | none => exact .bind (.request trivial) fun _ => ih

theorem openUsb_confined (attempts : Nat) : Confined Direct (openUsb attempts timeout) := by
  refine .bind (.request trivial) fun found => ?_
  cases found with
  | some port => exact openSerial_confined port
  | none => exact .bind (waitForDevice_confined attempts) fun port => openSerial_confined port

theorem opens_settled (call : EntryPoint) (attempts : Nat)
    (accepts : ∀ timeout, call.tcpTimeout = some timeout → setting.TcpMux int → setting.accepts timeout = true)
    (quiet : Quiet (process, record)) :
    Ensures setting (call.opens int attempts) (fun _ => Settled int setting) (fun _ => Settled int setting) process
      record := by
  have asked {program other : Net Transport}
      (rest : ∀ record, Quiet (process, record) → Ensures setting other (fun _ => Settled int setting)
        (fun _ => Settled int setting) process record) :
      Ensures setting (do if ← usedMux then program else other) (fun _ => Settled int setting)
        (fun _ => Settled int setting) process record := by
    refine (ensures_bind _ _).mpr ((ensures_logged NetOp.usedMux).mpr fun used next answered => ?_)
    cases answered
    rw [quiet.fresh, if_neg Bool.false_ne_true]
    exact rest _ (quiet.cons rfl rfl)
  have opened {program : Net Transport} {process : Process} {record : Record}
      (ensures : Ensures setting program (fun _ => Sticky) (fun _ state => Sticky state ∨ Quiet state) process record) :
      Ensures setting program (fun _ => Settled int setting) (fun _ => Settled int setting) process record :=
    ensures.mono (fun _ _ sticky => .sticky sticky) fun _ _ raised => raised.elim .sticky .quiet
  cases call with
  | connect timeout =>
    exact asked fun record quiet => choice_settled quiet (accepts timeout rfl) fun process record quiet muxless =>
      direct_confined (openUsb_confined attempts) muxless quiet
  | tryConnect timeout =>
    refine asked fun record quiet => choice_settled quiet (accepts timeout rfl) fun process record quiet muxless => ?_
    refine direct_confined (.bind (.request trivial) fun found => ?_) muxless quiet
    cases found with
    | none => exact .throw _
    | some port => exact openSerial_confined port
  | connectMuxAuto timeout =>
    exact choice_settled quiet (accepts timeout rfl) fun process record quiet _ => .quiet quiet
  | muxConnect path timeout =>
    cases path with
    | some path => exact opened (openUnix_quiet quiet path)
    | none =>
      refine (ensures_bind _ _).mpr ((findMuxSocket_quiet quiet).mono ?_ fun _ _ raised => raised)
      intro found ⟨middle, after⟩ ⟨same, quiet⟩
      cases found with
      | none => exact .quiet quiet
      | some path => exact opened (openUnix_quiet quiet path)
  | muxTcpConnect host port timeout => exact opened (muxTcpConnect_quiet quiet host port)

end Fresh

section Calls

variable {episode : Episode} {next : Process}

theorem Takes.ends {property : Process × Record → Prop} (taken : Takes int process episode next)
    (ensures : ∀ attempts, Ensures episode.setting (episode.call.opens int attempts) (fun _ => property)
      (fun _ => property) process []) : property (next, episode.record) := by
  obtain ⟨attempts, result, executed⟩ := taken
  have ended := executed.ends (ensures attempts)
  cases result with
  | ok conn => exact ended
  | error exc => exact ended

theorem Takes.sticky (taken : Takes int process episode next) (used : process.usedMux = true) :
    Sticky (next, episode.record) :=
  taken.ends fun attempts => opens_sticky episode.call attempts ⟨used, List.forall_mem_nil _⟩

theorem Takes.settled (taken : Takes int process episode next) (accepts : Accepts int process episode) :
    Settled int episode.setting (next, episode.record) := by
  cases fresh : process.usedMux with
  | true => exact .sticky (taken.sticky fresh)
  | false =>
    exact taken.ends fun attempts => opens_settled episode.call attempts (accepts fresh)
      ⟨fresh, List.forall_mem_nil _, List.forall_mem_nil _⟩

theorem Settled.marked {state : Process × Record} (settled : Settled int setting state) (fresh : state.1.usedMux = false) :
    Unconnected state.2 := by
  cases settled with
  | sticky sticky => cases fresh.symm.trans sticky.used
  | quiet quiet => exact quiet.unconnected
  | direct unconnected muxless => exact unconnected

theorem Settled.opened {state : Process × Record} (settled : Settled int setting state) (opens : ¬ Clear state.2) :
    Unconnected state.2 ∧ Muxless int setting := by
  cases settled with
  | sticky sticky => exact absurd sticky.clear opens
  | quiet quiet => exact absurd quiet.clear opens
  | direct unconnected muxless => exact ⟨unconnected, muxless⟩

/-- What holds after every call: the calls so far are rightful, and without the flag none
of them has reached a mux. -/
structure Orderly (int : String → Option Int) (episodes : List Episode) (process : Process) : Prop where
  rightful : ∀ earlier episode later, episodes = earlier ++ episode :: later → Rightful int earlier episode
  marked : process.usedMux = false → ∀ episode ∈ episodes, Unconnected episode.record

theorem Orderly.snoc {episodes : List Episode} (orderly : Orderly int episodes process)
    (taken : Takes int process episode next) (accepts : Accepts int process episode) :
    Orderly int (episodes ++ [episode]) next := by
  have settled := taken.settled accepts
  constructor
  · intro earlier other later split
    obtain rfl | ⟨rest, last, rfl⟩ := List.eq_nil_or_concat later
    · obtain ⟨rfl, same⟩ := List.append_inj' split rfl
      cases same
      intro opens
      have fresh : process.usedMux = false := by
        by_contra used
        exact opens (taken.sticky (by simpa using used)).clear
      obtain ⟨unconnected, muxless⟩ := settled.opened opens
      exact ⟨orderly.marked fresh, unconnected, muxless.tcp, muxless.unix⟩
    · have inside : episodes = earlier ++ other :: rest := by
        rw [List.concat_eq_append, ← List.cons_append, ← List.append_assoc] at split
        exact (List.append_inj' split rfl).1
      exact orderly.rightful earlier other rest inside
  · intro fresh other present
    obtain before | rfl := (List.mem_append.mp present).imp_right List.mem_singleton.mp
    · refine orderly.marked ?_ other before
      by_contra used
      cases fresh.symm.trans (taken.sticky (by simpa using used)).used
    · exact settled.marked fresh

/-- In a run whose calls each meet the condition, a serial port is opened only by a call
that has no mux to go to, and before any mux has been reached. -/
theorem serial_rightful {episodes earlier later : List Episode} {last : Process}
    (run : Run (Guarded (Takes int) (Accepts int)) {} episodes last) (split : episodes = earlier ++ episode :: later) :
    Rightful int earlier episode := by
  have orderly : Orderly int episodes last := by
    refine run.invariant ⟨fun earlier episode later split => ?_, fun _ => List.forall_mem_nil _⟩ ?_
    · cases List.append_ne_nil_of_right_ne_nil _ (List.cons_ne_nil _ _) split.symm
    · exact fun _ _ _ _ orderly taken => orderly.snoc taken.1 taken.2
  exact orderly.rightful earlier episode later split

end Calls

/-- A call as it goes in surroundings that stay as they are meanwhile. -/
def played (int : String → Option Int) (setting : Setting) (process : Process) (call : EntryPoint) : Episode where
  setting
  call
  record := ((execute (logged setting.respond) (call.opens int 0).run (process, [])).map fun ended => ended.2.2).getD []

theorem respond_answers (setting : Setting) (process : Process) (op : NetOp) (reply : NetReply op) (next : Process)
    (responded : setting.respond process op = some (reply, next)) : Answers setting process op reply next := by
  cases op with
  | findPort =>
    cases responded
    rfl
  | «exists» path =>
    cases responded
    exact ⟨fun _ => rfl, rfl⟩
  | _ => exact responded

theorem played_takes {call : EntryPoint} {next : Process}
    (ended : (execute (logged setting.respond) (call.opens int 0).run (process, [])).map (fun ended => ended.2.1) = some next) :
    Takes int process (played int setting process call) next := by
  obtain ⟨⟨result, after, record⟩, executed, rfl⟩ := Option.map_eq_some_iff.mp ended
  refine ⟨0, result, ?_⟩
  have same : (played int setting process call).record = record := by simp [played, executed]
  rw [same]
  exact execute_executes (logged_sound (respond_answers setting)) executed

instance (record : Record) : Decidable (Clear record) :=
  inferInstanceAs (Decidable (∀ entry ∈ record, opensSerial entry = false))

instance (record : Record) : Decidable (Unconnected record) :=
  inferInstanceAs (Decidable (∀ entry ∈ record, connected entry = false))

def plugged : Setting := { only [] [.serial "/dev/ttyACM0"] with port := some "/dev/ttyACM0" }

/-- A call for a mux that is not there, the device, and a mux at last. -/
theorem serial_rightful_plugged : ¬ Clear (played portNumber plugged {} (.connect 2)).record ∧
    Rightful portNumber [played portNumber plugged {} (.muxConnect none 2)] (played portNumber plugged {} (.connect 2)) := by
  have missed : Takes portNumber {} (played portNumber plugged {} (.muxConnect none 2)) {} :=
    played_takes (by decide +kernel)
  have opened : Takes portNumber {} (played portNumber plugged {} (.connect 2)) {} := played_takes (by decide +kernel)
  have reached : Takes portNumber {} (played portNumber remote {} (.tryConnect 2)) { usedMux := true } :=
    played_takes (by decide +kernel)
  have accepted (setting : Setting) (call : EntryPoint) (two : ∀ timeout ∈ call.tcpTimeout, timeout = 2)
      (accepts : setting.accepts 2 = true) : Accepts portNumber {} (played portNumber setting {} call) := by
    intro _ timeout tried _
    rw [two timeout tried]
    exact accepts
  have run : Run (Guarded (Takes portNumber) (Accepts portNumber)) {}
      ([played portNumber plugged {} (.muxConnect none 2)] ++ [played portNumber plugged {} (.connect 2)] ++
        [played portNumber remote {} (.tryConnect 2)]) { usedMux := true } := by
    refine ((Run.single ⟨missed, accepted plugged (.muxConnect none 2) (by decide) rfl⟩).snoc ⟨opened, ?_⟩).snoc ⟨reached, ?_⟩
    · exact accepted remote (.tryConnect 2) (by decide) rfl
    · exact accepted plugged (.connect 2) (by decide) rfl
  exact ⟨by decide +kernel, serial_rightful run rfl⟩

/-- A timeout that the socket does not accept: the mux has been reached, but the flag is
not set, and the next call opens the device. -/
theorem serial_after_mux : ¬ ∀ episodes earlier later episode last, Run (Takes portNumber) {} episodes last →
    episodes = earlier ++ episode :: later → Rightful portNumber earlier episode := by
  intro rightful
  have refused : Takes portNumber {} (played portNumber remote {} (.connect (-1))) {} :=
    played_takes (by decide +kernel)
  have opened : Takes portNumber {} (played portNumber plugged {} (.connect 2)) {} := played_takes (by decide +kernel)
  have opens : ¬ Clear (played portNumber plugged {} (.connect 2)).record := by decide +kernel
  have prior := (rightful _ [_] [] _ _ ((Run.single refused).snoc opened) rfl opens).1
  have reached : ¬ Unconnected (played portNumber remote {} (.connect (-1))).record := by decide +kernel
  exact reached (prior _ (List.mem_singleton_self _))

end DongloraClient.Proofs.MuxCalls
