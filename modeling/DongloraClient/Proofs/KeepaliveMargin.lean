import DongloraClient.Timeline
import DongloraClient.Proofs.DongleLogic
import Mathlib.Algebra.Order.Ring.Rat
import Mathlib.Tactic.Linarith

/-! How long the device may go without a frame while the keepalive thread runs. -/

namespace DongloraClient.Proofs.KeepaliveMargin
open Program Python Timeline Transition
open Polling (Timely)

variable {self : Dongle} {timeline state last : Timeline} {begun : Nat} {α : Type}

abbrev Ensures (program : Python α) (returns : α → Timeline → Prop) (raises : Exc → Timeline → Prop)
    (timeline : Timeline) : Prop :=
  Program.Ensures Timeline.Answers program returns raises timeline

abbrev Keeps (invariant : Timeline → Prop) (program : Python α) : Prop :=
  Program.Keeps Timeline.Answers invariant (fun _ => invariant) program

section Requests
variable {raises : Exc → Timeline → Prop}

@[simp] theorem ensures_read (field : Attributes → α) {returns : α → Timeline → Prop} :
    Ensures (Python.read field) returns raises timeline ↔ returns (field timeline.attributes) timeline := by
  constructor
  · exact fun ensures => ensures timeline.attributes timeline ⟨rfl, rfl⟩
  · intro holds attributes next ⟨same, after⟩
    cases same
    cases after
    exact holds

@[simp] theorem ensures_assign (change : Attributes → Attributes) {returns : Unit → Timeline → Prop} :
    Ensures (assign change) returns raises timeline ↔
      returns () { timeline with attributes := change timeline.attributes } := by
  constructor
  · exact fun ensures => ensures () _ ⟨trivial, rfl⟩
  · intro holds reply next ⟨_, after⟩
    cases after
    exact holds

@[simp] theorem ensures_now {returns : Rat → Timeline → Prop} :
    Ensures Python.now returns raises timeline ↔ returns (seconds timeline.now) timeline := by
  constructor
  · exact fun ensures => ensures _ _ ⟨rfl, rfl⟩
  · intro holds time next ⟨same, after⟩
    cases same
    cases after
    exact holds

@[simp] theorem ensures_isAlive (session : Nat) {returns : Bool → Timeline → Prop} :
    Ensures (isAlive session) returns raises timeline ↔ returns true timeline := by
  constructor
  · exact fun ensures => ensures true _ ⟨rfl, rfl⟩
  · intro holds living next ⟨same, after⟩
    cases same
    cases after
    exact holds

theorem ensures_command (session : Nat) (request : Request) (limit : Option Rat)
    {returns : request.Value → Timeline → Prop}
    (returned : ∀ value, returns value { timeline with sent := timeline.now })
    (raised : ∀ exc, raises exc { timeline with sent := timeline.now }) :
    Ensures (command session request limit) returns raises timeline := by
  intro reply next ⟨_, after⟩
  cases after
  cases reply with
  | error exc => exact raised exc
  | ok value => exact returned value

theorem ensureSessionAlive_alive {returns : Unit → Timeline → Prop} :
    Ensures self.ensureSessionAlive returns raises timeline ↔ returns () timeline := by
  simp only [Dongle.ensureSessionAlive, ensures_bind, ensures_read, ensures_isAlive, if_true, ensures_pure]

theorem markWrite_ensures {returns : Unit → Timeline → Prop} :
    Ensures Dongle.markWrite returns raises timeline ↔ returns () { timeline with
      attributes := { timeline.attributes with lastWriteTime := seconds timeline.now } } := by
  simp only [Dongle.markWrite, ensures_bind, ensures_now, ensures_assign]

end Requests

section Commands
/-! What a user's call does: it stamps the time and sends, both at the same moment. -/

structure Marked (timeline last : Timeline) : Prop where
  now : last.now = timeline.now
  wakes : last.wakes = timeline.wakes
  closed : last.attributes.closed = timeline.attributes.closed
  marked : last.attributes.lastWriteTime = seconds timeline.now

structure Commanded (timeline last : Timeline) : Prop extends Marked timeline last where
  sent : last.sent = timeline.now

theorem read_keeps {invariant : Timeline → Prop} (field : Attributes → α) : Keeps invariant (Python.read field) :=
  fun _ holds => (ensures_read field).mpr holds

theorem isAlive_keeps {invariant : Timeline → Prop} (session : Nat) : Keeps invariant (isAlive session) :=
  fun _ holds => (ensures_isAlive session).mpr holds

theorem assign_commanded {change : Attributes → Attributes}
    (closed : ∀ attributes, (change attributes).closed = attributes.closed)
    (marked : ∀ attributes, (change attributes).lastWriteTime = attributes.lastWriteTime) :
    Keeps (Commanded timeline) (assign change) := by
  intro state commanded
  refine (ensures_assign change).mpr ⟨⟨commanded.now, commanded.wakes, ?_, ?_⟩, commanded.sent⟩
  · exact (closed _).trans commanded.closed
  · exact (marked _).trans commanded.marked

theorem command_commanded (marked : Marked timeline state) (session : Nat) (request : Request) (limit : Option Rat) :
    Ensures (command session request limit) (fun _ => Commanded timeline) (fun _ => Commanded timeline) state := by
  have sent : Commanded timeline { state with sent := state.now } :=
    ⟨⟨marked.now, marked.wakes, marked.closed, marked.marked⟩, marked.now⟩
  exact ensures_command session request limit (fun _ => sent) fun _ => sent

theorem command_keeps (session : Nat) (request : Request) (limit : Option Rat) :
    Keeps (Commanded timeline) (command session request limit) :=
  fun _ commanded => command_commanded commanded.toMarked session request limit

theorem reapplyConfig_keeps : Keeps (Commanded timeline) Dongle.reapplyConfig := by
  refine (read_keeps _).bind fun session => (read_keeps _).bind fun applied => ?_
  cases applied with
  | none => exact .throw fun _ commanded => commanded
  | some config => exact (command_keeps session _ _).bind fun _ => .pure _

theorem commanded_bind {β : Type} {program : Python α} {next : α → Python β}
    (commands : Ensures program (fun _ => Commanded timeline) (fun _ => Commanded timeline) state)
    (kept : ∀ value, Keeps (Commanded timeline) (next value)) :
    Ensures (program >>= next) (fun _ => Commanded timeline) (fun _ => Commanded timeline) state :=
  (ensures_bind _ _).mpr (commands.mono (fun value middle commanded => kept value middle commanded) fun _ _ commanded =>
    commanded)

abbrev Sends (timeline : Timeline) (program : Python α) : Prop :=
  ∀ state, Marked timeline state → Ensures program (fun _ => Commanded timeline) (fun _ => Commanded timeline) state

theorem withRecovery_sends {op : Python α} (sends : Sends timeline op) : Sends timeline (self.withRecovery op) := by
  intro state marked
  have again : Keeps (Commanded timeline) op := fun state commanded => sends state commanded.toMarked
  refine (ensures_bind _ _).mpr (ensureSessionAlive_alive.mpr ((ensures_tryCatch _ _).mpr ?_))
  refine (sends state marked).mono (fun _ _ commanded => commanded) fun exc middle commanded => ?_
  have rethrow : Keeps (Commanded timeline) (throw exc : Python α) := .throw fun _ commanded => commanded
  have revives : Keeps (Commanded timeline) self.ensureSessionAlive :=
    fun _ commanded => ensureSessionAlive_alive.mpr commanded
  have handler : Keeps (Commanded timeline) (do
      if exc.isNotConfigured then
        if (← Python.read Attributes.appliedConfig).isNone then throw exc
        else
          Dongle.reapplyConfig
          op
      else if exc.isDonglora then
        if !(← isAlive (← Python.read Attributes.session)) && self.reopener.isSome then
          self.ensureSessionAlive
          op
        else throw exc
      else throw exc) :=
    .ite ((read_keeps _).bind fun _ => .ite rethrow (reapplyConfig_keeps.bind fun _ => again))
      (.ite ((read_keeps _).bind fun session => (isAlive_keeps session).bind fun _ =>
        .ite (revives.bind fun _ => again) rethrow) rethrow)
  exact handler middle commanded

theorem command_sends (request : Request) (limit : Option Rat) :
    Sends timeline (do command (← Python.read Attributes.session) request limit) :=
  fun _ marked => (ensures_bind _ _).mpr ((ensures_read _).mpr (command_commanded marked _ request limit))

theorem command_then_sends {β : Type} (request : Request) (limit : Option Rat) {next : request.Value → Python β}
    (kept : ∀ value, Keeps (Commanded timeline) (next value)) :
    Sends timeline (do next (← command (← Python.read Attributes.session) request limit)) :=
  fun _ marked => (ensures_bind _ _).mpr ((ensures_read _).mpr (commanded_bind (command_commanded marked _ request limit)
    kept))

theorem stamped_sends {program : Python α} (sends : Sends timeline program) :
    Ensures (do
      Dongle.markWrite
      program) (fun _ => Commanded timeline) (fun _ => Commanded timeline) timeline :=
  (ensures_bind _ _).mpr (markWrite_ensures.mpr (sends _ ⟨rfl, rfl, rfl, rfl⟩))

theorem checkOpen_open (isOpen : timeline.attributes.closed = false) {returns : Unit → Timeline → Prop}
    {raises : Exc → Timeline → Prop} : Ensures Dongle.checkOpen returns raises timeline ↔ returns () timeline := by
  simp only [Dongle.checkOpen, ensures_bind, ensures_read, isOpen, Bool.false_eq_true, if_false, ensures_pure]

theorem startRx_commands (stopped : timeline.attributes.rxStarted = false) :
    Ensures self.startRx (fun _ => Commanded timeline) (fun _ => Commanded timeline) timeline := by
  have starts : Sends timeline (do
      self.withRecovery do rxStart (← Python.read Attributes.session)
      assign fun attributes => { attributes with rxStarted := true }) :=
    fun state marked => commanded_bind (withRecovery_sends (command_sends .rxStart _) state marked) fun _ =>
      assign_commanded (fun _ => rfl) fun _ => rfl
  refine (ensures_bind _ _).mpr ((ensures_read Attributes.rxStarted).mpr ?_)
  rw [stopped]
  exact (ensures_ite _ _ _).mpr ⟨fun _ => stamped_sends starts, fun off => absurd rfl off⟩

theorem opened_ensures {program : Python α} {returns : α → Timeline → Prop} {raises : Exc → Timeline → Prop}
    (isOpen : timeline.attributes.closed = false) (ensures : Ensures program returns raises timeline) :
    Ensures (do
      Dongle.checkOpen
      program) returns raises timeline :=
  (ensures_bind _ _).mpr ((checkOpen_open isOpen).mpr ensures)

/-- `rx_stop`, `set_config` and `ping` begin in the same way. -/
theorem entered_commands {program : Python α} (isOpen : timeline.attributes.closed = false)
    (sends : Sends timeline program) :
    Ensures (do
      Dongle.checkOpen
      self.ensureSessionAlive
      Dongle.markWrite
      program) (fun _ => Commanded timeline) (fun _ => Commanded timeline) timeline :=
  opened_ensures isOpen ((ensures_bind _ _).mpr (ensureSessionAlive_alive.mpr (stamped_sends sends)))

theorem nextRx_keeps (session : Nat) (timeout : Option Rat) : Keeps (Commanded timeline) (nextRx session timeout) := by
  intro state commanded reply next ⟨_, after⟩
  cases after
  exact commanded

theorem call_commands {operation : Operation} (isOpen : timeline.attributes.closed = false)
    (commands : timeline.Commands operation) :
    Ensures (self.call operation) (fun _ => Commanded timeline) (fun _ => Commanded timeline) timeline := by
  cases operation with
  | tx data skipCad timeout =>
    refine commanded_bind (opened_ensures isOpen (stamped_sends ?_)) fun _ => .pure _
    exact withRecovery_sends (command_sends _ _)
  | rx timeout =>
    refine commanded_bind (opened_ensures isOpen ?_) fun _ => .pure _
    exact commanded_bind (startRx_commands commands) fun _ => .pure _
  | recv timeout =>
    refine commanded_bind (opened_ensures isOpen ?_) fun _ => .pure _
    refine (ensures_bind _ _).mpr (ensureSessionAlive_alive.mpr (commanded_bind (startRx_commands commands) fun _ => ?_))
    refine (read_keeps _).bind fun session => (nextRx_keeps session timeout).bind fun pkt => .ite ?_ (.pure _)
    refine (read_keeps _).bind fun session => (isAlive_keeps session).bind fun living => .ite ?_ (.pure _)
    exact Keeps.bind (fun _ commanded => ensureSessionAlive_alive.mpr commanded) fun _ => .pure _
  | rxStop =>
    refine entered_commands isOpen (command_then_sends .rxStop _ fun _ => ?_)
    exact assign_commanded (fun _ => rfl) fun _ => rfl
  | setConfig config =>
    refine entered_commands isOpen (command_then_sends (.setConfig config) _ fun _ => ?_)
    refine Keeps.bind ?_ fun _ => ?_
    · exact assign_commanded (fun _ => rfl) fun _ => rfl
    · exact assign_commanded (fun _ => rfl) fun _ => rfl
  | ping => exact entered_commands isOpen (command_sends .ping _)
  | next _ => exact commands.elim
  | close => exact commands.elim
  | keepalive => exact commands.elim

end Commands
section Wakes

def Recent (timeline : Timeline) : Prop :=
  seconds timeline.now - timeline.attributes.lastWriteTime < Dongle.keepaliveInterval

/-- A `PING` has been sent. Its time is stamped if it has been answered. -/
structure Pinged (timeline last : Timeline) : Prop where
  now : last.now = timeline.now
  sent : last.sent = timeline.now
  closed : last.attributes.closed = timeline.attributes.closed
  marked : last.attributes.lastWriteTime = timeline.attributes.lastWriteTime ∨
    last.attributes.lastWriteTime = seconds timeline.now

/-- What an iteration comes to once its wait has expired. -/
inductive Woken (timeline : Timeline) : Timeline → Prop where
  | recent : Recent timeline → Woken timeline timeline
  | idle {last : Timeline} : ¬ Recent timeline → Pinged timeline last → Woken timeline last

theorem command_pinged (pinged : Pinged timeline state) (session : Nat) (request : Request) (limit : Option Rat) :
    Ensures (command session request limit) (fun _ => Pinged timeline) (fun _ => Pinged timeline) state := by
  have sent : Pinged timeline { state with sent := state.now } :=
    ⟨pinged.now, pinged.now, pinged.closed, pinged.marked⟩
  exact ensures_command session request limit (fun _ => sent) fun _ => sent

theorem keepaliveReapply_pinged (pinged : Pinged timeline state) {raises : Exc → Timeline → Prop} :
    Ensures Dongle.keepaliveReapply (fun _ => Pinged timeline) raises state := by
  have reapplies : Keeps (Pinged timeline) Dongle.reapplyConfig := by
    refine (read_keeps _).bind fun session => (read_keeps _).bind fun applied => ?_
    cases applied with
    | none => exact .throw fun _ pinged => pinged
    | some config => exact Keeps.bind (fun _ pinged => command_pinged pinged session _ _) fun _ => .pure _
  simp only [Dongle.keepaliveReapply, ensures_bind, ensures_read, ensures_ite, ensures_tryCatch, ensures_pure]
  exact ⟨fun _ => reapplies state pinged, fun _ => pinged⟩

theorem keepaliveIteration_wakes :
    Ensures self.keepaliveIteration (fun _ => Woken timeline) (fun _ _ => False) timeline := by
  simp only [Dongle.keepaliveIteration, ensures_bind, ensures_read, ensures_isAlive, Bool.not_true, Bool.false_and,
    Bool.false_eq_true, if_false, ensures_now]
  refine (ensures_ite _ _ _).mpr ⟨fun recent => .recent recent, fun idle => (ensures_tryCatch _ _).mpr ?_⟩
  have sent : Pinged timeline { timeline with sent := timeline.now } := ⟨rfl, rfl, rfl, Or.inl rfl⟩
  refine (ensures_bind _ _).mpr ((ensures_read _).mpr ((ensures_bind _ _).mpr ?_))
  refine ensures_command _ .ping _ (fun _ => markWrite_ensures.mpr ?_) fun exc => ?_
  · exact .idle idle ⟨rfl, rfl, rfl, Or.inr rfl⟩
  · refine (ensures_ite _ _ _).mpr ⟨fun _ => ?_, fun _ => .idle idle sent⟩
    exact (keepaliveReapply_pinged sent).mono (fun _ _ pinged => .idle idle pinged) fun _ _ raised => raised

end Wakes

section Schedules

/-- The times are those of the loop, counted from where the thread began. -/
structure Seen (begun : Nat) (timeline : Timeline) (state : Polling.State) : Prop where
  now : timeline.now = begun + state.now
  wakes : timeline.wakes = begun + state.due
  sent : timeline.sent = begun + state.acted
  marked : timeline.attributes.lastWriteTime = seconds (begun + state.marked)
  isOpen : timeline.attributes.closed = false

theorem begins_seen (begins : timeline.Begins begun) : Seen begun timeline (Polling.start interval) :=
  ⟨begins.now, begins.wakes, begins.sent, begins.marked, begins.isOpen⟩

theorem recent_iff {state : Polling.State} (seen : Seen begun timeline state) :
    Recent timeline ↔ state.now - state.marked < interval := by
  have scaled : Recent timeline ↔ ((begun + state.now : Nat) : Rat) < ((begun + state.marked + 500 : Nat) : Rat) := by
    rw [Recent, seen.now, seen.marked, seconds, seconds, Dongle.keepaliveInterval, Nat.cast_add _ 500]
    constructor <;> intro recent <;> norm_num at * <;> linarith
  rw [scaled, Nat.cast_lt, interval]
  omega

theorem silence_seen {state : Polling.State} (seen : Seen begun timeline state) : timeline.silence = state.silence := by
  rw [Timeline.silence, Polling.State.silence, seen.now, seen.sent]
  exact Nat.add_sub_add_left begun _ _

theorem passes_seen {happening : Happening} {next : Timeline} {state : Polling.State} (seen : Seen begun timeline state)
    (passes : self.Passes timeline happening next) :
    ∃ after, Polling.Step interval state happening.view after ∧ Seen begun next after := by
  cases passes with
  | tick waiting =>
    rw [seen.now, seen.wakes] at waiting
    refine ⟨_, .tick (Nat.lt_of_add_lt_add_left waiting), ?_⟩
    exact ⟨congrArg Nat.succ seen.now, seen.wakes, seen.sent, seen.marked, seen.isOpen⟩
  | @wake next result woken executed =>
    rw [seen.now, seen.wakes] at woken
    have due : state.now = state.due := Nat.add_left_cancel woken
    have ended := executed.ends keepaliveIteration_wakes
    have waits (now : Nat) (same : now = begun + state.now) : now + interval = begun + (state.now + interval) := by
      rw [same, Nat.add_assoc]
    cases result with
    | error exc => exact ended.elim
    | ok value =>
      have done : Woken timeline next := ended
      cases done with
      | recent recent =>
        refine ⟨_, .skip due ((recent_iff seen).mp recent), ?_⟩
        exact ⟨seen.now, waits _ seen.now, seen.sent, seen.marked, seen.isOpen⟩
      | idle idle pinged =>
        have now : next.now = begun + state.now := pinged.now.trans seen.now
        have sent : next.sent = begun + state.now := pinged.sent.trans seen.now
        have isOpen : next.attributes.closed = false := pinged.closed.trans seen.isOpen
        have since : interval ≤ state.now - state.marked := Nat.le_of_not_lt ((recent_iff seen).not.mp idle)
        obtain unanswered | answered := pinged.marked
        · refine ⟨_, .fire due since (Or.inl rfl), ?_⟩
          exact ⟨now, waits _ now, sent, unanswered.trans seen.marked, isOpen⟩
        · refine ⟨_, .fire due since (Or.inr rfl), ?_⟩
          exact ⟨now, waits _ now, sent, answered.trans (congrArg seconds seen.now), isOpen⟩
  | @command next operation result commands executed =>
    have ended := executed.ends (call_commands seen.isOpen commands)
    have done : Commanded timeline next := by
      cases result with
      | error exc => exact ended
      | ok value => exact ended
    refine ⟨_, .act, ?_⟩
    exact ⟨done.now.trans seen.now, done.wakes.trans seen.wakes, done.sent.trans seen.now,
      done.marked.trans (congrArg seconds seen.now), done.closed.trans seen.isOpen⟩

theorem positive : 0 < interval := by decide

/-- The device is never without a frame for more than 500 ms if and only if every command
that is not given a multiple of 500 ms after the thread began is followed by another within
500 ms, or the run ends by then. -/
theorem silence_bounded_iff {happenings : List Happening} (begins : timeline.Begins begun)
    (run : Run self.Passes timeline happenings last) :
    Throughout self.Passes (fun _ timeline => timeline.silence ≤ interval) timeline happenings last ↔
      Timely interval (happenings.map Happening.view) := by
  have steps (timeline : Timeline) (happening : Happening) (next : Timeline) (state : Polling.State)
      (seen : Seen begun timeline state) (passes : self.Passes timeline happening next) :
      ∃ after, Polling.Step interval state happening.view after ∧ Seen begun next after := passes_seen seen passes
  have carries (timeline : Timeline) (state : Polling.State) (seen : Seen begun timeline state)
      (short : timeline.silence ≤ interval) : state.silence ≤ interval := silence_seen seen ▸ short
  constructor
  · intro whole
    obtain ⟨state, quiet, _⟩ := whole.simulated (begins_seen begins) steps carries
    exact Polling.timely_of_silence positive quiet
  · intro timely
    refine .of_run run fun prior timeline early before => ?_
    obtain ⟨state, along, seen⟩ := before.simulated (begins_seen begins) steps
    rw [silence_seen seen]
    exact (timely.prefix_of (early.map _)).silence positive along

end Schedules
section Executions
/-! Runs with a device that does what it is asked. -/

def reply (timeline : Timeline) : (op : Op) → Reply op
  | .read => timeline.attributes
  | .now => seconds timeline.now
  | .waitStop _ => timeline.attributes.keepaliveStop
  | .isAlive _ => true
  | .assign _ | .acquire | .release | .closeSession _ => ()
  | .openTransport _ _ => .ok 0
  | .openSession _ => 0
  | .command _ request _ => DongleLogic.obliging request
  | .nextRx _ _ => none

def respond (timeline : Timeline) (op : Op) : Option (Reply op × Timeline) :=
  some (reply timeline op, timeline.after op (reply timeline op))

theorem executes_of_yields {program : Python Unit}
    (yields : Yields respond program (fun _ done => done = last) (fun _ _ => False) timeline) :
    Executes Timeline.Answers program.run timeline (.ok ()) last := by
  obtain ⟨result, done, ran, ended⟩ := yields
  cases result with
  | error exc => exact ended.elim
  | ok value =>
    have same : done = last := ended
    rw [← same]
    refine execute_executes (fun timeline op given next responded => ?_) ran
    cases responded
    cases op <;> exact ⟨by trivial, rfl⟩

def moment (now wakes sent marked : Nat) : Timeline where
  attributes := { session := 0, info := DongleLogic.stockInfo, appliedConfig := none, lastWriteTime := seconds marked }
  now := now
  wakes := wakes
  sent := sent

theorem moment_seen (now wakes sent marked : Nat) : Seen 0 (moment now wakes sent marked) ⟨now, wakes, marked, sent⟩ :=
  ⟨(Nat.zero_add _).symm, (Nat.zero_add _).symm, (Nat.zero_add _).symm,
    congrArg seconds (Nat.zero_add _).symm, rfl⟩

variable {now wakes sent marked : Nat}

theorem ticks_run (count : Nat) (early : now + count ≤ wakes) :
    Run self.Passes (moment now wakes sent marked) (List.replicate count .tick)
      (moment (now + count) wakes sent marked) := by
  induction count with
  | zero => exact .nil
  | succ count ih =>
    rw [List.replicate_succ']
    exact (ih (Nat.le_of_succ_le early)).snoc (.tick early)

section Rules
variable {raises : Exc → Timeline → Prop}

@[simp] theorem yields_read (field : Attributes → α) {returns : α → Timeline → Prop} :
    Yields respond (Python.read field) returns raises timeline ↔ returns (field timeline.attributes) timeline :=
  (yields_bind _ _).trans ((yields_request rfl).trans (yields_pure _))

@[simp] theorem yields_isAlive (session : Nat) {returns : Bool → Timeline → Prop} :
    Yields respond (isAlive session) returns raises timeline ↔ returns true timeline := yields_request rfl

@[simp] theorem yields_now {returns : Rat → Timeline → Prop} :
    Yields respond Python.now returns raises timeline ↔ returns (seconds timeline.now) timeline := yields_request rfl

@[simp] theorem yields_assign (change : Attributes → Attributes) {returns : Unit → Timeline → Prop} :
    Yields respond (assign change) returns raises timeline ↔
      returns () { timeline with attributes := change timeline.attributes } := yields_request rfl

@[simp] theorem yields_ping (session : Nat) (limit : Rat) {returns : Unit → Timeline → Prop} :
    Yields respond (Python.ping session limit) returns raises timeline ↔
      returns () { timeline with sent := timeline.now } := by
  constructor
  · intro ⟨result, last, ran, ended⟩
    cases ran
    exact ended
  · exact fun holds => ⟨_, _, rfl, holds⟩

end Rules

theorem wake_idle (idle : interval ≤ now - marked) :
    self.Passes (moment now now sent marked) .wake (moment now (now + interval) now now) := by
  have since : ¬ seconds (moment now now sent marked).now - (moment now now sent marked).attributes.lastWriteTime <
      Dongle.keepaliveInterval := (recent_iff (moment_seen now now sent marked)).not.mpr (Nat.not_lt_of_le idle)
  have pings : Executes Timeline.Answers self.keepaliveIteration.run (moment now now sent marked) (.ok ())
      (moment now now now now) := by
    apply executes_of_yields
    simp only [Dongle.keepaliveIteration, Dongle.markWrite, yields_bind, yields_read, yields_isAlive, Bool.not_true,
      Bool.false_and, Bool.false_eq_true, if_false, yields_now, if_neg since, yields_tryCatch, yields_ping, yields_assign]
    rfl
  exact .wake rfl pings

theorem wake_recent (recent : now - marked < interval) :
    self.Passes (moment now now sent marked) .wake (moment now (now + interval) sent marked) := by
  have since : seconds (moment now now sent marked).now - (moment now now sent marked).attributes.lastWriteTime <
      Dongle.keepaliveInterval := (recent_iff (moment_seen now now sent marked)).mpr recent
  have skips : Executes Timeline.Answers self.keepaliveIteration.run (moment now now sent marked) (.ok ())
      (moment now now sent marked) := by
    apply executes_of_yields
    simp only [Dongle.keepaliveIteration, yields_bind, yields_read, yields_isAlive, Bool.not_true, Bool.false_and,
      Bool.false_eq_true, if_false, yields_now, if_pos since, yields_pure]
  exact .wake rfl skips

theorem ping_passes : self.Passes (moment now wakes sent marked) (.command .ping) (moment now wakes now now) := by
  have pings : Executes Timeline.Answers (self.call .ping).run (moment now wakes sent marked) (.ok ())
      (moment now wakes now now) := by
    apply executes_of_yields
    have isOpen : (moment now wakes sent marked).attributes.closed = false := rfl
    simp only [Dongle.call, Dongle.ping, Dongle.checkOpen, Dongle.ensureSessionAlive, Dongle.markWrite, yields_bind,
      yields_read, isOpen, Bool.false_eq_true, if_false, yields_isAlive, if_true, yields_pure, yields_now, yields_assign,
      yields_ping]
    rfl
  exact .command trivial pings

theorem moment_begins : (moment 0 interval 0 0).Begins 0 := ⟨rfl, rfl, rfl, rfl, rfl⟩

/-- The thread wakes and pings. A command comes 1 ms later, so that it skips the next ping. -/
def pingAndSkip : List Happening :=
  (List.replicate 500 .tick ++ [.wake] ++ List.replicate 1 .tick ++ [.command .ping]) ++
    (List.replicate 499 .tick ++ [.wake])

theorem pingAndSkip_timely : Timely interval (pingAndSkip.map Happening.view) := by
  let slept : List Polling.Event := List.replicate 500 .tick
  let called : List Polling.Event := slept ++ [.poll] ++ List.replicate 1 .tick ++ [.act]
  have woken : (Polling.observed interval (slept ++ [.poll])).since = none := by decide +kernel
  have counting : (Polling.observed interval called).since = some 0 := by decide +kernel
  have counted : (Polling.observed interval (called ++ List.replicate 499 .tick ++ [.poll])).since = some 499 := by
    decide +kernel
  have first : Timely interval slept := (Timely.nil interval).ticks 500 nofun
  have second : Timely interval (slept ++ [.poll] ++ List.replicate 1 .tick) := by
    refine (first.snoc fun elapsed since => ?_).ticks 1 fun elapsed since => ?_
    · cases woken.symm.trans since
    · cases woken.symm.trans since
  have third : Timely interval (called ++ List.replicate 499 .tick) := by
    refine (second.snoc fun elapsed since => ?_).ticks 499 fun elapsed since => ?_
    · cases counting.symm.trans since
      exact Nat.zero_le _
    · cases counting.symm.trans since
      decide
  have whole : pingAndSkip.map Happening.view = called ++ List.replicate 499 .tick ++ [.poll] := by
    simp only [pingAndSkip, called, slept, List.map_append, List.map_replicate, List.map_cons, List.map_nil,
      Happening.view, List.append_assoc]
  rw [whole]
  refine third.snoc fun elapsed since => ?_
  cases counted.symm.trans since
  decide

theorem silence_bounded_iff_ok :
    Throughout (Dongle.Passes ⟨none, 1⟩) (fun _ timeline => timeline.silence ≤ interval) (moment 0 interval 0 0)
      pingAndSkip (moment 1000 1500 501 501) := by
  have pings : Run (Dongle.Passes ⟨none, 1⟩) (moment 0 interval 0 0) _ (moment 501 1000 501 501) :=
    (((ticks_run 500 (Nat.le_refl _)).snoc (wake_idle (by decide))).append (ticks_run 1 (by decide))).snoc ping_passes
  have skips : Run (Dongle.Passes ⟨none, 1⟩) (moment 501 1000 501 501) _ (moment 1000 1500 501 501) :=
    (ticks_run 499 (by decide)).snoc (wake_recent (by decide))
  have run : Run (Dongle.Passes ⟨none, 1⟩) (moment 0 interval 0 0) pingAndSkip (moment 1000 1500 501 501) :=
    pings.append skips
  exact (silence_bounded_iff moment_begins run).mpr pingAndSkip_timely

/-- A command 501 ms after the thread began, and none after it. -/
theorem silence_exceeds :
    ∃ happenings last, (moment 0 interval 0 0).Begins 0 ∧
      Run (Dongle.Passes ⟨none, 1⟩) (moment 0 interval 0 0) happenings last ∧ last.silence = 999 := by
  have first : Run (Dongle.Passes ⟨none, 1⟩) (moment 0 interval 0 0) _ (moment 501 1000 501 501) :=
    (((ticks_run 500 (Nat.le_refl _)).snoc (wake_idle (by decide))).append (ticks_run 1 (by decide))).snoc ping_passes
  have second : Run (Dongle.Passes ⟨none, 1⟩) (moment 501 1000 501 501) _ (moment 1500 1500 501 501) :=
    ((ticks_run 499 (by decide)).snoc (wake_recent (by decide))).append (ticks_run 500 (by decide))
  exact ⟨_, _, moment_begins, first.append second, rfl⟩

end Executions
end DongloraClient.Proofs.KeepaliveMargin
