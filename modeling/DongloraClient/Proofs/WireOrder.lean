import DongloraClient.Line
import DongloraClient.Proofs.FrameSegments

/-! What threads that write at the same time put on the line. Frames follow one another
in the order of their turns with the lock; only a write that fails leaves less than its
frame, and that costs no frame but its own and the next. -/

namespace DongloraClient.Proofs.WireOrder
open FrameCodec FrameSegments Program Sections Threads Transition Wire

section Blocks
variable {cobs : Cobs.Codec} (weather : Weather) {flushes : Bool}

def Partly (line : Line) (data : Bytes) (after : Line) : Prop := ∃ part, part <+: data ∧ after.carried = line.carried ++ part

theorem sendall_along (rounds : Nat) (data : Bytes) (line : Line) (some : data ≠ []) (enough : data.length ≤ rounds) :
    (LineProgram.sendall rounds data).run.Along (Decides weather.respond) (Partly line data)
      (Outcomes (fun _ after => after.carried = line.carried ++ data) fun _ _ => True) line := by
  induction rounds generalizing data line with
  | zero => exact absurd (List.eq_nil_of_length_eq_zero (Nat.le_zero.mp enough)) some
  | succ rounds ih =>
    have still : Partly line data line := ⟨[], List.nil_prefix, (List.append_nil _).symm⟩
    refine Along.sequence ⟨still, fun reply middle responded => ?_⟩
    simp only [Decides, Weather.respond] at responded
    split at responded <;> cases responded
    next more _ =>
      have progress : 0 < min (more + 1) data.length := by
        have positive : 0 < data.length := List.length_pos_of_ne_nil some
        omega
      generalize min (more + 1) data.length = sent at progress
      have taken : Partly line data { carried := line.carried ++ data.take sent, moment := line.moment + 1 } :=
        ⟨data.take sent, List.take_prefix _ _, rfl⟩
      refine ⟨taken, ?_⟩
      simp only [Outcomes]
      split
      next done =>
        refine ⟨taken, ?_⟩
        have whole := List.take_append_drop sent data
        rw [done, List.append_nil] at whole
        simp only [Outcomes, whole]
      next more =>
        have shorter : (data.drop sent).length ≤ rounds := by
          rw [List.length_drop]
          omega
        refine (ih (data.drop sent) _ more shorter).mono ?_ ?_
        · rintro state ⟨part, beginning, carried⟩
          refine ⟨data.take sent ++ part, ?_, by rw [carried, List.append_assoc]⟩
          conv_rhs => rw [← List.take_append_drop sent data]
          exact (List.prefix_append_right_inj _).mpr beginning
        · rintro (_ | _) state ended
          · trivial
          · simp only [Outcomes] at ended ⊢
            rw [ended, List.append_assoc, List.take_append_drop]
    next => exact ⟨still, trivial⟩

theorem wire_nonempty (writing : Writing cobs) : writing.wire ≠ [] := by
  rw [(encodeFrame_wire cobs writing.encoded).2, wire]
  exact List.append_ne_nil_of_right_ne_nil _ (List.cons_ne_nil _ _)

theorem writeBody_along (flushes : Bool) (writing : Writing cobs) (line : Line) :
    (writeBody cobs flushes writing).Along (Decides weather.respond) (Partly line writing.wire)
      (Outcomes (fun _ after => after.carried = line.carried ++ writing.wire) fun _ _ => True) line := by
  have gone {after : Line} (carried : after.carried = line.carried ++ writing.wire) : Partly line writing.wire after :=
    ⟨writing.wire, List.prefix_rfl, carried⟩
  apply Along.sequence
  apply Along.sequence
  refine (sendall_along weather _ _ line (wire_nonempty writing) (Nat.le_refl _)).mono (fun _ partly => partly) ?_
  rintro (_ | _) after ended
  · trivial
  · refine ⟨gone ended, ?_⟩
    cases flushes with
    | true =>
      refine ⟨gone ended, fun reply middle responded => ?_⟩
      cases responded
      refine ⟨gone ended, ?_⟩
      cases weather.flushes after.moment with
      | ok => exact ended
      | error => trivial
    | false => exact ⟨gone ended, ended⟩

/-- A write that is over, and what it has put on the line. -/
structure Block (cobs : Cobs.Codec) where
  thread : Nat
  writing : Writing cobs
  result : Except Exc Unit
  part : Bytes
  beginning : part <+: writing.wire
  whole : result = .ok () → part = writing.wire

namespace Block

def turn (block : Block cobs) : Nat × Writing cobs := (block.thread, block.writing)

def outcome (block : Block cobs) : Nat × Except Exc Unit := (block.thread, block.result)

end Block

theorem serial_blocks {order : List (Nat × Writing cobs)} {results : List (Nat × Except Exc Unit)} {line : Line}
    (serial : Serial weather.respond (writeBody cobs flushes) {} order results line) :
    ∃ blocks : List (Block cobs), order = blocks.map Block.turn ∧ results = blocks.map Block.outcome ∧
      line.carried = blocks.flatMap Block.part := by
  induction serial with
  | nil => exact ⟨[], rfl, rfl, rfl⟩
  | @snoc order results line after thread writing result _ executed ih =>
    obtain ⟨blocks, rfl, rfl, carried⟩ := ih
    obtain ⟨⟨part, beginning, moved⟩, ended⟩ := (writeBody_along weather flushes writing line).ends
      (execute_executes (fun _ _ _ _ responded => responded) executed)
    have whole : result = .ok () → part = writing.wire := by
      rintro rfl
      exact List.append_cancel_left (moved.symm.trans ended)
    refine ⟨blocks ++ [⟨thread, writing, result, part, beginning, whole⟩], ?_, ?_, ?_⟩
    · rw [List.map_append]
      rfl
    · rw [List.map_append]
      rfl
    · rw [List.flatMap_append, List.flatMap_singleton, moved, carried]

variable {events : List (LineEvent cobs)} {pool : LinePool cobs} {blocks : List (Block cobs)} {current : Bytes}

/-- What the line has carried: the writes that are over, and the beginning of the one that
is under way. -/
structure InTurn (events : List (LineEvent cobs)) (pool : LinePool cobs) (blocks : List (Block cobs)) (current : Bytes) : Prop where
  carried : pool.shared.data.carried = blocks.flatMap Block.part ++ current
  free : pool.shared.holder = none → current = [] ∧ turns events = blocks.map Block.turn
  held : ∀ thread, pool.shared.holder = some thread → ∃ writing : Writing cobs, current <+: writing.wire ∧
    turns events = blocks.map Block.turn ++ [(thread, writing)]
  given : ∀ thread, returned thread events <+: own thread (blocks.map Block.outcome) ∧
    (pool.threads thread = none → returned thread events = own thread (blocks.map Block.outcome))

theorem blocks_in_turn (run : Run (Threads.Step (lineSystem cobs weather flushes)) (LinePool.fresh cobs) events pool) :
    ∃ blocks current, InTurn events pool blocks current := by
  cases reachable run with
  | free unlocked serial standing =>
    obtain ⟨blocks, order, rfl, carried⟩ := serial_blocks weather serial
    refine ⟨blocks, [], by rw [carried, List.append_nil], fun _ => ⟨rfl, order⟩, ?_, fun thread => (standing thread).so_far⟩
    intro thread holding
    cases unlocked.symm.trans holding
  | @held holder writing rest earlier results line holding turn serial inSection ends given standing =>
    obtain ⟨blocks, rfl, rfl, carried⟩ := serial_blocks weather serial
    obtain ⟨part, beginning, moved⟩ := (underway (writeBody_along weather flushes) run holding turn serial inSection).now
    refine ⟨blocks, part, by rw [moved, carried], ?_, ?_, ?_⟩
    · intro free
      cases free.symm.trans holding
    · intro thread held
      cases held.symm.trans holding
      exact ⟨writing, beginning, turn⟩
    · intro thread
      by_cases same : thread = holder
      · subst same
        rw [given, inSection]
        exact ⟨List.prefix_rfl, nofun⟩
      · exact (standing thread same).so_far

theorem holder_steps (run : Run (Threads.Step (lineSystem cobs weather flushes)) (LinePool.fresh cobs) events pool) {thread : Nat}
    (holding : pool.shared.holder = some thread) :
    ∃ event next, event.actor = some thread ∧ Threads.Step (lineSystem cobs weather flushes) pool event next := by
  cases reachable run with
  | free unlocked => cases unlocked.symm.trans holding
  | @held holder writing rest _ _ line held turn serial inSection =>
    obtain rfl := Option.some.inj (held.symm.trans holding)
    have along := underway (writeBody_along weather flushes) run holding turn serial inSection
    cases rest with
    | pure result => exact ⟨.perform holder writing .release (), _, rfl, .perform inSection rfl⟩
    | perform op next =>
      obtain ⟨⟨reply, after⟩, responded⟩ : ∃ answer, weather.respond pool.shared.data op = some answer := by
        cases op with
        | send =>
          simp only [Weather.respond]
          split <;> exact ⟨_, rfl⟩
        | flush => exact ⟨_, rfl⟩
      have answered : (lineSystem cobs weather flushes).answers holder pool.shared (.access op) reply
          ⟨after, pool.shared.holder⟩ := ⟨responded, rfl⟩
      exact ⟨.perform holder writing (.access op) reply, _, rfl, .perform inSection answered⟩
    | unfinished => exact along.elim

/-- The last write, if there is one, has put its whole frame on the line. -/
theorem blocks_delimited {before : List (Block cobs)} (last : ∀ block ∈ before.getLast?, block.result = .ok ()) :
    Delimited (before.flatMap Block.part) := by
  rcases List.eq_nil_or_concat before with rfl | ⟨front, block, rfl⟩
  · exact Or.inl rfl
  · rw [List.concat_eq_append] at last ⊢
    have whole := block.whole (last block (by simp))
    refine Or.inr ⟨front.flatMap Block.part ++ cobs.encode (preCobs block.writing.frame), ?_⟩
    rw [List.flatMap_append, List.flatMap_singleton, whole, (encodeFrame_wire cobs block.writing.encoded).2, wire, List.append_assoc]

end Blocks

section Decoding
variable (cobs : Cobs.StandardCodec) {blocks : List (Block cobs.toCodec)}

/-- A frame that is written whole after whole frames is read as it was written. -/
theorem whole_decoded (before after : List (Block cobs.toCodec)) {block : Block cobs.toCodec} (current : Bytes)
    (last : ∀ block ∈ before.getLast?, block.result = .ok ()) (ended : block.result = .ok ()) :
    streamResults cobs.toCodec ((before ++ block :: after).flatMap Block.part ++ current) =
      streamResults cobs.toCodec (before.flatMap Block.part) ++
        .ok block.writing.frame :: streamResults cobs.toCodec (after.flatMap Block.part ++ current) := by
  obtain ⟨valid, encoded⟩ := encodeFrame_wire cobs.toCodec block.writing.encoded
  have segment := streamResults_segment cobs.toCodec (blocks_delimited last) (cobs.encode_nonempty (preCobs_nonempty _))
    (cobs.encode_nonzero (preCobs block.writing.frame)) (after.flatMap Block.part ++ current)
  rw [decodeFrame_encode cobs.toCodec valid.inRange] at segment
  rw [← segment, List.flatMap_append, List.flatMap_cons, block.whole ended, encoded, wire]
  simp only [List.append_assoc, List.cons_append, List.nil_append]

theorem all_decoded (current : Bytes) (whole : ∀ block ∈ blocks, block.result = .ok ()) :
    streamResults cobs.toCodec (blocks.flatMap Block.part ++ current) =
      blocks.map (fun block => .ok block.writing.frame) ++ streamResults cobs.toCodec current := by
  induction blocks with
  | nil => rfl
  | cons block blocks ih =>
    have first := whole_decoded cobs [] blocks current nofun (whole block List.mem_cons_self)
    rw [ih fun block member => whole block (List.mem_cons_of_mem _ member)] at first
    exact first

/-- Whatever the sockets do, frames go out one after another, in the order in which their
writers get the lock, and a reader of the line gets each that follows a whole one. -/
theorem frames_in_turn (weather : Weather) (flushes : Bool) {events : List (LineEvent cobs.toCodec)} {pool : LinePool cobs.toCodec}
    (run : Run (Threads.Step (lineSystem cobs.toCodec weather flushes)) (LinePool.fresh cobs.toCodec) events pool) :
    ∃ (blocks : List (Block cobs.toCodec)) (current : Bytes), InTurn events pool blocks current ∧
      (∀ before block after, blocks = before ++ block :: after → (∀ last ∈ before.getLast?, last.result = .ok ()) →
        block.result = .ok () → streamResults cobs.toCodec pool.shared.data.carried =
          streamResults cobs.toCodec (before.flatMap Block.part) ++
            .ok block.writing.frame :: streamResults cobs.toCodec (after.flatMap Block.part ++ current)) ∧
      ((∀ block ∈ blocks, block.result = .ok ()) → streamResults cobs.toCodec pool.shared.data.carried =
        blocks.map (fun block => .ok block.writing.frame) ++ streamResults cobs.toCodec current) ∧
      ∀ thread, pool.shared.holder = some thread →
        ∃ event next, event.actor = some thread ∧ Threads.Step (lineSystem cobs.toCodec weather flushes) pool event next := by
  obtain ⟨blocks, current, inTurn⟩ := blocks_in_turn weather run
  refine ⟨blocks, current, inTurn, ?_, ?_, fun thread => holder_steps weather run⟩
  · rintro before block after rfl last ended
    rw [inTurn.carried]
    exact whole_decoded cobs _ _ current last ended
  · intro whole
    rw [inTurn.carried]
    exact all_decoded cobs current whole

end Decoding

def pinging (tag : Nat) (small : tag ≤ 0xFFFF) : Writing Cobs.standard where
  frame := { typeId := typePing, tag, payload := [] }
  wire := wire Cobs.standard { typeId := typePing, tag, payload := [] }
  encoded := encodeFrame_valid Cobs.standard ⟨show typePing ≤ 0xFF by decide, small, Nat.zero_le _⟩

/-- The second call of `send` fails. -/
def squall : Weather where
  sends moment := if moment = 1 then .error (.osError "broken pipe") else .ok 2
  flushes _ := .ok ()

/-- A write fails after three bytes while another thread waits for the lock; that thread
then writes twice. -/
def scramble : List (Threads.Turn (Writing Cobs.standard) Empty) :=
  [.start 0 (pinging 1 (by decide)), .start 1 (pinging 2 (by decide)), .advance 0, .advance 0, .advance 0, .advance 0,
    .finish 0] ++ List.replicate 6 (.advance 1) ++ [.finish 1, .start 1 (pinging 3 (by decide))] ++
    List.replicate 6 (.advance 1) ++ [.finish 1]

theorem frames_in_turn_scramble : ∃ events pool,
    Run (Threads.Step (lineSystem Cobs.standard squall true)) (LinePool.fresh Cobs.standard) events pool ∧
      (turns events).map Prod.fst = [0, 1, 1] ∧ pool.shared.data.carried = [3, 1, 1] ++
        wire Cobs.standard (pinging 2 (by decide)).frame ++ wire Cobs.standard (pinging 3 (by decide)).frame ∧
      ∃ blocks current, InTurn events pool blocks current := by
  have computed : ((scheduler squall.respond).play (lineSystem Cobs.standard squall true).program (LinePool.fresh Cobs.standard)
      scramble).map (fun ended => ((turns ended.1).map Prod.fst, ended.2.shared.data.carried)) = some ([0, 1, 1], [3, 1, 1] ++
        wire Cobs.standard (pinging 2 (by decide)).frame ++ wire Cobs.standard (pinging 3 (by decide)).frame) := by
    decide +kernel
  obtain ⟨events, pool, played, same⟩ := Threads.Scheduler.play_summary (scheduler_follows _ _) computed
  obtain ⟨order, carried⟩ := Prod.mk.inj same
  have run := played.mono fun _ _ _ taken => taken.1
  obtain ⟨blocks, current, inTurn, _⟩ := frames_in_turn Cobs.standardCodec squall true run
  exact ⟨events, pool, run, order, carried, blocks, current, inTurn⟩

end DongloraClient.Proofs.WireOrder
