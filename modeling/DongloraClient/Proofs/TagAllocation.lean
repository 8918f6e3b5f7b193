import DongloraClient.Proofs.SessionTags
import DongloraClient.Tags

/-! The tags that `_alloc_tag` hands out to threads that interleave within it. -/

namespace DongloraClient.Proofs.TagAllocation
open Sections SessionTags Transition

theorem allocTagBody_executes (tag : Nat) :
    allocTagBody.execute TagOp.respond tag = some (tag, Session.advanceTag tag) := by
  have stored : allocTagBody.execute TagOp.respond tag = (if (tag + 1) &&& 0xFFFF = 0 then
      Program.perform (.store 1) fun _ => Program.pure tag else Program.pure tag : Program TagOp TagReply Nat).execute
        TagOp.respond ((tag + 1) &&& 0xFFFF) := rfl
  rw [stored, Session.advanceTag]
  split <;> rfl

/-- The statements of `_alloc_tag`, uninterrupted, do what the session's step does. -/
theorem allocTag_executes (session : Session) : allocTagBody.execute TagOp.respond session.nextTag =
    some (session.allocTag.1, session.allocTag.2.nextTag) := allocTagBody_executes session.nextTag

theorem serial_tags {turns : List (Nat × Unit)} {results : List (Nat × Nat)} {data : Nat}
    (serial : Serial TagOp.respond (fun _ => allocTagBody) ({} : Session).nextTag turns results data) :
    data = nthTag turns.length ∧ results = turns.mapIdx fun index turn => (turn.1, nthTag index) := by
  induction serial with
  | nil => exact ⟨rfl, rfl⟩
  | snoc _ executed ih =>
    obtain ⟨rfl, rfl⟩ := ih
    rw [allocTagBody_executes, advanceTag_nthTag] at executed
    cases executed
    rw [List.mapIdx_concat, List.length_append, List.length_singleton]
    exact ⟨rfl, rfl⟩

theorem nthTag_range (index : Nat) : 0 < nthTag index ∧ nthTag index ≤ 0xFFFF := by
  simp only [nthTag]
  omega

theorem nthTag_eq_iff (first second : Nat) : nthTag first = nthTag second ↔ (65535 : Int) ∣ first - second := by
  simp only [nthTag]
  omega

/-- The tags in the order in which threads get the lock: every thread gets those of its
own turns, and so do the commands of a session. -/
theorem tags_in_turn (cobs : Cobs.Codec) :
    (∀ events pool, Run (Threads.Step tagSystem) ({} : Session).untagged events pool → ∀ thread,
      let tags := own thread ((turns events).mapIdx fun index turn => (turn.1, index % 65535 + 1))
      returned thread events <+: tags ∧ (pool.threads thread = none → returned thread events = tags)) ∧
    (∀ events session, Run (Steps (Session.step cobs)) {} events session →
      ∀ (index id : Nat), (allocated events)[index]? = some id → (session.calls id).tag = index % 65535 + 1) ∧
    (∀ index : Nat, let tag := index % 65535 + 1
      0 < tag ∧ tag ≤ 0xFFFF ∧ ∀ (typeId : Nat) payload, typeId ≤ 0xFF → List.length payload ≤ maxPayloadField →
        ∃ bytes, encodeFrame cobs typeId tag payload = .ok bytes) ∧
    ∀ first second : Nat, first % 65535 + 1 = second % 65535 + 1 ↔ (65535 : Int) ∣ first - second := by
  refine ⟨fun events pool run thread => ?_, fun events session run index id found => ?_, fun index => ?_, nthTag_eq_iff⟩
  · exact returned_turns (fun _ _ _ serial => (serial_tags serial).2) run thread
  · exact ((Numbered.reachable run).given index id found).1
  · obtain ⟨positive, small⟩ := nthTag_range index
    refine ⟨positive, small, fun typeId payload byte short => ?_⟩
    have valid : FrameCodec.Valid { typeId, tag := nthTag index, payload } := ⟨byte, small, short⟩
    exact ⟨_, FrameCodec.encodeFrame_valid cobs valid⟩

/-- Two threads that start together; the second gets the lock first. -/
def race : List (Threads.Turn Unit Empty) :=
  [.start 0 (), .start 1 ()] ++ List.replicate 5 (.advance 1) ++ List.replicate 5 (.advance 0) ++ [.finish 0, .finish 1]

theorem tags_in_turn_race : ∃ events pool, Run (Threads.Step tagSystem) ({} : Session).untagged events pool ∧
    turns events = [(1, ()), (0, ())] ∧ returned 0 events = [2] := by
  have computed : ((scheduler TagOp.respond).play tagSystem.program ({} : Session).untagged race).map
      (fun ended => (turns ended.1, (ended.2.threads 0).isNone)) = some ([(1, ()), (0, ())], true) := rfl
  obtain ⟨events, pool, played, same⟩ := Threads.Scheduler.play_summary (scheduler_follows _ _) computed
  obtain ⟨order, ended⟩ := Prod.mk.inj same
  have run := played.mono fun _ _ _ taken => taken.1
  have given := ((tags_in_turn Cobs.standard).1 events pool run 0).2 (Option.isNone_iff_eq_none.mp ended)
  rw [order] at given
  exact ⟨events, pool, run, order, given⟩

end DongloraClient.Proofs.TagAllocation
