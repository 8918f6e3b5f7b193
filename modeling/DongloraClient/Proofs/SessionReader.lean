import DongloraClient.Proofs.Dispatch

/-! What the reader and the `close` calls have still to do, and what becomes of a
frame that belongs to no command. -/

namespace DongloraClient.Proofs.SessionReader
open Session SessionSteps SessionTable Transition

variable {cobs : Cobs.Codec} {session next : Session} {label : Step} {events : List Step} {id : Nat}

/-- The error of a command that the reader's exit leaves without an answer. -/
def lostTransport : Exc := .dongloraError "transport closed"

def Dispatches : Action → Prop
  | .setErr _ exc => exc ≠ lostTransport
  | .setOk _ _ | .setTxDone _ _ | .signal _ | .putRx _ | .putError _ => True
  | .setErrIfUnset _ _ | .clear | .setDead | .putSentinel | .closeTransport => False

def Closes : Action → Prop
  | .setErr _ exc => exc ≠ lostTransport
  | .signal _ | .clear | .closeTransport => True
  | .setErrIfUnset _ _ | .setOk _ _ | .setTxDone _ _ | .putRx _ | .putError _ | .setDead | .putSentinel => False

def Sweeps : Action → Prop
  | .setErrIfUnset _ exc => exc = lostTransport
  | .signal _ => True
  | .setErr _ _ | .setOk _ _ | .setTxDone _ _ | .putRx _ | .putError _ | .clear | .setDead | .putSentinel
  | .closeTransport => False

theorem badOk_differs (text : String) : Exc.dongloraError s!"bad OK payload: {text}" ≠ lostTransport := by
  intro same
  have letters := congrArg String.toList (Exc.dongloraError.inj same)
  simp [toString] at letters

theorem badDone_differs (text : String) : Exc.dongloraError s!"bad TX_DONE payload: {text}" ≠ lostTransport := by
  intro same
  have letters := congrArg String.toList (Exc.dongloraError.inj same)
  simp [toString] at letters

theorem reaction_dispatches {frame : Frame} {pending : Option (Nat × Nat)} {actions : List Action}
    (ran : reaction frame pending = .ok actions) : ∀ action ∈ actions, Dispatches action := by
  -- The texts of the errors are in the function itself.
  have pair {call : Nat} {exc : Exc} (differs : exc ≠ lostTransport) :
      ∀ action ∈ [Action.setErr call exc, .signal call], Dispatches action := by
    simpa [Dispatches] using differs
  cases Dispatch.reacted ran with
  | unknown | unclaimed | unexpected => simp
  | event | report | enqueued | answered | transmitted => simp [Dispatches]
  | @refused id cmdType exc tagged found refusal =>
    apply pair
    subst found
    cases refusal with
    | device | busy | cancelled => exact nofun
    | badOk text okType =>
      simp only [reaction, if_neg tagged, if_pos okType] at ran
      split at ran
      · split at ran <;> cases ran
      · cases ran
        exact badOk_differs _
      · cases ran
        exact badOk_differs _
      · cases ran
    | badDone text doneType =>
      have notOk : frame.typeId ≠ typeOk := by rw [doneType]; decide
      have notErr : frame.typeId ≠ typeErr := by rw [doneType]; decide
      simp only [reaction, if_neg tagged, if_neg notOk, if_neg notErr, if_pos doneType] at ran
      split at ran
      · split at ran
        · cases ran
        · split at ran <;> cases ran
      · cases ran
        exact badDone_differs _
      · cases ran

theorem closing_closes : ∀ action ∈ session.closing, Closes action := by
  have differs : Exc.dongloraError "session closed" ≠ lostTransport := by decide
  intro action member
  simp only [closing, List.mem_append, List.mem_flatMap, List.mem_cons, List.not_mem_nil, or_false] at member
  rcases member with ⟨id, _, rfl | rfl⟩ | rfl | rfl <;> first | exact differs | trivial

/-- The reader's exit: what it does for the commands in the table, then the rest. -/
theorem shuttingDown_sweeps (session : Session) : ∃ sweep, (∀ action ∈ sweep, Sweeps action) ∧
    session.shuttingDown = sweep ++ [.clear, .setDead, .putSentinel] := by
  refine ⟨_, ?_, rfl⟩
  intro action member
  simp only [List.mem_flatMap, List.mem_cons, List.not_mem_nil, or_false] at member
  rcases member with ⟨id, _, rfl | rfl⟩ <;> first | rfl | trivial

/-- The lists of the agents, according to where their threads stand. -/
structure Paced (session : Session) : Prop where
  closer : ∀ id, ∀ action ∈ session.todo (.closer id), Closes action
  busy : session.reader ≠ .looping → session.reader ≠ .ending → session.todo .reader = []
  going : session.reader ≠ .ending → ∀ action ∈ session.todo .reader, Dispatches action
  ending : session.reader = .ending → ∃ sweep, (∀ action ∈ sweep, Sweeps action) ∧
    session.todo .reader <:+ sweep ++ [.clear, .setDead, .putSentinel]
  dead : session.reader = .ending → .setDead ∈ session.todo .reader ∨ session.readerDead = true

namespace Paced

theorem initial : Paced {} where
  closer id action member := by cases member
  busy looping := absurd rfl looping
  going _ action member := by cases member
  ending place := by cases place
  dead place := by cases place

theorem closer_kept (paced : Paced session) (taken : step cobs session label = some next) :
    ∀ action ∈ next.todo (.closer id), Closes action := by
  have before := paced.closer id
  generalize same : next.todo (.closer id) = actions
  cases same ▸ step_todo taken (.closer id) with
  | same => exact before
  | executed found =>
    rw [found] at before
    exact fun action member => before action (List.mem_cons_of_mem _ member)
  | sweep => exact closing_closes
  | dispatched own | corrupted own | shutdown own => cases own

theorem busy_kept (paced : Paced session) (taken : step cobs session label = some next)
    (notLooping : next.reader ≠ .looping) (notEnding : next.reader ≠ .ending) : next.todo .reader = [] := by
  cases stepped taken with
  | polled _ empty => exact empty
  | received reading | failed reading => exact paced.busy (by simp [reading]) (by simp [reading])
  | corrupted | timedOut | dispatched | raised => exact absurd rfl notLooping
  | ended => exact absurd rfl notEnding
  | @acted agent action rest found =>
    have before := paced.busy (by simpa [setTodo] using notLooping) (by simpa [setTodo] using notEnding)
    rw [setTodo_todo, apply_todo]
    split
    next own =>
      subst own
      rw [found] at before
      cases before
    next => exact before
  | swept => simpa using paced.busy notLooping notEnding
  | moved move => exact paced.busy notLooping notEnding
  | rejected | entered | allocated | registered | forgotten | flagged | asked | took | woke | gaveUp | reposted
  | drained => exact paced.busy notLooping notEnding

theorem going_kept (paced : Paced session) (taken : step cobs session label = some next)
    (notEnding : next.reader ≠ .ending) : ∀ action ∈ next.todo .reader, Dispatches action := by
  have place : ¬ (session.reader = .ending ∨ label = .shutdown) := fun ends => notEnding ((step_ending taken).mpr ends)
  have before := paced.going fun ending => place (Or.inl ending)
  generalize same : next.todo .reader = actions
  cases same ▸ step_todo taken .reader with
  | same => exact before
  | executed found =>
    rw [found] at before
    exact fun action member => before action (List.mem_cons_of_mem _ member)
  | dispatched _ _ _ _ ran => exact reaction_dispatches ran
  | corrupted =>
    simp [Dispatches]
  | shutdown => exact absurd (Or.inr rfl) place
  | sweep own => cases own

theorem ending_kept (paced : Paced session) (taken : step cobs session label = some next)
    (ending : next.reader = .ending) : ∃ sweep, (∀ action ∈ sweep, Sweeps action) ∧
      next.todo .reader <:+ sweep ++ [.clear, .setDead, .putSentinel] := by
  rcases (step_ending taken).mp ending with earlier | rfl
  · obtain ⟨sweep, sweeps, suffix⟩ := paced.ending earlier
    refine ⟨sweep, sweeps, ?_⟩
    generalize same : next.todo .reader = actions
    cases same ▸ step_todo taken .reader with
    | same => exact suffix
    | executed found =>
      rw [found] at suffix
      exact (List.suffix_cons _ _).trans suffix
    | dispatched _ dispatching => cases earlier.symm.trans dispatching
    | corrupted _ reading => cases earlier.symm.trans reading
    | shutdown _ finishing => cases earlier.symm.trans finishing
    | sweep own => cases own
  · obtain ⟨sweep, sweeps, same⟩ := shuttingDown_sweeps session
    refine ⟨sweep, sweeps, ?_⟩
    cases stepped taken with
    | ended =>
      rw [← same]
      simp
    | moved move => cases move

end Paced

theorem flags_kept (taken : step cobs session label = some next) :
    (session.readerDead = true → next.readerDead = true) ∧ (session.closed = true → next.closed = true) := by
  cases stepped taken with
  | @acted agent action rest found =>
    cases action with
    | setErrIfUnset call exc =>
      simp only [apply]
      split <;> exact ⟨fun set => set, fun set => set⟩
    | setDead => exact ⟨fun _ => rfl, fun set => set⟩
    | setErr | setOk | setTxDone | signal | putRx | putError | clear | putSentinel | closeTransport =>
      exact ⟨fun set => set, fun set => set⟩
  | flagged => exact ⟨fun set => set, fun _ => rfl⟩
  | moved move => exact ⟨fun set => set, fun set => set⟩
  | rejected | entered | allocated | registered | forgotten | polled | received | corrupted | timedOut | failed
  | dispatched | raised | ended | swept | asked | took | woke | gaveUp | reposted | drained =>
    exact ⟨fun set => set, fun set => set⟩

theorem dead_kept (taken : step cobs session label = some next) (dead : session.isAlive = false) :
    next.isAlive = false := by
  obtain ⟨reader, closed⟩ := flags_kept taken
  simp only [isAlive, Bool.and_eq_false_iff, Bool.not_eq_false'] at dead ⊢
  exact dead.imp reader closed

theorem dead_later {last : Session} (run : Run (Steps (step cobs)) session events last)
    (dead : session.isAlive = false) : last.isAlive = false :=
  run.preserves dead fun _ _ _ dead taken => dead_kept taken dead

namespace Paced

theorem dead_mark (paced : Paced session) (taken : step cobs session label = some next)
    (ending : next.reader = .ending) : .setDead ∈ next.todo .reader ∨ next.readerDead = true := by
  rcases (step_ending taken).mp ending with earlier | rfl
  · rcases paced.dead earlier with listed | marked
    · cases stepped taken with
      | @acted agent action rest found =>
        by_cases own : agent = .reader
        · subst own
          rw [found] at listed
          rcases List.mem_cons.mp listed with rfl | later
          · exact Or.inr rfl
          · exact Or.inl (by simpa using later)
        · exact Or.inl (by simpa [Ne.symm own] using listed)
      | received place | corrupted place | timedOut place | failed place | dispatched place | raised place
      | ended place | polled place => cases earlier.symm.trans place
      | swept => exact Or.inl (by simpa using listed)
      | moved move => exact Or.inl listed
      | rejected | entered | allocated | registered | forgotten | flagged | asked | took | woke | gaveUp | reposted
      | drained => exact Or.inl listed
    · exact Or.inr ((flags_kept taken).1 marked)
  · cases stepped taken with
    | ended => exact Or.inl (by simp [shuttingDown])
    | moved move => cases move

theorem preserved (paced : Paced session) (taken : step cobs session label = some next) : Paced next where
  closer _ := paced.closer_kept taken
  busy := paced.busy_kept taken
  going := paced.going_kept taken
  ending := paced.ending_kept taken
  dead := paced.dead_mark taken

theorem reachable (run : Run (Steps (step cobs)) {} events session) : Paced session :=
  run.preserves initial fun _ _ _ paced taken => paced.preserved taken

end Paced

/-- The table against the commands in flight, and a frame that belongs to none of them. -/
structure Unclaimed (cobs : Cobs.Codec) (session : Session) : Prop where
  owned : ∀ tag ∈ session.pending, ∃ id, InFlight (session.calls id) ∧ (session.calls id).tag = tag
  empty : (∀ id, ¬ InFlight (session.calls id)) → session.pending = ∅
  silent : ∀ frame : Frame, frame.tag ≠ 0 →
    (∀ id, InFlight (session.calls id) → (session.calls id).tag ≠ frame.tag) →
    session.dispatch frame = .ok session ∧ ∀ found next, step cobs session (.dispatch frame found) = some next →
      next = { session with reader := .looping }

theorem lookup_owned (sound : Sound session) {tag : Nat} (member : tag ∈ session.pending) :
    ∃ id, InFlight (session.calls id) ∧ (session.calls id).tag = tag := by
  obtain ⟨id, found⟩ := Option.isSome_iff_exists.mp (AList.lookup_isSome.mpr member)
  exact ⟨id, sound.owned tag id found⟩

/-- A tagged frame that no command in flight waits for is not found in the table. -/
theorem unclaimed_reaction (sound : Sound session) {frame : Frame} (tagged : frame.tag ≠ 0)
    (foreign : ∀ id, InFlight (session.calls id) → (session.calls id).tag ≠ frame.tag) :
    reaction frame (session.getPending frame.tag) = .ok [] := by
  have missing : session.pending.lookup frame.tag = none := by
    apply AList.lookup_eq_none.mpr
    intro member
    obtain ⟨id, flying, same⟩ := lookup_owned sound member
    exact foreign id flying same
  simp only [reaction, if_neg tagged, getPending, missing, Option.map_none]

theorem dispatch_unclaimed (paced : Paced session) {frame : Frame} {found : Option Nat}
    (unclaimed : reaction frame (session.getPending frame.tag) = .ok [])
    (taken : step cobs session (.dispatch frame found) = some next) : next = { session with reader := .looping } := by
  cases stepped taken with
  | dispatched dispatching _ _ ran =>
    cases unclaimed.symm.trans ran
    have idle : session.todo .reader = [] := paced.busy (by simp [dispatching]) (by simp [dispatching])
    simp only [setTodo, ← idle, Function.update_eq_self]
  | raised _ _ _ ran => cases unclaimed.symm.trans ran
  | moved move => cases move

/-- The keys of the table are tags of commands in flight, however these end, so that a
frame for nobody changes nothing. -/
theorem no_stale_settlement (run : Run (Steps (step cobs)) {} events session) : Unclaimed cobs session := by
  have sound := Sound.reachable run
  have paced := Paced.reachable run
  constructor
  · exact fun tag member => lookup_owned sound member
  · intro landed
    apply AList.ext
    apply List.eq_nil_iff_forall_not_mem.mpr
    rintro ⟨tag, id⟩ entry
    exact landed id (sound.owned tag id (AList.mem_lookup_iff.mpr entry)).1
  · intro frame tagged foreign
    have unclaimed := unclaimed_reaction sound tagged foreign
    refine ⟨?_, fun found next taken => dispatch_unclaimed paced unclaimed taken⟩
    simp only [dispatch, unclaimed]
    rfl

/-- A `PING` times out, and its reply arrives after that. -/
def lateReply : List Step :=
  [.begin 0 .ping true, .alloc 0, .register 0, .write 0 none, .expire 0, .forget 0, .poll,
    .receive { typeId := typeOk, tag := 1, payload := [] }]

theorem no_stale_settlement_late : ∃ session, Run (Steps (step Cobs.standard)) {} lateReply session ∧
    session.reader = .dispatching { typeId := typeOk, tag := 1, payload := [] } ∧ Unclaimed Cobs.standard session := by
  have computed : (execute (step Cobs.standard) {} lateReply).map Session.reader =
      some (.dispatching { typeId := typeOk, tag := 1, payload := [] }) := by decide +kernel
  obtain ⟨last, run, place⟩ := execute_summary computed
  exact ⟨last, run, place, no_stale_settlement run⟩

end DongloraClient.Proofs.SessionReader
