import DongloraClient.Mailbox
import DongloraClient.Proofs.DongleLogic
import DongloraClient.Proofs.SessionQueue

/-! The two models of a session agree. Every run of a `Session` is a run of a mailbox, and
so is all that the threads of a `Dongle` do with one of its sessions. -/

namespace DongloraClient.Proofs.MailboxRefinement
open Session SessionSteps SessionReader SessionShutdown SessionQueue Transition

section Lower
variable {cobs : Cobs.Codec} {session next : Session} {label : Step} {events : List Step} {posts : List Post}

def mailbox (session : Session) : Mailbox where
  readerDead := session.readerDead
  shut := session.closed
  queue := queued session

def brings : Post → Option RxEvent
  | .arrive event => some event
  | _ => none

def gives : Post → Option (Nat × Option RxEvent)
  | .give taker _ event => some (taker, event)
  | _ => none

def arrivals (posts : List Post) : List RxEvent := posts.filterMap brings

def given (posts : List Post) : List (Nat × Option RxEvent) := posts.filterMap gives

/-- The events of the mailbox are those of the session: what its reader has dispatched
arrives in it, and what it gives is what the calls of `next_rx` have returned. -/
structure Seen (events : List Step) (session : Session) (posts : List Post) : Prop where
  arrived : dispatched events = arrivals posts ++ underway session
  returned : ∀ id event, session.consumers id = .returned event ↔ (id, event) ∈ given posts

theorem Seen.initial : Seen [] {} [] where
  arrived := rfl
  returned _ _ := ⟨nofun, fun member => absurd member List.not_mem_nil⟩

theorem dead_ending (run : Run (Steps (step cobs)) {} events session) (dead : session.readerDead = true) :
    session.reader = .ending := by
  induction run with
  | nil => cases dead
  | @snoc events session next label before taken ih =>
    have paced := Paced.reachable before
    apply (step_ending taken).mpr
    cases stepped taken with
    | @acted agent action rest found =>
      by_cases marks : action = .setDead
      · subst marks
        have member : .setDead ∈ session.todo agent := found ▸ List.mem_cons_self
        left
        cases agent with
        | closer id => exact (paced.closer id _ member).elim
        | reader =>
          by_contra going
          exact paced.going going _ member
      · refine Or.inl (ih ?_)
        cases action with
        | setDead => exact absurd rfl marks
        | setErrIfUnset =>
          simp only [Session.apply] at dead
          split at dead <;> exact dead
        | _ => exact dead
    | moved move => exact Or.inl (ih dead)
    | _ => exact Or.inl (ih dead)

namespace Seen

variable (seen : Seen events session posts)
include seen

theorem quiet (silent : ∀ frame found, label ≠ .dispatch frame found) (reader : underway next = underway session)
    (consumers : ∀ id event, next.consumers id = .returned event ↔ session.consumers id = .returned event) :
    Seen (events ++ [label]) next posts where
  arrived := by rw [dispatched_other silent, seen.arrived, reader]
  returned id event := (consumers id event).trans (seen.returned id event)

theorem gave {id : Nat} {result : Option RxEvent} (expired : Bool) (pending : ∀ event, session.consumers id ≠ .returned event)
    (silent : ∀ frame found, label ≠ .dispatch frame found) (reader : underway next = underway session)
    (consumers : next.consumers = Function.update session.consumers id (.returned result)) :
    Seen (events ++ [label]) next (posts ++ [.give id expired result]) where
  arrived := by
    rw [dispatched_other silent, seen.arrived, reader, arrivals, arrivals, filterMap_snoc]
    simp only [brings, Option.toList_none, List.append_nil]
  returned other event := by
    rw [consumers, given, filterMap_snoc, gives, Option.toList_some, List.mem_append, List.mem_singleton, Prod.mk.injEq]
    by_cases own : other = id
    · subst own
      have none : (other, event) ∉ posts.filterMap gives := fun member => pending event ((seen.returned other event).mpr member)
      simp [none, eq_comm]
    · rw [Function.update_of_ne own, seen.returned other event, given]
      simp [own]

theorem dispatching (paced : Paced session) {frame : Frame} {found : Option Nat} (place : session.reader = .dispatching frame)
    (brought : underway next = (rxEvent frame).toList) (consumers : next.consumers = session.consumers) :
    Seen (events ++ [.dispatch frame found]) next posts where
  arrived := by
    have idle : session.todo .reader = [] := paced.busy (by simp [place]) (by simp [place])
    have nothing : underway session = [] := by simp [underway, idle]
    rw [dispatched_dispatch, seen.arrived, nothing, List.append_nil, brought]
  returned id event := by rw [consumers, seen.returned id event]

end Seen

theorem update_returned {consumers : Nat → Consumer} {id : Nat} {after : Consumer}
    (before : ∀ event, consumers id ≠ .returned event) (passed : ∀ event, after ≠ .returned event) (other : Nat)
    (event : Option RxEvent) : Function.update consumers id after other = .returned event ↔ consumers other = .returned event := by
  by_cases own : other = id
  · subst own
    rw [Function.update_self]
    exact ⟨fun same => absurd same (passed event), fun same => absurd same (before event)⟩
  · rw [Function.update_of_ne own]

theorem apply_mailbox (action : Action) : mailbox (session.apply action) = { mailbox session with
    readerDead := (mailbox session).readerDead || decide (action = .setDead)
    queue := (mailbox session).queue ++ (SessionQueue.posts action).toList } := by
  simp only [mailbox, apply_queued, apply_closed, Mailbox.mk.injEq, and_true]
  cases action with
  | setErrIfUnset =>
    simp only [Session.apply]
    split <;> simp [setSlot, setCall]
  | _ => simp [Session.apply, setSlot, setCall]

theorem reader_underway (paced : Paced session) {agent : Agent} {action : Action} {rest : List Action}
    (found : session.todo agent = action :: rest) :
    underway session = (SessionQueue.posts action).toList ++ underway ((session.apply action).setTodo agent rest) := by
  cases agent with
  | reader => simp only [underway, setTodo_todo, if_true, found, List.filterMap_cons]; cases SessionQueue.posts action <;> rfl
  | closer id =>
    have closes := paced.closer id action (found ▸ List.mem_cons_self)
    have nothing : SessionQueue.posts action = none := by cases action <;> first | rfl | exact closes.elim
    simp [underway, nothing]

theorem acted_seen (run : Run (Steps (step cobs)) {} events session) (seen : Seen events session posts) {agent : Agent}
    {action : Action} {rest : List Action} (found : session.todo agent = action :: rest) :
    ∃ label : Option Post, Seen (events ++ [.act agent]) ((session.apply action).setTodo agent rest) (posts ++ label.toList) ∧
      label.elim (mailbox ((session.apply action).setTodo agent rest) = mailbox session)
        fun label => Steps Mailbox.step (mailbox session) label (mailbox ((session.apply action).setTodo agent rest)) := by
  have paced := Paced.reachable run
  have carried := reader_underway paced found
  have view : mailbox ((session.apply action).setTodo agent rest) = mailbox (session.apply action) := rfl
  have dull (nothing : SessionQueue.posts action = none) : Seen (events ++ [.act agent]) ((session.apply action).setTodo agent rest) posts := by
    refine seen.quiet (by simp) ?_ fun id event => by simp only [setTodo, apply_consumers]
    rw [carried, nothing]
    rfl
  by_cases marks : action = .setDead
  · subst marks
    refine ⟨some .die, ?_, ?_⟩
    · have still := dull rfl
      refine ⟨?_, fun id event => ?_⟩
      · rw [still.arrived, arrivals, arrivals, Option.toList_some, filterMap_snoc]
        simp [brings]
      · rw [still.returned, given, given, Option.toList_some, filterMap_snoc]
        simp [gives]
    · rw [view, apply_mailbox]
      simp [Steps, Mailbox.step, SessionQueue.posts]
  cases puts : SessionQueue.posts action with
  | none =>
    refine ⟨none, by simpa using dull puts, ?_⟩
    rw [view, apply_mailbox, puts]
    simp [marks]
  | some event =>
    refine ⟨some (.arrive event), ?_, ?_⟩
    · rw [puts] at carried
      refine ⟨?_, fun id event' => ?_⟩
      · rw [dispatched_other (by simp), seen.arrived, carried]
        simp [arrivals, brings]
      · rw [given, Option.toList_some, filterMap_snoc]
        simp only [setTodo, apply_consumers, gives, Option.toList_none, List.append_nil]
        exact seen.returned id event'
    · have alive : session.readerDead = false := by
        by_contra dead
        have ending := dead_ending run (Bool.eq_true_of_not_eq_false dead)
        have member : action ∈ session.todo agent := found ▸ List.mem_cons_self
        cases agent with
        | closer id =>
          have closes := paced.closer id action member
          cases action <;> first | exact closes.elim | cases puts
        | reader =>
          obtain ⟨sweep, sweeps, suffix⟩ := paced.ending ending
          rcases List.mem_append.mp (suffix.subset member) with swept | last
          · have sweeps := sweeps action swept
            cases action <;> first | exact sweeps.elim | cases puts
          · simp only [List.mem_cons, List.not_mem_nil, or_false] at last
            rcases last with rfl | rfl | rfl <;> cases puts
      rw [view, apply_mailbox, puts]
      simp [Steps, Mailbox.step, mailbox, alive, marks]

/-- Whoever returns after the sentinel finds an empty queue and a dead reader. -/
theorem reposting_dead (run : Run (Steps (step cobs)) {} events session) {id : Nat}
    (reposting : session.consumers id = .reposting) : session.rxQueue = [] ∧ session.readerDead = true := by
  cases Tail.reachable run with
  | unposted _ nobody => exact absurd reposting (nobody id)
  | posted _ _ nobody => exact absurd reposting (nobody id)
  | held finished empty =>
    refine ⟨empty, ?_⟩
    rcases (Paced.reachable run).dead finished.1 with waits | dead
    · rw [finished.2] at waits
      cases waits
    · exact dead

theorem step_seen (run : Run (Steps (step cobs)) {} events session) (seen : Seen events session posts)
    (taken : step cobs session label = some next) :
    ∃ post : Option Post, Seen (events ++ [label]) next (posts ++ post.toList) ∧
      post.elim (mailbox next = mailbox session) fun post => Steps Mailbox.step (mailbox session) post (mailbox next) := by
  have paced := Paced.reachable run
  have unseen (still : Seen (events ++ [label]) next posts) (same : mailbox next = mailbox session) :
      ∃ post : Option Post, Seen (events ++ [label]) next (posts ++ post.toList) ∧
        post.elim (mailbox next = mailbox session) fun post => Steps Mailbox.step (mailbox session) post (mailbox next) :=
    ⟨none, by simpa using still, same⟩
  have idle (place : session.reader ≠ .looping) (going : session.reader ≠ .ending) : underway session = [] := by
    simp [underway, paced.busy place going]
  cases stepped taken with
  | acted found => exact acted_seen run seen found
  | @dispatched frame found actions place _ _ ran =>
    refine unseen (seen.dispatching paced place ?_ rfl) rfl
    simp [underway, setTodo, reaction_event ran]
  | raised place _ _ raised =>
    refine unseen (seen.dispatching paced place ?_ rfl) rfl
    rw [raised_event raised]
    exact idle (by simp [place]) (by simp [place])
  | @took id timed event rest getting queue =>
    refine ⟨some (.give id false (some event)), seen.gave false (by simp [getting]) (by simp) rfl rfl, ?_⟩
    have first : queued session = event :: rest.filterMap carried := by rw [queued, queue]; rfl
    have remaining : mailbox { session with rxQueue := rest, consumers := Function.update session.consumers id (.returned (some event)) } =
        { mailbox session with queue := rest.filterMap carried } := rfl
    rw [remaining]
    simp only [Steps, Mailbox.step, mailbox, first, List.head?_cons, if_true, List.tail_cons, Option.elim_some]
  | @woke id timed rest getting queue =>
    refine unseen (seen.quiet (by simp) rfl fun other event => update_returned (by simp [getting]) (by simp) other event) ?_
    have same : queued session = rest.filterMap carried := by rw [queued, queue]; rfl
    rw [mailbox, mailbox, same]
    rfl
  | @gaveUp id getting queue =>
    refine ⟨some (.give id true none), seen.gave true (by simp [getting]) (by simp) rfl rfl, ?_⟩
    simp [Steps, Mailbox.step, mailbox, queued, queue]
  | @reposted id reposting =>
    obtain ⟨empty, dead⟩ := reposting_dead run reposting
    refine ⟨some (.give id false none), seen.gave false (by simp [reposting]) (by simp) rfl rfl, ?_⟩
    simp [Steps, Mailbox.step, mailbox, queued, empty, dead, carried]
  | @asked id timed getting =>
    exact unseen (seen.quiet (by simp) rfl fun other event => update_returned (by simp [getting]) (by simp) other event) rfl
  | flagged =>
    refine ⟨some .close, ?_, rfl⟩
    refine ⟨?_, fun id event => ?_⟩
    · rw [dispatched_other (by simp), seen.arrived, arrivals, arrivals, Option.toList_some, filterMap_snoc]
      exact congrArg (· ++ _) (List.append_nil _).symm
    · rw [given, Option.toList_some, filterMap_snoc]
      exact (seen.returned id event).trans (by simp [gives, given])
  | corrupted place =>
    refine unseen (seen.quiet (by simp) ?_ fun _ _ => Iff.rfl) rfl
    rw [idle (by simp [place]) (by simp [place])]
    simp [underway, setTodo, SessionQueue.posts]
  | ended place =>
    refine unseen (seen.quiet (by simp) ?_ fun _ _ => Iff.rfl) rfl
    rw [idle (by simp [place]) (by simp [place])]
    simp [underway, setTodo, SessionQueue.posts, shuttingDown, List.filterMap_flatMap]
  | swept => exact unseen (seen.quiet (by simp) (by simp [underway, setTodo]) fun _ _ => Iff.rfl) rfl
  | moved move => exact unseen (seen.quiet (by cases move <;> simp) rfl fun _ _ => Iff.rfl) rfl
  | rejected | entered | allocated | registered | forgotten | polled | received | timedOut | failed | drained =>
    exact unseen (seen.quiet (by simp) rfl fun _ _ => Iff.rfl) rfl

theorem session_mailbox (run : Run (Steps (step cobs)) {} events session) :
    ∃ posts, Run (Steps Mailbox.step) {} posts (mailbox session) ∧ Seen events session posts :=
  run.viewed .initial fun _ _ _ _ _ before seen taken => step_seen before seen taken

end Lower

section Upper
variable {number : Nat} {shared : Shared}

/-- The session a step is about is the only thing it changes. -/
structure Beside (number : Nat) (shared next : Shared) : Prop where
  attributes : next.attributes = shared.attributes
  holder : next.holder = shared.holder
  opened : next.opened = shared.opened
  others : ∀ other, other ≠ number → next.mailbox other = shared.mailbox other

theorem Beside.refl (number : Nat) (shared : Shared) : Beside number shared shared := ⟨rfl, rfl, rfl, fun _ _ => rfl⟩

theorem Beside.trans {number : Nat} {first second third : Shared} (before : Beside number first second)
    (after : Beside number second third) : Beside number first third where
  attributes := after.attributes.trans before.attributes
  holder := after.holder.trans before.holder
  opened := after.opened.trans before.opened
  others other apart := (after.others other apart).trans (before.others other apart)

/-- The threads of a `Dongle` can do with a session all that is possible with a mailbox. -/
theorem serves_step {post : Post} {after : Mailbox} (placed : number < shared.opened)
    (taken : Steps Mailbox.step (shared.mailbox number) post after) :
    ∃ next, Shared.Serves number shared post next ∧ Beside number shared next ∧ next.mailbox number = after := by
  have elsewhere {dead : Nat → Bool} {shut : Nat → Bool} {queue : Nat → List RxEvent}
      (same : ∀ other, other ≠ number → dead other = shared.readerDead other ∧ shut other = shared.shut other ∧
        queue other = shared.queue other) : Beside number shared { shared with readerDead := dead, shut, queue } := by
    refine ⟨rfl, rfl, rfl, fun other apart => ?_⟩
    obtain ⟨sameDead, sameShut, sameQueue⟩ := same other apart
    simp only [Shared.mailbox, sameDead, sameShut, sameQueue]
  cases post with
  | arrive event =>
    simp only [Steps, Mailbox.step] at taken
    split at taken <;> cases taken
    next alive =>
      refine ⟨_, if_pos ⟨placed, alive⟩, elsewhere fun other apart => ⟨rfl, rfl, Function.update_of_ne apart ..⟩, ?_⟩
      simp [Shared.mailbox]
  | die =>
    cases taken
    refine ⟨_, if_pos placed, elsewhere fun other apart => ⟨Function.update_of_ne apart .., rfl, rfl⟩, ?_⟩
    simp [Shared.mailbox]
  | close =>
    cases taken
    refine ⟨_, ⟨0, trivial, rfl⟩, elsewhere fun other apart => ⟨rfl, Function.update_of_ne apart .., rfl⟩, ?_⟩
    simp [Shared.mailbox, Shared.after]
  | living answer =>
    simp only [Steps, Mailbox.step] at taken
    split at taken <;> cases taken
    next same => exact ⟨shared, ⟨0, same, rfl⟩, .refl number shared, rfl⟩
  | give taker expired event =>
    have timed : ∃ timeout : Option Rat, timeout.isSome = expired := by
      cases expired with
      | true => exact ⟨some 0, rfl⟩
      | false => exact ⟨none, rfl⟩
    obtain ⟨timeout, timed⟩ := timed
    cases event with
    | some event =>
      simp only [Steps, Mailbox.step] at taken
      split at taken <;> cases taken
      next first =>
        refine ⟨_, ⟨timeout, timed, first, rfl⟩, elsewhere fun other apart => ⟨rfl, rfl, Function.update_of_ne apart ..⟩, ?_⟩
        simp [Shared.mailbox, Shared.after]
    | none =>
      simp only [Steps, Mailbox.step] at taken
      split at taken <;> cases taken
      next empty => exact ⟨shared, ⟨timeout, timed, ⟨empty.1, timed ▸ empty.2⟩, rfl⟩, .refl number shared, rfl⟩

theorem serves_run {posts : List Post} {after : Mailbox} (placed : number < shared.opened)
    (run : Run (Steps Mailbox.step) (shared.mailbox number) posts after) :
    ∃ last, Run (Shared.Serves number) shared posts last ∧ Beside number shared last ∧ last.mailbox number = after := by
  induction run with
  | nil => exact ⟨shared, .nil, .refl number shared, rfl⟩
  | snoc _ taken ih =>
    obtain ⟨middle, served, beside, rfl⟩ := ih
    obtain ⟨last, serves, still, same⟩ := serves_step (beside.opened ▸ placed) taken
    exact ⟨last, served.snoc serves, beside.trans still, same⟩

end Upper

/-- Whatever a `Session` does, the sessions of a `Dongle` can do: a session that it has just
opened gives its threads the same packets in the same order, and is alive and dead with it. -/
theorem session_serves_dongle {cobs : Cobs.Codec} {events : List Step} {session : Session}
    (run : Run (Steps (step cobs)) {} events session) {number : Nat} {shared : Shared} (placed : number < shared.opened)
    (unused : shared.mailbox number = {}) :
    ∃ posts last, Run (Shared.Serves number) shared posts last ∧ Seen events session posts ∧
      last.mailbox number = mailbox session ∧ last.isAlive number = session.isAlive ∧ Beside number shared last := by
  obtain ⟨posts, along, seen⟩ := session_mailbox run
  obtain ⟨last, served, beside, same⟩ := serves_run placed (unused.symm ▸ along)
  refine ⟨posts, last, served, seen, same, ?_, beside⟩
  have alive : (last.mailbox number).isAlive = (mailbox session).isAlive := congrArg Mailbox.isAlive same
  exact alive

theorem session_serves_dongle_packet : ∃ session posts last,
    Run (Steps (step Cobs.standard)) {} packetThenExit session ∧
    Run (Shared.Serves 1) (Shared.of DongleLogic.connected) posts last ∧ last.isAlive 1 = false ∧
    ∃ event, (1, some event) ∈ given posts := by
  have computed : (execute (step Cobs.standard) {} packetThenExit).map (fun session => (gained (session.consumers 1)).isSome &&
      !session.isAlive) = some true := by decide +kernel
  obtain ⟨session, run, outcome⟩ := execute_summary computed
  obtain ⟨returned, dead⟩ := Bool.and_eq_true_iff.mp outcome
  obtain ⟨event, gains⟩ := Option.isSome_iff_exists.mp returned
  obtain ⟨posts, last, served, seen, _, alike, _⟩ := session_serves_dongle run
    (show 1 < (Shared.of DongleLogic.connected).opened by decide) (by rfl)
  refine ⟨session, posts, last, run, served, by simpa [alike] using dead, event, (seen.returned 1 (some event)).mp ?_⟩
  cases place : session.consumers 1 with
  | returned result =>
    rw [place] at gains
    exact congrArg _ gains
  | idle | getting | reposting =>
    rw [place] at gains
    cases gains

end DongloraClient.Proofs.MailboxRefinement
