import DongloraClient.Link
import DongloraClient.Proofs.SessionAnswers
import DongloraClient.Proofs.SessionTags

/-! What a command comes to is what the device has answered to that very command, in
whatever order commands, answers, losses and timeouts interleave, as long as no answer is
a whole round of the tag counter old when it is dispatched. -/

namespace DongloraClient.Proofs.LinkAgreement
open Session SessionSteps SessionTable SessionTags SessionReplies SessionAnswers Dispatch Transition

variable {cobs : Cobs.Codec} {link next : Link} {event : Traffic} {events : List Traffic} {id : Nat}

def hosted : Traffic → Option Step
  | .host label => some label
  | _ => none

def host (events : List Traffic) : List Step := events.filterMap hosted

@[simp] theorem host_host (events : List Traffic) (label : Step) : host (events ++ [.host label]) = host events ++ [label] :=
  filterMap_snoc _ _ _

/-- What a step can do. The device and the line leave the session alone. -/
inductive Moved (cobs : Cobs.Codec) (link : Link) : Traffic → Link → Prop where
  | wrote {id : Nat} {failure : Option String} {session : Session} :
      link.session.step cobs (.write id failure) = some session →
      Moved cobs link (.host (.write id failure)) { link with session, outbound := link.outbound ++ link.written cobs id }
  | took {letter : Letter} {rest : List Letter} {session : Session} : link.inbound = letter :: rest →
      link.session.step cobs (.receive letter.frame) = some session →
      Moved cobs link (.host (.receive letter.frame)) { link with session, inbound := rest, handling := letter.answers }
  | host {label : Step} {session : Session} : (∀ id failure, label ≠ .write id failure) →
      (∀ frame, label ≠ .receive frame) → link.session.step cobs label = some session →
      Moved cobs link (.host label) { link with session }
  | arrived {command : Nat × Frame} {rest : List (Nat × Frame)} : link.outbound = command :: rest →
      Moved cobs link .arrive { link with outbound := rest, received := link.received ++ [command] }
  | lost {command : Nat × Frame} {rest : List (Nat × Frame)} : link.outbound = command :: rest →
      Moved cobs link .lose { link with outbound := rest }
  | answered {call typeId : Nat} {payload : Wire.Bytes} {command : Frame} : link.received.lookup call = some command →
      (typeId = typeTxDone → command.typeId = typeTx) → Moved cobs link (.answer call typeId payload)
        { link with inbound := link.inbound ++ [⟨some call, { typeId, tag := command.tag, payload }⟩] }
  | notified {typeId : Nat} {payload : Wire.Bytes} : Moved cobs link (.notify typeId payload)
      { link with inbound := link.inbound ++ [⟨none, { typeId, tag := 0, payload }⟩] }
  | spoiled {letter : Letter} {rest : List Letter} : link.inbound = letter :: rest →
      Moved cobs link .spoil { link with inbound := rest }

theorem moved (taken : link.step cobs event = some next) : Moved cobs link event next := by
  cases event with
  | host label =>
    cases label with
    | write call failure =>
      obtain ⟨session, stepped, rfl⟩ := Option.map_eq_some_iff.mp taken
      exact .wrote stepped
    | receive frame =>
      simp only [Link.step] at taken
      split at taken
      next letter rest queued =>
        split at taken
        next same =>
          subst same
          obtain ⟨session, stepped, rfl⟩ := Option.map_eq_some_iff.mp taken
          exact .took queued stepped
        next => cases taken
      next => cases taken
    | _ =>
      obtain ⟨session, stepped, rfl⟩ := Option.map_eq_some_iff.mp taken
      exact .host nofun nofun stepped
  | arrive =>
    simp only [Link.step] at taken
    split at taken <;> cases taken
    next queued => exact .arrived queued
  | lose =>
    simp only [Link.step] at taken
    split at taken <;> cases taken
    next queued => exact .lost queued
  | answer call typeId payload =>
    simp only [Link.step] at taken
    split at taken
    next command found =>
      split at taken <;> cases taken
      next reported => exact .answered found reported
    next => cases taken
  | notify =>
    cases taken
    exact .notified
  | spoil =>
    simp only [Link.step] at taken
    split at taken <;> cases taken
    next queued => exact .spoiled queued

theorem host_taken {label : Step} (taken : link.step cobs (.host label) = some next) :
    link.session.step cobs label = some next.session := by
  generalize same : Traffic.host label = event at taken
  cases moved taken <;> cases same <;> assumption

theorem session_kept (taken : link.step cobs event = some next) (other : hosted event = none) :
    next.session = link.session := by
  cases moved taken with
  | wrote | took | host => cases other
  | arrived | lost | answered | notified | spoiled => rfl

theorem host_other (events : List Traffic) (other : hosted event = none) : host (events ++ [event]) = host events := by
  rw [host, filterMap_snoc, other]
  exact List.append_nil _

theorem host_run (run : Run (Steps (Link.step cobs)) {} events link) :
    Run (Steps (step cobs)) {} (host events) link.session := by
  induction run with
  | nil => exact .nil
  | @snoc events link next event before taken ih =>
    cases event with
    | host label =>
      rw [host_host]
      exact ih.snoc (host_taken taken)
    | arrive | lose | answer | notify | spoil =>
      rw [host_other _ rfl, session_kept taken rfl]
      exact ih

theorem mem_of_lookup {key : Nat} {value : Frame} {entries : List (Nat × Frame)} (found : entries.lookup key = some value) :
    (key, value) ∈ entries := by
  obtain ⟨front, back, rfl, _⟩ := List.lookup_eq_some_iff.mp found
  simp

structure Carries (session : Session) (id : Nat) (frame : Frame) : Prop where
  registered : Registered (session.calls id)
  typeId : frame.typeId = (session.calls id).request.typeId
  tag : frame.tag = (session.calls id).tag
  payload : (session.calls id).request.payload = .ok frame.payload

/-- The device has sent the frame, as an answer to a command or as news of its own. -/
def Told (events : List Traffic) (session : Session) : Option Nat → Frame → Prop
  | none, frame => frame.tag = 0
  | some id, frame => Registered (session.calls id) ∧ frame.tag = (session.calls id).tag ∧
      .answer id frame.typeId frame.payload ∈ events

section Kept
variable {session after : Session} {label : Step}

theorem Carries.kept {frame : Frame} (carries : Carries session id frame) (taken : step cobs session label = some after) :
    Carries after id frame := by
  obtain ⟨past, tag, request⟩ := registered_fixed taken carries.registered
  exact ⟨past, request ▸ carries.typeId, tag ▸ carries.tag, request ▸ carries.payload⟩

theorem Told.later {answers : Option Nat} {frame : Frame} (told : Told events session answers frame) (event : Traffic) :
    Told (events ++ [event]) session answers frame := by
  cases answers with
  | none => exact told
  | some id => exact ⟨told.1, told.2.1, List.mem_append_left _ told.2.2⟩

theorem Told.kept {answers : Option Nat} {frame : Frame} (told : Told events session answers frame)
    (taken : step cobs session label = some after) : Told events after answers frame := by
  cases answers with
  | none => exact told
  | some id =>
    obtain ⟨past, tag, _⟩ := registered_fixed taken told.1
    exact ⟨past, told.2.1.trans tag.symm, told.2.2⟩

theorem dispatching_before {frame : Frame} (taken : step cobs session label = some after)
    (dispatching : after.reader = .dispatching frame) : session.reader = .dispatching frame ∨ label = .receive frame := by
  cases stepped taken with
  | received reading =>
    cases dispatching
    exact Or.inr rfl
  | polled looping =>
    simp only at dispatching
    split at dispatching <;> cases dispatching
  | acted =>
    rw [setTodo, apply_reader] at dispatching
    exact Or.inl dispatching
  | corrupted | timedOut | failed | dispatched | raised | ended => cases dispatching
  | _ => exact Or.inl dispatching

theorem dispatch_taken {frame : Frame} {found : Option Nat} (taken : step cobs session (.dispatch frame found) = some after) :
    session.reader = .dispatching frame ∧ (session.getPending frame.tag).map Prod.fst = found := by
  simp only [step] at taken
  split at taken
  next met => exact ⟨met.1, met.2.2.symm⟩
  next => cases taken

theorem written_carries {failure : Option String} (taken : link.session.step cobs (.write id failure) = some after) :
    ∀ command ∈ link.written cobs id, Carries link.session command.1 command.2 := by
  intro command member
  have place : (link.session.calls id).pc = .registered := by
    cases stepped taken with
    | moved move => cases move <;> assumption
  simp only [Link.written] at member
  split at member
  next encoded payload =>
    cases List.mem_singleton.mp member
    exact ⟨by simp [Registered, place], rfl, rfl, payload⟩
  next => cases member

end Kept

/-- Whose frames are under way, and what the device has done with those it received. -/
structure Addressed (events : List Traffic) (link : Link) : Prop where
  commands : ∀ command ∈ link.outbound ++ link.received, Carries link.session command.1 command.2
  letters : ∀ letter ∈ link.inbound, Told events link.session letter.answers letter.frame
  handling : ∀ frame, link.session.reader = .dispatching frame → Told events link.session link.handling frame
  executed : ∀ id typeId payload, .answer id typeId payload ∈ events →
    ∃ frame, (id, frame) ∈ link.received ∧ (typeId = typeTxDone → frame.typeId = typeTx)

namespace Addressed

theorem initial : Addressed [] {} where
  commands _ member := absurd member List.not_mem_nil
  letters _ member := absurd member List.not_mem_nil
  handling _ dispatching := nomatch dispatching
  executed _ _ _ member := absurd member List.not_mem_nil

variable (addressed : Addressed events link)
include addressed

theorem commands_kept (taken : link.step cobs event = some next) :
    ∀ command ∈ next.outbound ++ next.received, Carries next.session command.1 command.2 := by
  intro command member
  cases moved taken with
  | @wrote id failure session stepped =>
    refine Carries.kept ?_ stepped
    rw [List.append_assoc, List.mem_append, List.mem_append] at member
    rcases member with out | fresh | received
    · exact addressed.commands command (List.mem_append_left _ out)
    · exact written_carries stepped command fresh
    · exact addressed.commands command (List.mem_append_right _ received)
  | took _ stepped => exact (addressed.commands command member).kept stepped
  | host _ _ stepped => exact (addressed.commands command member).kept stepped
  | arrived queued =>
    refine addressed.commands command ?_
    rw [queued]
    simp only [List.mem_append, List.mem_cons, List.not_mem_nil, or_false] at member ⊢
    tauto
  | lost queued =>
    refine addressed.commands command ?_
    rw [queued]
    exact List.mem_cons_of_mem _ member
  | answered | notified | spoiled => exact addressed.commands command member

theorem letters_kept (taken : link.step cobs event = some next) :
    ∀ letter ∈ next.inbound, Told (events ++ [event]) next.session letter.answers letter.frame := by
  intro letter member
  cases moved taken with
  | wrote stepped => exact ((addressed.letters letter member).kept stepped).later _
  | took queued stepped =>
    exact ((addressed.letters letter (queued ▸ List.mem_cons_of_mem _ member)).kept stepped).later _
  | host _ _ stepped => exact ((addressed.letters letter member).kept stepped).later _
  | arrived | lost => exact (addressed.letters letter member).later _
  | @answered call typeId payload command found =>
    rcases List.mem_append.mp member with old | new
    · exact (addressed.letters letter old).later _
    · cases List.mem_singleton.mp new
      have carries := addressed.commands (call, command) (List.mem_append_right _ (mem_of_lookup found))
      exact ⟨carries.registered, carries.tag, List.mem_append_right _ (List.mem_singleton_self _)⟩
  | notified =>
    rcases List.mem_append.mp member with old | new
    · exact (addressed.letters letter old).later _
    · cases List.mem_singleton.mp new
      rfl
  | spoiled queued => exact (addressed.letters letter (queued ▸ List.mem_cons_of_mem _ member)).later _

theorem handling_kept (taken : link.step cobs event = some next) {frame : Frame}
    (dispatching : next.session.reader = .dispatching frame) :
    Told (events ++ [event]) next.session next.handling frame := by
  cases moved taken with
  | wrote stepped =>
    rcases dispatching_before stepped dispatching with before | received
    · exact ((addressed.handling frame before).kept stepped).later _
    · cases received
  | @took letter rest session queued stepped =>
    have same : letter.frame = frame := by
      cases SessionSteps.stepped stepped with
      | received => exact Reader.dispatching.inj dispatching
      | moved move => cases move
    exact same ▸ ((addressed.letters letter (queued ▸ List.mem_cons_self)).kept stepped).later _
  | host _ other stepped =>
    rcases dispatching_before stepped dispatching with before | received
    · exact ((addressed.handling frame before).kept stepped).later _
    · exact absurd received (other frame)
  | arrived | lost | answered | notified | spoiled => exact (addressed.handling frame dispatching).later _

theorem executed_kept (taken : link.step cobs event = some next) {typeId : Nat} {payload : Wire.Bytes}
    (told : .answer id typeId payload ∈ events ++ [event]) :
    ∃ frame, (id, frame) ∈ next.received ∧ (typeId = typeTxDone → frame.typeId = typeTx) := by
  have before (old : .answer id typeId payload ∈ events) :
      ∃ frame, (id, frame) ∈ next.received ∧ (typeId = typeTxDone → frame.typeId = typeTx) := by
    obtain ⟨frame, received, reported⟩ := addressed.executed id typeId payload old
    refine ⟨frame, ?_, reported⟩
    cases moved taken with
    | arrived => exact List.mem_append_left _ received
    | wrote | took | host | lost | answered | notified | spoiled => exact received
  rcases List.mem_append.mp told with old | new
  · exact before old
  · have same := List.mem_singleton.mp new
    cases moved taken with
    | @answered _ _ _ command found reported =>
      cases same
      exact ⟨command, mem_of_lookup found, reported⟩
    | wrote | took | host | arrived | lost | notified | spoiled => cases same

theorem preserved (taken : link.step cobs event = some next) : Addressed (events ++ [event]) next where
  commands := addressed.commands_kept taken
  letters := addressed.letters_kept taken
  handling _ := addressed.handling_kept taken
  executed _ _ _ := addressed.executed_kept taken

omit addressed in
theorem reachable (run : Run (Steps (Link.step cobs)) {} events link) : Addressed events link :=
  run.invariant initial fun _ _ _ _ addressed taken => addressed.preserved taken

end Addressed

section Order

def writer : Traffic → Option Nat
  | .host (.write id _) => some id
  | _ => none

def writes (events : List Traffic) : List Nat := events.filterMap writer

def Past (call : Call) : Prop := Registered call ∧ call.pc ≠ .registered

theorem past_kept {session after : Session} {label : Step} (taken : step cobs session label = some after)
    (past : Past (session.calls id)) : Past (after.calls id) := by
  refine ⟨(registered_fixed taken past.1).1, fun place => ?_⟩
  generalize same : after.calls id = call at place
  cases same ▸ step_calls taken id with
  | same | written => exact past.2 place
  | registered allocated => exact past.1.2.2 allocated
  | moved move =>
    simp only at place
    subst place
    cases move
  | rejected | entered | allocated | forgotten => cases place

theorem write_past {session after : Session} {failure : Option String}
    (taken : step cobs session (.write id failure) = some after) :
    (session.calls id).pc = .registered ∧ Past (after.calls id) := by
  cases stepped taken with
  | moved move => cases move <;> exact ⟨by assumption, by simp [Past, Registered]⟩

/-- Every command is written once, and arrives once at most. -/
structure InOrder (events : List Traffic) (link : Link) : Prop where
  once : (writes events).Nodup
  past : ∀ id ∈ writes events, Past (link.session.calls id)
  arrivals : ((link.received ++ link.outbound).map Prod.fst).Sublist (writes events)

namespace InOrder

theorem initial : InOrder [] {} where
  once := .nil
  past _ member := absurd member List.not_mem_nil
  arrivals := .slnil

theorem undisturbed (ordered : InOrder events link) (other : writer event = none)
    (kept : ∀ id, Past (link.session.calls id) → Past (next.session.calls id))
    (fewer : (next.received ++ next.outbound).Sublist (link.received ++ link.outbound)) : InOrder (events ++ [event]) next := by
  have same : writes (events ++ [event]) = writes events := by
    rw [writes, filterMap_snoc, other]
    exact List.append_nil _
  constructor
  · rw [same]
    exact ordered.once
  · rw [same]
    exact fun id member => kept id (ordered.past id member)
  · rw [same]
    exact (fewer.map Prod.fst).trans ordered.arrivals

theorem preserved (ordered : InOrder events link) (taken : link.step cobs event = some next) :
    InOrder (events ++ [event]) next := by
  cases moved taken with
  | @wrote id failure session stepped =>
    obtain ⟨place, past⟩ := write_past stepped
    have fresh : id ∉ writes events := fun member => (ordered.past id member).2 place
    have more : writes (events ++ [.host (.write id failure)]) = writes events ++ [id] := filterMap_snoc _ _ _
    constructor
    · rw [more]
      exact List.nodup_append.mpr ⟨ordered.once, List.nodup_singleton _, by simp; grind⟩
    · rw [more]
      intro other member
      rcases List.mem_append.mp member with old | new
      · exact past_kept stepped (ordered.past other old)
      · cases List.mem_singleton.mp new
        exact past
    · rw [more, ← List.append_assoc, List.map_append]
      refine ordered.arrivals.append ?_
      simp only [Link.written]
      split
      · exact List.Sublist.refl _
      · exact List.nil_sublist _
  | took _ stepped => exact ordered.undisturbed rfl (fun _ past => past_kept stepped past) (List.Sublist.refl _)
  | @host label session other _ stepped =>
    have quiet : writer (.host label) = none := by
      cases label with
      | write id failure => exact absurd rfl (other id failure)
      | _ => rfl
    exact ordered.undisturbed quiet (fun _ past => past_kept stepped past) (List.Sublist.refl _)
  | arrived queued =>
    refine ordered.undisturbed rfl (fun _ past => past) ?_
    rw [queued, List.append_assoc]
    exact List.Sublist.refl _
  | lost queued =>
    refine ordered.undisturbed rfl (fun _ past => past) ?_
    rw [queued]
    exact (List.sublist_cons_self _ _).append_left _
  | answered | notified | spoiled => exact ordered.undisturbed rfl (fun _ past => past) (List.Sublist.refl _)

theorem reachable (run : Run (Steps (Link.step cobs)) {} events link) : InOrder events link :=
  run.invariant initial fun _ _ _ _ ordered taken => ordered.preserved taken

end InOrder
end Order

theorem allocated_later {steps : List Step} (given : id ∈ allocated steps) (label : Step) : id ∈ allocated (steps ++ [label]) := by
  rw [allocated, List.filterMap_append]
  exact List.mem_append_left _ given

theorem commands_given (run : Run (Steps (Link.step cobs)) {} events link) :
    ∀ command ∈ link.outbound ++ link.received, command.1 ∈ allocated (host events) := by
  induction run with
  | nil => exact fun _ member => absurd member List.not_mem_nil
  | @snoc events link next event before taken ih =>
    intro command member
    cases moved taken with
    | @wrote id failure session stepped =>
      rw [host_host]
      refine allocated_later ?_ _
      rw [List.append_assoc, List.mem_append, List.mem_append] at member
      rcases member with out | fresh | received
      · exact ih command (List.mem_append_left _ out)
      · have flying : InFlight (link.session.calls id) := by simp only [InFlight, (write_past stepped).1]
        simp only [Link.written] at fresh
        split at fresh
        · cases List.mem_singleton.mp fresh
          exact (Numbered.reachable (host_run before)).listed id (Or.inr flying)
        · cases fresh
      · exact ih command (List.mem_append_right _ received)
    | took | host =>
      rw [host_host]
      exact allocated_later (ih command member) _
    | arrived queued =>
      rw [host_other _ rfl]
      refine ih command ?_
      rw [queued]
      simp only [List.mem_append, List.mem_cons, List.not_mem_nil, or_false] at member ⊢
      tauto
    | lost queued =>
      rw [host_other _ rfl]
      exact ih command (queued ▸ List.mem_cons_of_mem _ member)
    | answered | notified | spoiled =>
      rw [host_other _ rfl]
      exact ih command member

/-- Neither a command in flight nor the answer that is being dispatched is a whole round
of the counter old. -/
def Punctual (events : List Traffic) (link : Link) : Prop :=
  ∀ index id, (allocated (host events))[index]? = some id →
    InFlight (link.session.calls id) ∨ (link.handling = some id ∧ ∃ frame, link.session.reader = .dispatching frame) →
    (allocated (host events)).length ≤ index + 65535

theorem finds_answered (run : Run (Steps (Link.step cobs)) {} events link) (punctual : Punctual events link) {frame : Frame}
    (dispatching : link.session.reader = .dispatching frame)
    (found : (link.session.getPending frame.tag).map Prod.fst = some id) : link.handling = some id := by
  have addressed := Addressed.reachable run
  have numbered := Numbered.reachable (host_run run)
  obtain ⟨cmdType, looked⟩ := looked_up found
  obtain ⟨nonzero, _, flying, tag, _⟩ := (Sound.reachable (host_run run)).found looked
  have told := addressed.handling frame dispatching
  cases handling : link.handling with
  | none =>
    rw [handling] at told
    exact absurd told nonzero
  | some other =>
    rw [handling] at told
    obtain ⟨_, sent, answered⟩ := told
    obtain ⟨_, received, _⟩ := addressed.executed other _ _ answered
    obtain ⟨index, listed⟩ := List.getElem?_of_mem (numbered.listed id (Or.inr flying))
    obtain ⟨index', listed'⟩ := List.getElem?_of_mem (commands_given run _ (List.mem_append_right _ received))
    have inside := (List.getElem?_eq_some_iff.mp listed).1
    have inside' := (List.getElem?_eq_some_iff.mp listed').1
    have window := punctual index id listed (Or.inl flying)
    have window' := punctual index' other listed' (Or.inr ⟨handling, frame, dispatching⟩)
    have same : nthTag index' = nthTag index := by
      rw [← (numbered.given index id listed).1, ← (numbered.given index' other listed').1, tag, sent]
    obtain rfl := nthTag_injective same (by omega) (by omega)
    rw [← listed, ← listed']

variable (whole : Throughout (Steps (Link.step cobs)) Punctual {} events link)
include whole

theorem dispatch_answered {frame : Frame} (dispatching : link.session.reader = .dispatching frame)
    (found : (link.session.getPending frame.tag).map Prod.fst = some id) :
    .answer id frame.typeId frame.payload ∈ events ∧ frame.tag = (link.session.calls id).tag := by
  have told := (Addressed.reachable whole.run).handling frame dispatching
  rw [finds_answered whole.run whole.last dispatching found] at told
  exact ⟨told.2.2, told.2.1⟩

/-- What is dispatched to a command has been sent in answer to it. -/
theorem delivered {frame : Frame} (found : Found (host events) id frame) : .answer id frame.typeId frame.payload ∈ events := by
  induction whole with
  | nil => cases found
  | @snoc events link next event before taken _ ih =>
    refine List.mem_append_left _ ?_
    cases event with
    | host label =>
      rw [Found, host_host] at found
      rcases List.mem_append.mp found with old | new
      · exact ih old
      · cases List.mem_singleton.mp new
        obtain ⟨dispatching, looked⟩ := dispatch_taken (host_taken taken)
        exact (dispatch_answered before dispatching looked).1
    | arrive | lose | answer | notify | spoil =>
      rw [Found, host_other _ rfl] at found
      exact ih found

omit whole

/-- What an outcome says about the device: the answer that it comes from. -/
def Accounted (events : List Traffic) (id : Nat) (call : Call) : Outcome → Prop
  | .ok (.txDone done) => call.request.typeId = typeTx ∧ done.result = .transmitted ∧
      ∃ payload, .answer id typeTxDone payload ∈ events ∧ TxDone.decode payload = .ok done
  | .ok (.ok value) => call.request.typeId ≠ typeTx ∧
      ∃ payload, .answer id typeOk payload ∈ events ∧ parseOkPayload call.request.typeId payload = .ok value
  | .error (.deviceError cls code tag) => ∃ payload, .answer id typeErr payload ∈ events ∧
      decodeErrPayload payload = .ok code ∧ Exc.deviceError cls code tag = deviceError code (some call.tag)
  | .error .channelBusy => ∃ payload done, .answer id typeTxDone payload ∈ events ∧
      TxDone.decode payload = .ok done ∧ done.result = .channelBusy
  | .error .cancelled => ∃ payload done, .answer id typeTxDone payload ∈ events ∧
      TxDone.decode payload = .ok done ∧ done.result = .cancelled
  | .error _ => True

end DongloraClient.Proofs.LinkAgreement
