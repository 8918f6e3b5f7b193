import DongloraClient.Session

/-! A `Session` and the device at the other end of its transport. Frames keep their
order in both directions, and any of them may be damaged on the way. The device answers
what it likes and when it likes, but only commands that it has received. -/

namespace DongloraClient
open Wire

/-- A frame on the way to the host. Which command it answers is not on the wire. -/
structure Letter where
  answers : Option Nat
  frame : Frame
  deriving DecidableEq, Repr

/-- `handling` is what the frame answers that the reader has taken last. -/
structure Link where
  session : Session := {}
  outbound : List (Nat × Frame) := []
  received : List (Nat × Frame) := []
  inbound : List Letter := []
  handling : Option Nat := none

/-- The steps of the session, the device and the line between them. -/
inductive Traffic where
  | host (step : Step)
  | arrive
  | lose
  | answer (call typeId : Nat) (payload : Bytes)
  | notify (typeId : Nat) (payload : Bytes)
  | spoil
  deriving DecidableEq, Repr

namespace Link

variable (cobs : Cobs.Codec)

/-- The frame that a write puts on the line. After a failure it may have gone out or not. -/
def written (link : Link) (id : Nat) : List (Nat × Frame) :=
  let call := link.session.calls id
  match Session.wire cobs call, call.request.payload with
  | .ok _, .ok payload => [(id, { typeId := call.request.typeId, tag := call.tag, payload })]
  | _, _ => []

def step (link : Link) : Traffic → Option Link
  | .host (.write id failure) =>
    (link.session.step cobs (.write id failure)).map fun session =>
      { link with session, outbound := link.outbound ++ link.written cobs id }
  | .host (.receive frame) =>
    match link.inbound with
    | letter :: rest =>
      if letter.frame = frame then
        (link.session.step cobs (.receive frame)).map fun session =>
          { link with session, inbound := rest, handling := letter.answers }
      else none
    | [] => none
  | .host label => (link.session.step cobs label).map fun session => { link with session }
  | .arrive =>
    match link.outbound with
    | command :: rest => some { link with outbound := rest, received := link.received ++ [command] }
    | [] => none
  | .lose =>
    match link.outbound with
    | _ :: rest => some { link with outbound := rest }
    | [] => none
  | .answer call typeId payload =>
    -- A device reports a transmission only for a TX.
    match link.received.lookup call with
    | some command =>
      if typeId = typeTxDone → command.typeId = typeTx then
        some { link with inbound := link.inbound ++ [⟨some call, { typeId, tag := command.tag, payload }⟩] }
      else none
    | none => none
  | .notify typeId payload =>
    some { link with inbound := link.inbound ++ [⟨none, { typeId, tag := 0, payload }⟩] }
  | .spoil =>
    match link.inbound with
    | _ :: rest => some { link with inbound := rest }
    | [] => none

end Link
end DongloraClient
