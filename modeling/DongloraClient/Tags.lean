import DongloraClient.Foundation.Sections
import DongloraClient.Session

/-! `_alloc_tag` statement by statement, for threads that interleave within it.
`Session.allocTag` takes it as one step. -/

namespace DongloraClient

/-- The accesses to `_next_tag`. -/
inductive TagOp where
  | load
  | store (tag : Nat)

def TagReply : TagOp → Type
  | .load => Nat
  | .store _ => Unit

/-- The body of `with self._tag_lock`. -/
def allocTagBody : Program TagOp TagReply Nat :=
  .perform .load fun (tag : Nat) =>
  .perform (.store ((tag + 1) &&& 0xFFFF)) fun _ =>
  .perform .load fun (next : Nat) =>
  if next = 0 then .perform (.store 1) fun _ => .pure tag else .pure tag

/-- `_next_tag` is a plain attribute. -/
def TagOp.respond (nextTag : Nat) : (op : TagOp) → Option (TagReply op × Nat)
  | .load => some (nextTag, nextTag)
  | .store tag => some ((), tag)

/-- Threads that call `_alloc_tag`. -/
abbrev tagSystem : Threads.System (Sections.Request TagOp) (Sections.Response TagReply) (Sections.Guarded Nat) Unit Empty Nat :=
  Sections.system TagOp.respond fun _ => allocTagBody

/-- No thread has called it yet on this session. -/
def Session.untagged (session : Session) :
    Threads.Pool (Sections.Request TagOp) (Sections.Response TagReply) (Sections.Guarded Nat) Unit Nat :=
  ⟨⟨session.nextTag, none⟩, fun _ => none⟩

end DongloraClient
