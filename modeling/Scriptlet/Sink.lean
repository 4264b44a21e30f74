set_option autoImplicit false

namespace Scriptlet

structure Sink where
  limit : Option Nat := none
  bytes : ByteArray := .empty

inductive WriteFault where
  | limitReached
deriving DecidableEq, Repr

def WriteFault.message : WriteFault → String
  | .limitReached => "output limit"

-- Stores a text. What lies beyond the limit is cut off, and the write then fails.
def Sink.write (text : String) : EStateM WriteFault Sink Unit := fun ⟨limit, bytes⟩ =>
  let written := bytes ++ text.toUTF8
  match limit with
  | none => .ok () ⟨none, written⟩
  | some bound =>
      if written.size ≤ bound then .ok () ⟨some bound, written⟩
      else .error .limitReached ⟨some bound, written.extract 0 bound⟩

end Scriptlet
