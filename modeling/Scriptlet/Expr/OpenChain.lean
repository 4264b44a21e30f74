import Scriptlet.Expr
import Scriptlet.Operator

/-!
Binary operations whose leftmost operand is still missing.

Reading a chain of operands from left to right meets the first operand before it is known what it
belongs to. The operations that follow it are kept open on the left until then.
-/

set_option autoImplicit false

namespace Scriptlet

structure Link where
  operator : Operator
  line : Nat
  operand : Expr

-- Operations that lean to the left, the innermost of which lacks its left operand.
inductive OpenChain where
  | hole (link : Link)
  | nested (left : OpenChain) (link : Link)

namespace Link

def apply (link : Link) (left : Expr) : Expr :=
  .binary link.line link.operator.lexeme left link.operand

end Link

namespace OpenChain

def fill (operand : Expr) : OpenChain → Expr
  | hole link => link.apply operand
  | nested left link => link.apply (left.fill operand)

def graft (link : Link) : OpenChain → OpenChain
  | hole outer => nested (hole link) outer
  | nested left outer => nested (left.graft link) outer

-- Puts a link in front of what follows it: an operator that leans right takes all of it as its
-- right operand, one that leans left becomes its leftmost operand.
def extend (link : Link) : Option OpenChain → OpenChain
  | none => hole link
  | some deeper =>
      match link.operator.associativity with
      | .rightToLeft => hole { link with operand := deeper.fill link.operand }
      | .leftToRight => deeper.graft link

end OpenChain

end Scriptlet
