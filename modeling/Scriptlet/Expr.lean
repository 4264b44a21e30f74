/-!
Programs as trees. Everything in the language is an expression, and every node carries the line of
the token that introduces it.
-/

set_option autoImplicit false

namespace Scriptlet

inductive Expr where
  | block (line : Nat) (statements : List Expr)
  | declare (line : Nat) (name : String) (initializer : Option Expr)
  | branch (line : Nat) (condition thenBranch : Expr) (elseBranch : Option Expr)
  | loop (line : Nat) (condition body : Expr)
  | binary (line : Nat) (operator : String) (left right : Expr)
  | unary (line : Nat) (operator : String) (operand : Expr)
  | literal (line : Nat) (text : String)
  | identifier (line : Nat) (name : String)
  | call (line : Nat) (name : String) (arguments : List Expr)
  | empty (line : Nat)
deriving Inhabited

structure Program where
  statements : List Expr
deriving Inhabited

namespace Expr

@[simp] def line : Expr → Nat
  | block line _ | declare line _ _ | branch line _ _ _ | loop line _ _ | binary line _ _ _
  | unary line _ _ | literal line _ | identifier line _ | call line _ _ | empty line => line

end Expr

end Scriptlet
