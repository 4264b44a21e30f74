import Scriptlet.Grammar.Progress

set_option autoImplicit false

namespace Scriptlet

structure Cursor where
  tokens : List Token
  endLine : Nat
deriving DecidableEq, Repr

namespace Cursor

-- Trivia is skipped, but the last token counts as the end even if it is trivia.
def ofTokens (tokens : List Token) : Cursor where
  tokens := tokens.filter Token.isSignificant
  endLine := (tokens.getLast?.map Token.line).getD 1

def fuel (cursor : Cursor) : Nat := 16 * (cursor.tokens.length + 1)

theorem expression_enough (cursor : Cursor) :
    Grammar.expression cursor.endLine cursor.fuel cursor.tokens ≠ .error .outOfFuel :=
  Grammar.settled_not_out_of_fuel
    ((Grammar.settles cursor.endLine cursor.fuel).expression cursor.tokens (by unfold fuel; omega))

theorem program_enough (cursor : Cursor) :
    Grammar.program cursor.endLine cursor.fuel cursor.tokens ≠ .error .outOfFuel :=
  Grammar.settled_not_out_of_fuel
    (Grammar.program_settles cursor.endLine cursor.tokens (by unfold fuel; omega))

def expression? (cursor : Cursor) : Except SyntacticError (Option (Expr × Cursor)) := do
  match ← Stop.settle _ cursor.expression_enough with
  | none => return none
  | some (read, rest) => return some (read, { cursor with tokens := rest })

def program (cursor : Cursor) : Except SyntacticError Program := Stop.settle _ cursor.program_enough

end Cursor

end Scriptlet
