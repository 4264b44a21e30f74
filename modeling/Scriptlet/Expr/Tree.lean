import Scriptlet.Expr
import Scriptlet.Text.Indentation

set_option autoImplicit false

namespace Scriptlet

structure Row where
  depth : Nat
  label : String
  line : Nat
deriving DecidableEq, Repr

def Row.text (row : Row) : String := Text.indentation row.depth ++ row.label ++ "\n"

mutual

def Expr.rows (depth : Nat) : Expr → List Row
  | .block line statements => ⟨depth, "Block", line⟩ :: rowsOfAll (depth + 1) statements
  | .declare line name none => [⟨depth, "Let " ++ name, line⟩]
  | .declare line name (some initializer) =>
      ⟨depth, "Let " ++ name, line⟩ :: initializer.rows (depth + 1)
  | .branch line condition thenBranch none =>
      ⟨depth, "If", line⟩ :: (condition.rows (depth + 1) ++ thenBranch.rows (depth + 1))
  | .branch line condition thenBranch (some elseBranch) =>
      ⟨depth, "If", line⟩ :: (condition.rows (depth + 1) ++ thenBranch.rows (depth + 1) ++
        elseBranch.rows (depth + 1))
  | .loop line condition body =>
      ⟨depth, "While", line⟩ :: (condition.rows (depth + 1) ++ body.rows (depth + 1))
  | .binary line operator left right =>
      ⟨depth, "Binary " ++ operator, line⟩ :: (left.rows (depth + 1) ++ right.rows (depth + 1))
  | .unary line operator operand => ⟨depth, "Unary " ++ operator, line⟩ :: operand.rows (depth + 1)
  | .literal line text => [⟨depth, "Literal " ++ text, line⟩]
  | .identifier line name => [⟨depth, "Identifier " ++ name, line⟩]
  | .call line name arguments =>
      ⟨depth, "Invocation " ++ name, line⟩ :: rowsOfAll (depth + 1) arguments
  | .empty line => [⟨depth, "Empty", line⟩]

def rowsOfAll (depth : Nat) : List Expr → List Row
  | [] => []
  | first :: others => first.rows depth ++ rowsOfAll depth others

end

namespace Program

def rows (program : Program) : List Row := rowsOfAll 1 program.statements

def tree (program : Program) : String :=
  "Program\n" ++ String.join (program.rows.map Row.text)

def lines (program : Program) : List Nat := program.rows.map Row.line

end Program

end Scriptlet
