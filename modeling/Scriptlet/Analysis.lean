import Scriptlet.Builtin
import Scriptlet.Expr
import Scriptlet.Record
import Scriptlet.SymbolTable

set_option autoImplicit false

namespace Scriptlet

-- The variables are declared without a value: the check only asks for their names.
structure Survey where
  symbols : SymbolTable := {}
  log : Log := []

namespace Survey

def isDeclaredHere (survey : Survey) (name : String) : Bool := survey.symbols.isDeclaredHere name

def isVisible (survey : Survey) (name : String) : Bool := (survey.symbols.lookup name).isSome

def declare (name : String) (survey : Survey) : Survey :=
  match survey.symbols.declare name .none with
  | none => survey
  | some (_, symbols) => { survey with symbols }

def enterScope (survey : Survey) : Survey := { survey with symbols := survey.symbols.enter }

def leaveScope (survey : Survey) : Survey :=
  match survey.symbols.leave? with
  | none => survey
  | some (names, symbols) => ⟨symbols, .released names :: survey.log⟩

end Survey

abbrev Check := EStateM SemanticError Survey

namespace Check

def fail {α : Type} (line : Nat) (fault : SemanticFault) : Check α := throw ⟨line, fault⟩

def inScope (check : Check Unit) : Check Unit := fun survey =>
  match check survey.enterScope with
  | .ok _ survey => .ok () survey.leaveScope
  | .error error survey => .error error survey.leaveScope

def declare (line : Nat) (name : String) : Check Unit := do
  if (← get).isDeclaredHere name then fail line (.redeclaration name)
  else modify (Survey.declare name)

end Check

def booleanOperators : List String := ["<", "<=", ">", ">=", "==", "!=", "&&", "||", "!"]

def Expr.isNeverBoolean : Expr → Bool
  | .literal _ text => text ≠ "true" && text ≠ "false"
  | .binary _ operator _ _ => operator ≠ "=" && operator ∉ booleanOperators
  | .unary _ operator _ => operator ∉ booleanOperators
  | _ => false

def Expr.isIdentifier : Expr → Bool
  | .identifier _ _ => true
  | _ => false

open Check

mutual

def Expr.check : Expr → Check Unit
  | .block _ statements => inScope (checkAll statements)
  | .declare line name none => declare line name
  | .declare line name (some initializer) => do
      initializer.check
      declare line name
  | .branch _ condition thenBranch elseBranch => do
      if condition.isNeverBoolean then fail condition.line .nonBooleanCondition
      condition.check
      thenBranch.check
      match elseBranch with
      | none => pure ()
      | some elseBranch => elseBranch.check
  | .loop _ condition body => do
      if condition.isNeverBoolean then fail condition.line .nonBooleanCondition
      condition.check
      body.check
  | .binary line operator left right => do
      if operator = "=" && !left.isIdentifier then fail line .invalidAssignmentTarget
      left.check
      right.check
  | .unary _ _ operand => operand.check
  | .literal _ _ => pure ()
  | .identifier line name => do
      if !(← get).isVisible name then fail line (.undefinedVariable name)
  | .call line name arguments => do
      if (Builtin.find? name).isNone then fail line (.undefinedFunction name)
      checkAll arguments
  | .empty _ => pure ()

def checkAll : List Expr → Check Unit
  | [] => pure ()
  | first :: others => do
      first.check
      checkAll others

end

def Program.check (program : Program) : Check Unit := do
  inScope (checkAll program.statements)
  modify fun survey => { survey with log := .checked :: survey.log }

def Program.analyze (program : Program) : Except SemanticError Unit :=
  match program.check {} with
  | .ok _ _ => .ok ()
  | .error error _ => .error error

end Scriptlet
