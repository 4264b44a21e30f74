import Scriptlet.Builtin
import Scriptlet.Context
import Scriptlet.Expr
import Scriptlet.Value.Literal

/-!
Evaluation of expressions.

An evaluation that stops early keeps the context as it is at that point, but scopes and depth are
restored on every way out. Fuel bounds the number of turns that each loop may take.
-/

set_option autoImplicit false

namespace Scriptlet

abbrev Eval := EStateM (Stop RuntimeError) Context

-- Fuel for more turns than a loop can take in practice.
def ampleFuel : Nat := Nat.pow 2 62

namespace Eval

def fail {α : Type} (line : Nat) (fault : RuntimeFault) : Eval α := throw (.failed ⟨line, fault⟩)

def onLine {α : Type} (line : Nat) : Except RuntimeFault α → Eval α
  | .ok result => pure result
  | .error fault => fail line fault

def trace (event : Event) : Eval Unit := modify (Context.trace event)

def between {α : Type} (before after : Context → Context) (action : Eval α) : Eval α := fun context =>
  match action (before context) with
  | .ok result context => .ok result (after context)
  | .error stop context => .error stop (after context)

def indented {α : Type} (action : Eval α) : Eval α := between Context.indent Context.unindent action

def inScope {α : Type} (action : Eval α) : Eval α :=
  between (Context.indent ∘ Context.enterScope) (Context.leaveScope ∘ Context.unindent) action

def repeatWhile (test : Eval Bool) (body : Eval Value) : Nat → Value → Eval Value
  | 0, _ => throw .outOfFuel
  | fuel + 1, last => do
      if ← test then repeatWhile test body fuel (← body) else return last

def declare (name : String) (value : Value) : Eval Value := do
  trace (.declaration name value)
  modify (Context.declare name value)
  return value

def readVariable (line : Nat) (name : String) : Eval Value := do
  let symbols := (← get).symbols
  match (symbols.lookup name).bind symbols.get? with
  | none => fail line (.undefinedSymbol name)
  | some value =>
      trace (.identifier name value)
      return value

def assignVariable (line : Nat) (name : String) (value : Value) : Eval Value := do
  let symbols := (← get).symbols
  match (symbols.lookup name).bind (symbols.set? · value) with
  | none => fail line (.undefinedSymbol name)
  | some symbols =>
      modify fun context => { context with symbols }
      return value

def assign (line : Nat) (value : Value) : Expr → Eval Value
  | .identifier _ name => assignVariable line name value
  | _ => fail line .invalidAssignmentTarget

def literal (line : Nat) (text : String) : Eval Value := do
  trace (.literal text)
  onLine line (Value.ofLiteral text)

def invoke (line : Nat) (builtin : Builtin) (arguments : List Value) : Eval Value :=
  fun ⟨symbols, output, depth, log⟩ =>
    match builtin.invoke arguments output with
    | .ok result output => .ok result ⟨symbols, output, depth, log⟩
    | .error fault output => .error (.failed ⟨line, fault⟩) ⟨symbols, output, depth, log⟩

def call (line : Nat) (name : String) (arguments : List Value) : Eval Value := do
  trace (.call name arguments.length)
  match Builtin.find? name with
  | none => fail line (.undefinedFunction name)
  | some builtin => invoke line builtin arguments

end Eval

open Eval

mutual

def Expr.eval (fuel : Nat) : Expr → Eval Value
  | .block _ statements => do
      trace .blockBegin
      let value ← inScope (evalAll fuel statements .none)
      trace .blockEnd
      return value
  | .declare _ name none => declare name .none
  | .declare _ name (some initializer) => do
      declare name (← initializer.eval fuel)
  | .branch line condition thenBranch elseBranch => do
      trace .branchBegin
      let value ←
        if ← onLine line (← condition.eval fuel).asBoolean then thenBranch.eval fuel
        else
          match elseBranch with
          | none => pure .none
          | some elseBranch => elseBranch.eval fuel
      trace .branchEnd
      return value
  | .loop line condition body => do
      trace .loopBegin
      let test := do onLine line (← condition.eval fuel).asBoolean
      let value ← repeatWhile test (body.eval fuel) fuel .none
      trace .loopEnd
      return value
  | .binary line operator left right => do
      trace (.binary operator)
      let (x, y) ← indented do
        let x ← left.eval fuel
        let y ← right.eval fuel
        return (x, y)
      if operator = "=" then assign line y left
      else onLine line (applyBinary operator x y)
  | .unary line operator operand => do
      trace (.unary operator)
      let x ← indented (operand.eval fuel)
      onLine line (applyUnary operator x)
  | .literal line text => literal line text
  | .identifier line name => readVariable line name
  | .call line name arguments => do
      call line name (← evalArguments fuel arguments)
  | .empty _ => return .none

def evalAll (fuel : Nat) : List Expr → Value → Eval Value
  | [], last => return last
  | statement :: others, _ => do evalAll fuel others (← statement.eval fuel)

def evalArguments (fuel : Nat) : List Expr → Eval (List Value)
  | [] => return []
  | argument :: others => do
      let value ← argument.eval fuel
      return value :: (← evalArguments fuel others)

end

def Program.execute (fuel : Nat) (program : Program) : Eval Value := do
  Eval.trace .programBegin
  let value ← Eval.inScope (evalAll fuel program.statements .none)
  Eval.trace .programEnd
  modify (Context.record (.evaluated value))
  return value

end Scriptlet
