import Scriptlet.Fault
import Scriptlet.Number.Remainder

set_option autoImplicit false

namespace Scriptlet

def Value.asNumber : Value → Except RuntimeFault Float
  | .number x => .ok x
  | other => .error (.expectedNumber other.kind)

def Value.asBoolean : Value → Except RuntimeFault Bool
  | .boolean b => .ok b
  | other => .error (.expectedBoolean other.kind)

def numbers (left right : Value) : Except RuntimeFault (Float × Float) := do
  let x ← left.asNumber
  let y ← right.asNumber
  return (x, y)

def booleans (left right : Value) : Except RuntimeFault (Bool × Bool) := do
  let a ← left.asBoolean
  let b ← right.asBoolean
  return (a, b)

def arithmetic (operator : String) (x y : Float) : Except RuntimeFault Float :=
  match operator with
  | "+" => .ok (x + y)
  | "-" => .ok (x - y)
  | "*" => .ok (x * y)
  | "/" => .ok (x / y)
  | "%" => .ok (Number.remainder x y)
  | _ => .error (.unsupportedOperator operator)

def comparison (operator : String) (x y : Float) : Except RuntimeFault Bool :=
  match operator with
  | "<" => .ok (x < y)
  | "<=" => .ok (x ≤ y)
  | ">" => .ok (y < x)
  | ">=" => .ok (y ≤ x)
  | _ => .error (.unsupportedOperator operator)

def applyBinary (operator : String) (left right : Value) : Except RuntimeFault Value :=
  match operator with
  | "+" | "-" | "*" | "/" | "%" => do
      let (x, y) ← numbers left right
      return .number (← arithmetic operator x y)
  | "<" | "<=" | ">" | ">=" => do
      let (x, y) ← numbers left right
      return .boolean (← comparison operator x y)
  | "==" => .ok (.boolean (left.same right))
  | "!=" => .ok (.boolean (!left.same right))
  | "&&" => do
      let (a, b) ← booleans left right
      return .boolean (a && b)
  | "||" => do
      let (a, b) ← booleans left right
      return .boolean (a || b)
  | _ => .error (.unsupportedOperator operator)

def applyUnary (operator : String) (operand : Value) : Except RuntimeFault Value :=
  match operator with
  | "+" => return .number (← operand.asNumber)
  | "-" => return .number (-(← operand.asNumber))
  | "!" => return .boolean (!(← operand.asBoolean))
  | _ => .error (.unsupportedOperator operator)

end Scriptlet
