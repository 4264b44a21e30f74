import Scriptlet.Value.Operation

set_option autoImplicit false

namespace Scriptlet

inductive Builtin where
  | sin
  | floor
  | print
deriving DecidableEq, Repr

inductive Parameters where
  | fixed (kinds : List ValueKind)
  | variadic
deriving DecidableEq, Repr

namespace Builtin

def name : Builtin → String
  | sin => "sin"
  | floor => "floor"
  | print => "print"

def all : List Builtin := [sin, floor, print]

def find? (name : String) : Option Builtin := all.find? fun builtin => builtin.name = name

def parameters : Builtin → Parameters
  | sin | floor => .fixed [.number]
  | print => .variadic

def returns : Builtin → ValueKind
  | sin | floor => .number
  | print => .none

-- A function of one number; it yields none for any other count of arguments.
def onNumber (function : Float → Float) : List Value → EStateM RuntimeFault Sink Value
  | [argument] =>
      match argument.asNumber with
      | .ok x => pure (.number (function x))
      | .error fault => throw fault
  | _ => pure .none

def printed (arguments : List Value) : String :=
  " ".intercalate (arguments.map Value.text) ++ "\n"

def apply (builtin : Builtin) (arguments : List Value) : EStateM RuntimeFault Sink Value :=
  match builtin with
  | sin => onNumber Float.sin arguments
  | floor => onNumber Float.floor arguments
  | print => fun sink =>
      match Sink.write (printed arguments) sink with
      | .ok _ sink => .ok .none sink
      | .error fault sink => .error (.output fault) sink

def checkKinds (builtin : Builtin) : Nat → List ValueKind → List Value → Except RuntimeFault Unit
  | position, kind :: kinds, argument :: arguments =>
      if argument.kind = kind then checkKinds builtin (position + 1) kinds arguments
      else .error (.argumentKindMismatch builtin.name position kind argument.kind)
  | _, _, _ => .ok ()

def checkArguments (builtin : Builtin) (arguments : List Value) : Except RuntimeFault Unit :=
  match builtin.parameters with
  | .variadic => .ok ()
  | .fixed kinds =>
      if arguments.length = kinds.length then checkKinds builtin 1 kinds arguments
      else .error (.argumentCountMismatch builtin.name kinds.length arguments.length)

def invoke (builtin : Builtin) (arguments : List Value) : EStateM RuntimeFault Sink Value :=
  match checkArguments builtin arguments with
  | .error fault => throw fault
  | .ok _ => do
      let result ← builtin.apply arguments
      if result.kind = builtin.returns then return result
      else throw (.resultKindMismatch builtin.name builtin.returns result.kind)

end Builtin

end Scriptlet
