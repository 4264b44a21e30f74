import Scriptlet.Number.Text

set_option autoImplicit false

namespace Scriptlet

inductive Value where
  | none
  | number (x : Float)
  | boolean (b : Bool)
  | string (s : String)
deriving Inhabited

inductive ValueKind where
  | none
  | number
  | boolean
  | string
deriving DecidableEq, Repr

def ValueKind.name : ValueKind → String
  | .none => "none"
  | .number => "number"
  | .boolean => "boolean"
  | .string => "string"

def Value.kind : Value → ValueKind
  | .none => .none
  | .number _ => .number
  | .boolean _ => .boolean
  | .string _ => .string

def Value.text : Value → String
  | .none => "none"
  | .number x => Number.text x
  | .boolean b => if b then "true" else "false"
  | .string s => s

-- Equality of the language: only values of one kind are equal, and numbers compare as numbers, so
-- that what is not a number differs from itself and the two zeros are equal.
def Value.same : Value → Value → Bool
  | .none, .none => true
  | .number x, .number y => x == y
  | .boolean a, .boolean b => a == b
  | .string s, .string t => s == t
  | _, _ => false

def Value.isNone : Value → Bool
  | .none => true
  | _ => false

end Scriptlet
