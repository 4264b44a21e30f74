import Scriptlet.Text.Indentation
import Scriptlet.Value

set_option autoImplicit false

namespace Scriptlet

inductive Event where
  | programBegin
  | programEnd
  | blockBegin
  | blockEnd
  | branchBegin
  | branchEnd
  | loopBegin
  | loopEnd
  | declaration (name : String) (value : Value)
  | literal (text : String)
  | identifier (name : String) (value : Value)
  | binary (operator : String)
  | unary (operator : String)
  | call (name : String) (count : Nat)

def Event.message : Event → String
  | .programBegin => "PROGRAM BEGIN"
  | .programEnd => "PROGRAM END"
  | .blockBegin => "BLOCK BEGIN"
  | .blockEnd => "BLOCK END"
  | .branchBegin => "IF BEGIN"
  | .branchEnd => "IF END"
  | .loopBegin => "WHILE BEGIN"
  | .loopEnd => "WHILE END"
  | .declaration name value => "VAR: " ++ name ++ " = " ++ value.text
  | .literal text => "LITERAL: " ++ text
  | .identifier name value => "ID: " ++ name ++ " = " ++ value.text
  | .binary operator => "BINARY: " ++ operator
  | .unary operator => "UNARY: " ++ operator
  | .call name count => "INVOCATION: " ++ name ++ ", " ++ Nat.repr count

inductive Record where
  | lexed (tokens : Nat)
  | parsed (statements : Nat)
  | checked
  | released (names : List String)
  | evaluated (value : Value)
  | step (depth : Nat) (event : Event)

def Record.message : Record → String
  | .lexed tokens => "lexed " ++ Nat.repr tokens ++ " tokens"
  | .parsed statements => "parsed " ++ Nat.repr statements ++ " top-level statements"
  | .checked => "semantic analysis passed"
  | .released names => "releasing [" ++ ", ".intercalate names ++ "]"
  | .evaluated value => "program evaluated to " ++ value.text
  | .step depth event => Text.indentation depth ++ event.message

-- The records of a run, the newest first.
abbrev Log := List Record

end Scriptlet
