import Scriptlet.Fault
import Scriptlet.Number.Reading

set_option autoImplicit false

namespace Scriptlet

def dropClosingQuote (text : List Char) : List Char :=
  if text.getLast? = some '"' then text.dropLast else text

def Value.ofLiteral (text : String) : Except RuntimeFault Value :=
  if text = "none" then .ok .none
  else if text = "true" then .ok (.boolean true)
  else if text = "false" then .ok (.boolean false)
  else
    match text.toList with
    | '"' :: quoted => .ok (.string (String.ofList (dropClosingQuote quoted)))
    | _ =>
        match Number.read? text with
        | some x => .ok (.number x)
        | Option.none => .error (.invalidLiteral text)

end Scriptlet
