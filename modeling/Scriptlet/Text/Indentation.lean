set_option autoImplicit false

namespace Scriptlet.Text

def indentation (depth : Nat) : String := String.ofList (List.replicate (2 * depth) ' ')

end Scriptlet.Text
