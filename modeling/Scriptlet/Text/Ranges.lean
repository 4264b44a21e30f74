set_option autoImplicit false

namespace Scriptlet.Text

abbrev CodeRange := Nat × Nat

def CodeRange.contains (range : CodeRange) (c : Char) : Bool :=
  range.1 ≤ c.toNat && c.toNat ≤ range.2

end Scriptlet.Text
