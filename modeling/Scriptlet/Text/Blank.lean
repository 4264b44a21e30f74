import Scriptlet.Text.Ranges

set_option autoImplicit false

namespace Scriptlet.Text

-- The code points from 128 on with the property White_Space.
def blankRanges : List CodeRange :=
  [ (0x85, 0x85), (0xA0, 0xA0), (0x1680, 0x1680), (0x2000, 0x200A), (0x2028, 0x2029),
    (0x202F, 0x202F), (0x205F, 0x205F), (0x3000, 0x3000) ]

def isBlank (c : Char) : Bool :=
  if c.toNat < 128 then
    c.toNat = 32 || (9 ≤ c.toNat && c.toNat ≤ 13)
  else
    blankRanges.any (·.contains c)

end Scriptlet.Text
