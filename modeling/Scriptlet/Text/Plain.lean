/-!
Texts without terminal control.

A terminal does not show escape sequences and control characters but obeys them. What is written
for a reader that is no terminal leaves them out.
-/

set_option autoImplicit false

namespace Scriptlet.Text

inductive Mode where
  | text
  | escape
  | escapeIntermediate
  | controlSequence
  | systemCommand
  | deviceEntry
  | deviceParameter
  | deviceIntermediate
  | controlString
deriving DecidableEq, Repr

def isLayout (c : Char) : Bool := c ∈ ['\t', '\n', '\x0c', '\r']

def isVisible (c : Char) : Bool :=
  128 ≤ c.toNat || (0x20 ≤ c.toNat && c.toNat ≤ 0x7E) || isLayout c

-- Whether the encoding of a character holds the byte that ends a control string.
def endsControlString (c : Char) : Bool := (String.utf8EncodeChar c).contains 0x9C

-- The mode behind a character. An escape always begins a new sequence, and a cancel or a
-- substitute ends any.
def Mode.next (mode : Mode) (c : Char) : Mode :=
  let among := fun (first last : Nat) => first ≤ c.toNat && c.toNat ≤ last
  if c = '\x1b' then .escape
  else if c = '\x18' || c = '\x1a' then .text
  else
    match mode with
    | .text => .text
    | .escape =>
        if among 0x20 0x2F then .escapeIntermediate
        else if c = '[' then .controlSequence
        else if c = ']' then .systemCommand
        else if c = 'P' then .deviceEntry
        else if c = 'X' || c = '^' || c = '_' then .controlString
        else if among 0x30 0x7E then .text
        else .escape
    | .escapeIntermediate => if among 0x30 0x7E then .text else .escapeIntermediate
    | .controlSequence => if among 0x40 0x7E then .text else .controlSequence
    | .systemCommand => if c = '\x07' then .text else .systemCommand
    | .deviceEntry =>
        if among 0x20 0x2F then .deviceIntermediate
        else if among 0x30 0x3F then .deviceParameter
        else if among 0x40 0x7E then .controlString
        else .deviceEntry
    | .deviceParameter =>
        if among 0x20 0x2F then .deviceIntermediate
        else if among 0x3C 0x7E then .controlString
        else .deviceParameter
    | .deviceIntermediate => if among 0x30 0x7E then .controlString else .deviceIntermediate
    | .controlString => if endsControlString c then .text else .controlString

def Mode.shows (mode : Mode) (c : Char) : Bool :=
  match mode with
  | .text => isVisible c
  | .escape | .escapeIntermediate | .controlSequence => isLayout c
  | _ => false

-- What has been shown so far, the last character first. Layout inside a sequence is shown and
-- suspends it: so is what follows, up to the next control character, which resumes the sequence.
structure Display where
  mode : Mode := .text
  isShowing : Bool := false
  shown : List Char := []
deriving DecidableEq, Repr

def Display.read (display : Display) (c : Char) : Display :=
  if display.isShowing && isVisible c then
    ⟨if c.toNat < 128 then display.mode else .text, true, c :: display.shown⟩
  else if display.mode.shows c then
    ⟨display.mode.next c, true, c :: display.shown⟩
  else
    ⟨display.mode.next c, false, display.shown⟩

def plain (text : String) : String :=
  String.ofList (text.toList.foldl Display.read {}).shown.reverse

end Scriptlet.Text
