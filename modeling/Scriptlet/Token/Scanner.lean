import Scriptlet.Token.Piece

set_option autoImplicit false

namespace Scriptlet

-- The line breaks within a piece. They are counted in blanks and in string literals only.
def Piece.lineBreaks (piece : Piece) : Nat :=
  if piece.kind = .whitespace ∨ piece.lexeme.head? = some '"' then piece.lexeme.count '\n' else 0

structure Scanner where
  text : List Char
  line : Nat
deriving DecidableEq, Repr

namespace Scanner

def ofSource (source : String) : Scanner := ⟨source.toList, 1⟩

def next? (scanner : Scanner) : Option (Except LexicalError Token × Scanner) :=
  match scanner.text with
  | [] => none
  | c :: rest =>
      match scanPiece c rest with
      | .ok piece =>
          some (.ok ⟨⟨piece.kind, String.ofList piece.lexeme⟩, scanner.line⟩,
            ⟨piece.rest, scanner.line + piece.lineBreaks⟩)
      | .error fault => some (.error ⟨scanner.line, fault⟩, ⟨[], scanner.line⟩)

theorem next_shorter (scanner after : Scanner) (item : Except LexicalError Token)
    (step : scanner.next? = some (item, after)) : after.text.length < scanner.text.length := by
  obtain ⟨text, line⟩ := scanner
  cases text with
  | nil => cases step
  | cons c rest =>
      rw [next?] at step
      dsimp only at step
      cases found : scanPiece c rest with
      | ok piece =>
          rw [found] at step
          cases step
          exact scan_piece_shorter c rest piece found
      | error fault =>
          rw [found] at step
          cases step
          exact Nat.zero_lt_succ _

def items (scanner : Scanner) : List (Except LexicalError Token) :=
  match _step : scanner.next? with
  | none => []
  | some (item, after) => item :: items after
termination_by scanner.text.length
decreasing_by exact next_shorter _ _ _ _step

theorem items_of_none (scanner : Scanner) (ended : scanner.next? = none) : scanner.items = [] := by
  rw [items]
  split <;> simp_all

theorem items_of_some (scanner after : Scanner) (item : Except LexicalError Token)
    (step : scanner.next? = some (item, after)) : scanner.items = item :: after.items := by
  rw [items]
  split <;> simp_all

end Scanner

def tokenize (source : String) : Except LexicalError (List Token) :=
  (Scanner.ofSource source).items.mapM id

end Scriptlet
