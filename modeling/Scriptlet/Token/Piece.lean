import Scriptlet.Fault
import Scriptlet.Operator
import Scriptlet.Text.Alphabetic
import Scriptlet.Text.Blank
import Scriptlet.Text.Numeric

set_option autoImplicit false

namespace Scriptlet

def keywords : List String := ["let", "if", "else", "while"]

def wordLiterals : List String := ["true", "false", "none"]

def wordKind (word : String) : TokenKind :=
  if word ∈ wordLiterals then .literal
  else if word ∈ keywords then .keyword
  else .identifier

def isWordStart (c : Char) : Bool := c = '_' || Text.isAlphabetic c

def isWordPart (c : Char) : Bool := c = '_' || Text.isAlphabetic c || Text.isNumeric c

def isSeparator (c : Char) : Bool := c ∈ ['(', ')', '\x7b', '\x7d', ',', ';']

def isOperatorStart (c : Char) : Bool :=
  c ∈ ['-', '+', '!', '*', '/', '%', '<', '>', '=', '&', '|']

def isLineEnd (c : Char) : Bool := c = '\n' || c = '\r'

structure Piece where
  kind : TokenKind
  lexeme : List Char
  rest : List Char
deriving DecidableEq, Repr

def Piece.ofRun (kind : TokenKind) (belongs : Char → Bool) (text : List Char) : Piece :=
  ⟨kind, text.takeWhile belongs, text.dropWhile belongs⟩

def scanWord (text : List Char) : Piece :=
  let piece := Piece.ofRun .identifier isWordPart text
  { piece with kind := wordKind (String.ofList piece.lexeme) }

def scanNumber (text : List Char) : Except LexicalFault Piece :=
  let whole := text.takeWhile Char.isDigit
  match text.dropWhile Char.isDigit with
  | '.' :: more =>
      let fraction := more.takeWhile Char.isDigit
      if fraction.isEmpty then .error (.fractionalPartExpected (String.ofList (whole ++ ['.'])))
      else .ok ⟨.literal, whole ++ '.' :: fraction, more.dropWhile Char.isDigit⟩
  | rest => .ok ⟨.literal, whole, rest⟩

def scanString (text : List Char) : Except LexicalFault Piece :=
  match text.dropWhile (· ≠ '"') with
  | [] => .error .unterminatedString
  | quote :: rest => .ok ⟨.literal, '"' :: text.takeWhile (· ≠ '"') ++ [quote], rest⟩

-- Candidates for an operator: the longest beginning of the text with which some operator begins,
-- and the longest beginning that is an operator.
structure Candidates where
  longest : List Char
  operator : Option (List Char)
deriving DecidableEq, Repr

def Candidates.grow (candidates : Candidates) : List Char → Candidates
  | [] => candidates
  | c :: rest =>
      let longer := candidates.longest ++ [c]
      if Operator.isBeginning (String.ofList longer) then
        let operator :=
          if Operator.isLexeme (String.ofList longer) then some longer else candidates.operator
        grow ⟨longer, operator⟩ rest
      else candidates

def scanOperator (text : List Char) : Except LexicalFault Piece :=
  let candidates := Candidates.grow ⟨[], none⟩ text
  match candidates.operator with
  | some operator => .ok ⟨.operator, operator, text.drop operator.length⟩
  | none => .error (.unknownOperator (String.ofList candidates.longest))

def scanPiece (c : Char) (rest : List Char) : Except LexicalFault Piece :=
  if Text.isBlank c then .ok (Piece.ofRun .whitespace Text.isBlank (c :: rest))
  else if c.isDigit then scanNumber (c :: rest)
  else if c = '"' then scanString rest
  else if isWordStart c then .ok (scanWord (c :: rest))
  else if isSeparator c then .ok ⟨.separator, [c], rest⟩
  else if c = '/' && rest.head? = some '/' then
    .ok (Piece.ofRun .comment (fun c => !isLineEnd c) (c :: rest))
  else if isOperatorStart c then scanOperator (c :: rest)
  else .error (.invalidCharacter c)

theorem run_append (kind : TokenKind) (belongs : Char → Bool) (text : List Char) :
    (Piece.ofRun kind belongs text).lexeme ++ (Piece.ofRun kind belongs text).rest = text :=
  List.takeWhile_append_dropWhile

theorem run_nonempty (kind : TokenKind) (belongs : Char → Bool) (c : Char) (rest : List Char)
    (member : belongs c = true) : (Piece.ofRun kind belongs (c :: rest)).lexeme ≠ [] := by
  simp [Piece.ofRun, member]

theorem scan_word_append (text : List Char) :
    (scanWord text).lexeme ++ (scanWord text).rest = text :=
  run_append .identifier isWordPart text

theorem scan_word_nonempty (c : Char) (rest : List Char) (start : isWordStart c = true) :
    (scanWord (c :: rest)).lexeme ≠ [] := by
  apply run_nonempty .identifier
  simp only [isWordStart, isWordPart] at *
  simp [start]

section Number

variable {text more : List Char} {piece : Piece}

theorem scan_number_fraction (point : text.dropWhile Char.isDigit = '.' :: more)
    (digits : more.takeWhile Char.isDigit ≠ []) :
    scanNumber text = .ok ⟨.literal, text.takeWhile Char.isDigit ++ '.' :: more.takeWhile Char.isDigit,
      more.dropWhile Char.isDigit⟩ := by
  unfold scanNumber
  rw [point]
  exact if_neg (by simpa using digits)

theorem scan_number_open (point : text.dropWhile Char.isDigit = '.' :: more)
    (missing : more.takeWhile Char.isDigit = []) :
    scanNumber text =
      .error (.fractionalPartExpected (String.ofList (text.takeWhile Char.isDigit ++ ['.']))) := by
  unfold scanNumber
  rw [point]
  exact if_pos (by simpa using missing)

theorem scan_number_whole (noPoint : ∀ more, text.dropWhile Char.isDigit ≠ '.' :: more) :
    scanNumber text = .ok ⟨.literal, text.takeWhile Char.isDigit, text.dropWhile Char.isDigit⟩ := by
  unfold scanNumber
  cases rest : text.dropWhile Char.isDigit with
  | nil => rfl
  | cons c others =>
      have other : c ≠ '.' := by
        rintro rfl
        exact noPoint others rest
      simp [other]

theorem scan_number_ok (found : scanNumber text = .ok piece) :
    (∃ more, text.dropWhile Char.isDigit = '.' :: more ∧ more.takeWhile Char.isDigit ≠ [] ∧
      piece = ⟨.literal, text.takeWhile Char.isDigit ++ '.' :: more.takeWhile Char.isDigit,
        more.dropWhile Char.isDigit⟩) ∨
    (∀ more, text.dropWhile Char.isDigit ≠ '.' :: more) ∧
      piece = ⟨.literal, text.takeWhile Char.isDigit, text.dropWhile Char.isDigit⟩ := by
  by_cases point : ∃ more, text.dropWhile Char.isDigit = '.' :: more
  · obtain ⟨more, point⟩ := point
    by_cases missing : more.takeWhile Char.isDigit = []
    · rw [scan_number_open point missing] at found
      cases found
    · rw [scan_number_fraction point missing] at found
      cases found
      exact .inl ⟨more, point, missing, rfl⟩
  · have noPoint : ∀ more, text.dropWhile Char.isDigit ≠ '.' :: more := fun more same => point ⟨more, same⟩
    rw [scan_number_whole noPoint] at found
    cases found
    exact .inr ⟨noPoint, rfl⟩

theorem scan_number_append (found : scanNumber text = .ok piece) : piece.lexeme ++ piece.rest = text := by
  have cut := List.takeWhile_append_dropWhile (p := Char.isDigit) (l := text)
  rcases scan_number_ok found with ⟨more, point, -, rfl⟩ | ⟨-, rfl⟩
  · rw [point] at cut
    simpa [List.append_assoc, List.takeWhile_append_dropWhile] using cut
  · exact cut

theorem scan_number_nonempty {c : Char} {rest : List Char} (digit : c.isDigit = true)
    (found : scanNumber (c :: rest) = .ok piece) : piece.lexeme ≠ [] := by
  rcases scan_number_ok found with ⟨more, -, -, rfl⟩ | ⟨-, rfl⟩
  · simp
  · simp [digit]

end Number

section Quoted

variable {text rest : List Char} {piece : Piece}

theorem scan_string_closed (closed : text.dropWhile (· ≠ '"') = '"' :: rest) :
    scanString text = .ok ⟨.literal, '"' :: text.takeWhile (· ≠ '"') ++ ['"'], rest⟩ := by
  unfold scanString
  rw [closed]

theorem scan_string_open (ended : text.dropWhile (· ≠ '"') = []) :
    scanString text = .error .unterminatedString := by
  unfold scanString
  rw [ended]

theorem scan_string_quote (text : List Char) :
    text.dropWhile (· ≠ '"') = [] ∨ ∃ rest, text.dropWhile (· ≠ '"') = '"' :: rest := by
  have stops := List.head?_dropWhile_not (fun c : Char => decide (c ≠ '"')) text
  cases after : text.dropWhile (· ≠ '"') with
  | nil => exact .inl rfl
  | cons quote rest =>
      rw [after] at stops
      obtain rfl : quote = '"' := by simpa using stops
      exact .inr ⟨rest, rfl⟩

theorem scan_string_ok (found : scanString text = .ok piece) :
    ∃ rest, text.dropWhile (· ≠ '"') = '"' :: rest ∧
      piece = ⟨.literal, '"' :: text.takeWhile (· ≠ '"') ++ ['"'], rest⟩ := by
  rcases scan_string_quote text with ended | ⟨rest, closed⟩
  · rw [scan_string_open ended] at found
    cases found
  · rw [scan_string_closed closed] at found
    cases found
    exact ⟨rest, closed, rfl⟩

theorem scan_string_append (found : scanString text = .ok piece) :
    piece.lexeme ++ piece.rest = '"' :: text := by
  have cut := List.takeWhile_append_dropWhile (p := (· ≠ '"')) (l := text)
  obtain ⟨rest, closed, rfl⟩ := scan_string_ok found
  rw [closed] at cut
  simpa using cut

theorem scan_string_nonempty (found : scanString text = .ok piece) : piece.lexeme ≠ [] := by
  obtain ⟨rest, -, rfl⟩ := scan_string_ok found
  simp

end Quoted

section Operators

theorem grow_further {candidates : Candidates} {c : Char} (rest : List Char)
    (goesOn : Operator.isBeginning (String.ofList (candidates.longest ++ [c])) = true) :
    candidates.grow (c :: rest) = Candidates.grow ⟨candidates.longest ++ [c],
      if Operator.isLexeme (String.ofList (candidates.longest ++ [c])) then some (candidates.longest ++ [c])
      else candidates.operator⟩ rest := by
  rw [Candidates.grow]
  exact if_pos goesOn

theorem grow_stopped {candidates : Candidates} {c : Char} (rest : List Char)
    (stops : ¬ Operator.isBeginning (String.ofList (candidates.longest ++ [c])) = true) :
    candidates.grow (c :: rest) = candidates := by
  rw [Candidates.grow]
  exact if_neg stops

theorem grow_operator (candidates : Candidates) (rest operator : List Char)
    (start : ∀ known, candidates.operator = some known →
      known ≠ [] ∧ known <+: candidates.longest ++ rest)
    (found : (candidates.grow rest).operator = some operator) :
    operator ≠ [] ∧ operator <+: candidates.longest ++ rest := by
  induction rest generalizing candidates with
  | nil => exact start operator found
  | cons c rest ih =>
      by_cases goesOn : Operator.isBeginning (String.ofList (candidates.longest ++ [c])) = true
      · rw [grow_further rest goesOn] at found
        have grown := ih _ ?_ found
        · simpa using grown
        · intro known present
          by_cases longer : Operator.isLexeme (String.ofList (candidates.longest ++ [c])) = true
          · rw [if_pos longer] at present
            cases present
            exact ⟨by simp, List.prefix_append _ _⟩
          · rw [if_neg longer] at present
            simpa using start known present
      · rw [grow_stopped rest goesOn] at found
        exact start operator found

theorem scan_operator_ok {text : List Char} {piece : Piece} (found : scanOperator text = .ok piece) :
    ∃ operator, (Candidates.grow ⟨[], none⟩ text).operator = some operator ∧
      piece = ⟨.operator, operator, text.drop operator.length⟩ := by
  unfold scanOperator at found
  dsimp only at found
  cases chosen : (Candidates.grow ⟨[], none⟩ text).operator with
  | some operator =>
      rw [chosen] at found
      cases found
      exact ⟨operator, rfl, rfl⟩
  | none =>
      rw [chosen] at found
      cases found

theorem scan_operator_append (text : List Char) (piece : Piece)
    (found : scanOperator text = .ok piece) :
    piece.lexeme ≠ [] ∧ piece.lexeme ++ piece.rest = text := by
  obtain ⟨operator, chosen, rfl⟩ := scan_operator_ok found
  obtain ⟨nonempty, suffix, cut⟩ := grow_operator ⟨[], none⟩ text operator (by simp) chosen
  refine ⟨nonempty, ?_⟩
  simp only [List.nil_append] at cut
  subst cut
  simp

end Operators

theorem scan_piece_append (c : Char) (rest : List Char) (piece : Piece)
    (found : scanPiece c rest = .ok piece) :
    piece.lexeme ≠ [] ∧ piece.lexeme ++ piece.rest = c :: rest := by
  unfold scanPiece at found
  by_cases blank : Text.isBlank c = true
  · rw [if_pos blank] at found
    cases found
    exact ⟨run_nonempty _ _ _ _ blank, run_append _ _ _⟩
  rw [if_neg blank] at found
  by_cases digit : c.isDigit = true
  · rw [if_pos digit] at found
    exact ⟨scan_number_nonempty digit found, scan_number_append found⟩
  rw [if_neg digit] at found
  by_cases quote : c = '"'
  · rw [if_pos quote] at found
    subst quote
    exact ⟨scan_string_nonempty found, scan_string_append found⟩
  rw [if_neg quote] at found
  by_cases letter : isWordStart c = true
  · rw [if_pos letter] at found
    cases found
    exact ⟨scan_word_nonempty c rest letter, scan_word_append _⟩
  rw [if_neg letter] at found
  by_cases separates : isSeparator c = true
  · rw [if_pos separates] at found
    cases found
    simp
  rw [if_neg separates] at found
  by_cases slashes : (decide (c = '/') && decide (rest.head? = some '/')) = true
  · rw [if_pos slashes] at found
    cases found
    refine ⟨run_nonempty _ _ _ _ ?_, run_append _ _ _⟩
    simp only [Bool.and_eq_true, decide_eq_true_eq] at slashes
    simp [slashes.1, isLineEnd]
  rw [if_neg slashes] at found
  by_cases start : isOperatorStart c = true
  · rw [if_pos start] at found
    exact scan_operator_append _ _ found
  · rw [if_neg start] at found
    cases found

theorem scan_piece_shorter (c : Char) (rest : List Char) (piece : Piece)
    (found : scanPiece c rest = .ok piece) : piece.rest.length < (c :: rest).length := by
  obtain ⟨nonempty, cut⟩ := scan_piece_append c rest piece found
  have positive := List.length_pos_iff.mpr nonempty
  rw [← cut, List.length_append]
  omega

end Scriptlet
