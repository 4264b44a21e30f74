import Mathlib.Data.List.TakeWhile
import Scriptlet.Proofs.Expr.Lines
import Scriptlet.Proofs.Token.Lossless

/-!
Texts that are joined at the end of a line.

A line break ends every lexeme in front of it, except that blanks run on across it. So the pieces of a text stay
what they are when a line break and another text follow (`scan_piece_before_break`), and blanks do no more than
move the lines of what comes behind them (`meaning_of_blanks`). What two joined texts mean is then what the first
one means, followed by what the second one means some lines further down (`meaning_joined`).
-/

set_option autoImplicit false

namespace Scriptlet

theorem run_stopped (belongs : Char → Bool) (text more : List Char)
    (stops : text.dropWhile belongs = [] → ∀ c ∈ more.head?, belongs c = false) :
    (text ++ more).takeWhile belongs = text.takeWhile belongs ∧
      (text ++ more).dropWhile belongs = text.dropWhile belongs ++ more := by
  have inside : ∀ c ∈ text.takeWhile belongs, belongs c = true :=
    fun c member => List.all_eq_true.mp List.all_takeWhile c member
  have ends : ∀ c ∈ (text.dropWhile belongs ++ more).head?, belongs c = false := by
    cases rest : text.dropWhile belongs with
    | nil => exact stops rest
    | cons first others =>
        have refused := List.head?_dropWhile_not belongs text
        rw [rest] at refused
        rintro c ⟨⟩
        simpa using refused
  have cut := take_while_apart belongs _ _ inside ends
  rwa [← List.append_assoc, List.takeWhile_append_dropWhile] at cut

def Piece.followedBy (piece : Piece) (more : List Char) : Piece := { piece with rest := piece.rest ++ more }

section Pieces

variable {text : List Char} {piece : Piece} (behind : List Char)

theorem run_before_break (kind : TokenKind) (belongs : Char → Bool) (stops : belongs '\n' = false)
    (text : List Char) :
    Piece.ofRun kind belongs (text ++ '\n' :: behind) =
      (Piece.ofRun kind belongs text).followedBy ('\n' :: behind) := by
  have cut := run_stopped belongs text ('\n' :: behind) (by rintro - c ⟨⟩; exact stops)
  rw [Piece.ofRun, Piece.ofRun, cut.1, cut.2]
  rfl

theorem scan_number_before_break (found : scanNumber text = .ok piece) :
    scanNumber (text ++ '\n' :: behind) = .ok (piece.followedBy ('\n' :: behind)) := by
  have cut := fun digits : List Char =>
    run_stopped Char.isDigit digits ('\n' :: behind) (by rintro - c ⟨⟩; decide)
  rcases scan_number_ok found with ⟨more, point, digits, rfl⟩ | ⟨noPoint, rfl⟩
  · have ahead : (text ++ '\n' :: behind).dropWhile Char.isDigit = '.' :: (more ++ '\n' :: behind) := by
      rw [(cut text).2, point, List.cons_append]
    rw [scan_number_fraction ahead (by rwa [(cut more).1]), (cut text).1, (cut more).1, (cut more).2]
    rfl
  · have ended : ∀ more, (text ++ '\n' :: behind).dropWhile Char.isDigit ≠ '.' :: more := by
      intro more point
      rw [(cut text).2] at point
      cases rest : text.dropWhile Char.isDigit with
      | nil =>
          rw [rest] at point
          cases point
      | cons c others =>
          rw [rest] at point
          cases point
          exact noPoint others rest
    rw [scan_number_whole ended, (cut text).1, (cut text).2]
    rfl

omit behind in
theorem scan_string_before (more : List Char) (found : scanString text = .ok piece) :
    scanString (text ++ more) = .ok (piece.followedBy more) := by
  obtain ⟨rest, closed, rfl⟩ := scan_string_ok found
  have cut := run_stopped (· ≠ '"') text more (by rw [closed]; rintro ⟨⟩)
  have again : (text ++ more).dropWhile (· ≠ '"') = '"' :: (rest ++ more) := by
    rw [cut.2, closed, List.cons_append]
  rw [scan_string_closed again, cut.1]
  rfl

theorem grow_before_break (candidates : Candidates) :
    candidates.grow (text ++ '\n' :: behind) = candidates.grow text := by
  induction text generalizing candidates with
  | nil => exact grow_stops candidates ('\n' :: behind) (by rintro c ⟨⟩; rfl)
  | cons c text ih =>
      rw [List.cons_append]
      by_cases goesOn : Operator.isBeginning (String.ofList (candidates.longest ++ [c])) = true
      · rw [grow_further _ goesOn, grow_further _ goesOn]
        exact ih _
      · rw [grow_stopped _ goesOn, grow_stopped _ goesOn]

theorem scan_operator_before_break (found : scanOperator text = .ok piece) :
    scanOperator (text ++ '\n' :: behind) = .ok (piece.followedBy ('\n' :: behind)) := by
  have cut := (scan_operator_append text piece found).2
  obtain ⟨operator, chosen, rfl⟩ := scan_operator_ok found
  have within : operator.length ≤ text.length := by
    rw [← cut, List.length_append]
    exact Nat.le_add_right _ _
  rw [scanOperator, grow_before_break, chosen]
  dsimp only
  rw [List.drop_append_of_le_length within]
  rfl

theorem scan_piece_before_break {c : Char} {rest : List Char} (found : scanPiece c rest = .ok piece)
    (visible : (c :: rest).dropWhile Text.isBlank ≠ []) :
    scanPiece c (rest ++ '\n' :: behind) = .ok (piece.followedBy ('\n' :: behind)) := by
  have slashes : (rest ++ '\n' :: behind).head? = some '/' ↔ rest.head? = some '/' := by
    cases rest <;> simp
  rw [scanPiece] at found ⊢
  simp only [slashes]
  by_cases blank : Text.isBlank c = true
  · rw [if_pos blank] at found ⊢
    cases found
    have cut := run_stopped Text.isBlank (c :: rest) ('\n' :: behind) (absurd · visible)
    rw [← List.cons_append, Piece.ofRun, Piece.ofRun, cut.1, cut.2]
    rfl
  rw [if_neg blank] at found ⊢
  by_cases digit : c.isDigit = true
  · rw [if_pos digit] at found ⊢
    rw [← List.cons_append]
    exact scan_number_before_break behind found
  rw [if_neg digit] at found ⊢
  by_cases quote : c = '"'
  · rw [if_pos quote] at found ⊢
    exact scan_string_before _ found
  rw [if_neg quote] at found ⊢
  by_cases letter : isWordStart c = true
  · rw [if_pos letter] at found ⊢
    cases found
    have word := run_before_break behind .identifier isWordPart (blank_not_word_part '\n' rfl) (c :: rest)
    rw [← List.cons_append, scanWord, word]
    rfl
  rw [if_neg letter] at found ⊢
  by_cases separator : isSeparator c = true
  · rw [if_pos separator] at found ⊢
    cases found
    rfl
  rw [if_neg separator] at found ⊢
  by_cases comment : (decide (c = '/') && decide (rest.head? = some '/')) = true
  · rw [if_pos comment] at found ⊢
    cases found
    rw [← List.cons_append, run_before_break behind .comment _ rfl]
  rw [if_neg comment] at found ⊢
  by_cases operator : isOperatorStart c = true
  · rw [if_pos operator] at found ⊢
    rw [← List.cons_append]
    exact scan_operator_before_break behind found
  · rw [if_neg operator] at found
    cases found

end Pieces

def isMeaningful : Except LexicalError Token → Bool
  | .ok token => token.isSignificant
  | .error _ => true

def Scanner.meaning (scanner : Scanner) : List (Except LexicalError Token) := scanner.items.filter isMeaningful

def Token.mapLine (view : Nat → Nat) (token : Token) : Token := { token with line := view token.line }

def mapItemLine (view : Nat → Nat) (item : Except LexicalError Token) : Except LexicalError Token :=
  (item.map (Token.mapLine view)).mapError (Located.mapLine view)

section Meaning

theorem next_moved (text : List Char) (line moved : Nat) :
    (⟨text, line + moved⟩ : Scanner).next? = (⟨text, line⟩ : Scanner).next?.map fun step =>
      (mapItemLine (· + moved) step.1, ⟨step.2.text, step.2.line + moved⟩) := by
  cases text with
  | nil => rfl
  | cons c rest =>
      rw [Scanner.next?, Scanner.next?]
      dsimp only
      cases scanPiece c rest with
      | error fault => rfl
      | ok piece =>
          dsimp only [Option.map_some]
          rw [Nat.add_right_comm]
          rfl

theorem items_moved (text : List Char) (line moved : Nat) :
    (⟨text, line + moved⟩ : Scanner).items = (⟨text, line⟩ : Scanner).items.map (mapItemLine (· + moved)) := by
  have next := next_moved text line moved
  match step : (⟨text, line⟩ : Scanner).next? with
  | none =>
      rw [step] at next
      rw [Scanner.items_of_none _ next, Scanner.items_of_none _ step]
      rfl
  | some (item, after) =>
      have shorter := Scanner.next_shorter _ after item step
      rw [step] at next
      rw [Scanner.items_of_some _ _ _ next, Scanner.items_of_some _ _ _ step, List.map_cons,
        items_moved after.text after.line moved]
termination_by text.length

theorem meaning_moved (text : List Char) (line moved : Nat) :
    (⟨text, line + moved⟩ : Scanner).meaning =
      (⟨text, line⟩ : Scanner).meaning.map (mapItemLine (· + moved)) := by
  have kept : isMeaningful ∘ mapItemLine (· + moved) = isMeaningful := by
    funext item
    cases item <;> rfl
  rw [Scanner.meaning, items_moved, List.filter_map, kept]
  rfl

theorem meaning_of_step {item : Except LexicalError Token} {scanner after : Scanner}
    (step : scanner.next? = some (item, after)) :
    scanner.meaning = [item].filter isMeaningful ++ after.meaning := by
  rw [Scanner.meaning, Scanner.items_of_some _ _ _ step, ← List.singleton_append, List.filter_append]
  rfl

theorem meaning_of_nothing (line : Nat) : (⟨[], line⟩ : Scanner).meaning = [] := by
  rw [Scanner.meaning, Scanner.items_of_none _ rfl]
  rfl

theorem meaning_skips (text : List Char) (line : Nat) :
    (⟨text, line⟩ : Scanner).meaning =
      (⟨text.dropWhile Text.isBlank, line + (text.takeWhile Text.isBlank).count '\n'⟩ : Scanner).meaning := by
  cases text with
  | nil => rfl
  | cons c rest =>
      by_cases blank : Text.isBlank c = true
      · have step : (⟨c :: rest, line⟩ : Scanner).next? =
            some (.ok ⟨⟨.whitespace, String.ofList ((c :: rest).takeWhile Text.isBlank)⟩, line⟩,
              ⟨(c :: rest).dropWhile Text.isBlank,
                line + ((c :: rest).takeWhile Text.isBlank).count '\n'⟩) := by
          simp [Scanner.next?, scanPiece, if_pos blank, Piece.ofRun, Piece.lineBreaks]
        rw [meaning_of_step step]
        rfl
      · rw [List.dropWhile_cons_of_neg blank, List.takeWhile_cons_of_neg blank]
        rfl

theorem meaning_of_blanks (blanks text : List Char) (line : Nat) (all : ∀ c ∈ blanks, Text.isBlank c = true) :
    (⟨blanks ++ text, line⟩ : Scanner).meaning = (⟨text, line + blanks.count '\n'⟩ : Scanner).meaning := by
  rw [meaning_skips (blanks ++ text), meaning_skips text, List.dropWhile_append_of_pos all,
    List.takeWhile_append_of_pos all, List.count_append, Nat.add_assoc]

theorem next_before_break {text : List Char} {line : Nat} {token : Token} {after : Scanner}
    (behind : List Char) (visible : text.dropWhile Text.isBlank ≠ [])
    (step : (⟨text, line⟩ : Scanner).next? = some (.ok token, after)) :
    (⟨text ++ '\n' :: behind, line⟩ : Scanner).next? =
      some (.ok token, ⟨after.text ++ '\n' :: behind, after.line⟩) := by
  cases text with
  | nil => cases step
  | cons c rest =>
      simp only [Scanner.next?, List.cons_append] at step ⊢
      cases found : scanPiece c rest with
      | error fault =>
          rw [found] at step
          cases step
      | ok piece =>
          rw [found] at step
          cases step
          rw [scan_piece_before_break behind found visible]
          rfl

-- The induction is on the first text, piece by piece. Where nothing but blanks is left of it, these and the line
-- break run on into the second text.
theorem meaning_joined (text behind : List Char) (line : Nat) (tokens : List Token)
    (scanned : (⟨text, line⟩ : Scanner).items = tokens.map .ok) :
    (⟨text ++ '\n' :: behind, line⟩ : Scanner).meaning =
      (⟨text, line⟩ : Scanner).meaning ++ (⟨behind, line + text.count '\n' + 1⟩ : Scanner).meaning := by
  by_cases blank : text.dropWhile Text.isBlank = []
  · have all : ∀ c ∈ text, Text.isBlank c = true := List.dropWhile_eq_nil_iff.mp blank
    have allToo : ∀ c ∈ text ++ ['\n'], Text.isBlank c = true :=
      List.forall_mem_append.mpr ⟨all, List.forall_mem_singleton.mpr rfl⟩
    have alone := meaning_of_blanks text [] line all
    have ahead := meaning_of_blanks (text ++ ['\n']) behind line allToo
    rw [List.append_nil] at alone
    rw [List.append_assoc, List.singleton_append, List.count_append] at ahead
    rw [alone, ahead, meaning_of_nothing, ← Nat.add_assoc]
    rfl
  · match step : (⟨text, line⟩ : Scanner).next? with
    | none =>
        cases text with
        | nil => exact absurd rfl blank
        | cons c rest =>
            rw [Scanner.next?] at step
            dsimp only at step
            cases found : scanPiece c rest <;> rw [found] at step <;> cases step
    | some (.error error, after) =>
        rw [Scanner.items_of_some _ _ _ step] at scanned
        cases tokens <;> cases scanned
    | some (.ok token, after) =>
        have shorter := Scanner.next_shorter _ after _ step
        have takes := next_takes_token step
        rw [Scanner.items_of_some _ _ _ step] at scanned
        cases tokens with
        | nil => cases scanned
        | cons first others =>
            have further := meaning_joined after.text behind after.line others (List.cons.inj scanned).2
            have counted : after.line + after.text.count '\n' = line + text.count '\n' := by
              have cut := congrArg (List.count '\n') takes.cut
              have moved := takes.counted
              dsimp only at cut moved
              rw [List.count_append] at cut
              omega
            rw [meaning_of_step (next_before_break behind blank step), meaning_of_step step, further, counted,
              List.append_assoc]
termination_by text.length

end Meaning

theorem meaning_of_tokens {source : String} {tokens : List Token} (scanned : tokenize source = .ok tokens) :
    (Scanner.ofSource source).meaning = (tokens.filter Token.isSignificant).map .ok := by
  rw [Scanner.meaning, map_ok_of_map_m _ tokens scanned, List.filter_map]
  rfl

-- Scanning stops at the first fault, whether or not trivia is left out before.
theorem significant_of_items (items : List (Except LexicalError Token)) :
    (items.mapM id).map (List.filter Token.isSignificant) = (items.filter isMeaningful).mapM id := by
  induction items with
  | nil => rfl
  | cons item items ih =>
      cases item with
      | error error => rfl
      | ok token =>
          by_cases significant : token.isSignificant = true
          · have means : isMeaningful (.ok token) = true := significant
            rw [List.filter_cons_of_pos means, List.mapM_cons, List.mapM_cons, ← ih]
            cases items.mapM id with
            | error error => rfl
            | ok tokens => exact congrArg Except.ok (List.filter_cons_of_pos significant)
          · have means : ¬isMeaningful (.ok token) = true := significant
            rw [List.filter_cons_of_neg means, List.mapM_cons, ← ih]
            cases items.mapM id with
            | error error => rfl
            | ok tokens => exact congrArg Except.ok (List.filter_cons_of_neg significant)

theorem map_m_moved (view : Nat → Nat) (items : List (Except LexicalError Token)) :
    (items.map (mapItemLine view)).mapM id =
      ((items.mapM id).map (List.map (Token.mapLine view))).mapError (Located.mapLine view) := by
  induction items with
  | nil => rfl
  | cons item items ih =>
      rw [List.map_cons, List.mapM_cons, List.mapM_cons, ih]
      cases item with
      | error error => rfl
      | ok token => cases items.mapM id <;> rfl

def linesAbove (source : String) : Nat := 1 + source.toList.count '\n'

section Joined

variable {source : String} {tokens : List Token} (scanned : tokenize source = .ok tokens) (other : String)
include scanned

theorem meaning_of_joined :
    (Scanner.ofSource (source ++ "\n" ++ other)).meaning =
      (tokens.filter Token.isSignificant).map .ok ++
        (Scanner.ofSource other).meaning.map (mapItemLine (· + linesAbove source)) := by
  have joined := meaning_joined source.toList other.toList 1 tokens (map_ok_of_map_m _ tokens scanned)
  have whole : (source ++ "\n" ++ other).toList = source.toList ++ '\n' :: other.toList := by simp
  have lines : 1 + source.toList.count '\n' + 1 = 1 + linesAbove source := by
    rw [linesAbove]
    omega
  rw [Scanner.ofSource, whole, joined, lines, meaning_moved, ← meaning_of_tokens scanned]
  rfl

theorem tokens_of_joined :
    (tokenize (source ++ "\n" ++ other)).map (List.filter Token.isSignificant) =
      (((tokenize other).map (List.filter Token.isSignificant)).map fun further =>
        tokens.filter Token.isSignificant ++ further.map (Token.mapLine (· + linesAbove source))).mapError
          (Located.mapLine (· + linesAbove source)) := by
  have moved := map_m_moved (· + linesAbove source) (Scanner.ofSource other).meaning
  have significant := significant_of_items (Scanner.ofSource other).items
  rw [tokenize, significant_of_items, ← Scanner.meaning, meaning_of_joined scanned other, List.mapM_append,
    map_m_of_map_ok, moved, Scanner.meaning, ← significant, tokenize]
  cases (Scanner.ofSource other).items.mapM id <;> rfl

end Joined

/-- A text behind another one and a line break means what it means by itself, on lines that are moved by those
above it: its significant tokens follow those of the other text, and so does its fault. -/
theorem lines_compose (source other : String) (tokens : List Token) (scanned : tokenize source = .ok tokens) :
    (∀ further, tokenize other = .ok further → ∃ joined, tokenize (source ++ "\n" ++ other) = .ok joined ∧
      joined.filter Token.isSignificant = tokens.filter Token.isSignificant ++
        (further.filter Token.isSignificant).map (Token.mapLine (· + linesAbove source))) ∧
    (∀ error, tokenize other = .error error →
      tokenize (source ++ "\n" ++ other) = .error (error.mapLine (· + linesAbove source))) ∧
    (Scanner.ofSource (source ++ "\n" ++ other)).meaning =
      (tokens.filter Token.isSignificant).map .ok ++
        (Scanner.ofSource other).meaning.map (mapItemLine (· + linesAbove source)) := by
  have joined := tokens_of_joined scanned other
  refine ⟨fun further scannedToo => ?_, fun error failed => ?_, meaning_of_joined scanned other⟩
  · rw [scannedToo] at joined
    cases answer : tokenize (source ++ "\n" ++ other) with
    | error error =>
        rw [answer] at joined
        cases joined
    | ok all =>
        rw [answer] at joined
        exact ⟨all, rfl, Except.ok.inj joined⟩
  · rw [failed] at joined
    cases answer : tokenize (source ++ "\n" ++ other) with
    | error error =>
        rw [answer] at joined
        exact joined
    | ok all =>
        rw [answer] at joined
        cases joined

theorem comment_line_composes :
    tokenize "a //\n " = .ok [⟨⟨.identifier, "a"⟩, 1⟩, ⟨⟨.whitespace, " "⟩, 1⟩, ⟨⟨.comment, "//"⟩, 1⟩,
      ⟨⟨.whitespace, "\n "⟩, 1⟩] ∧
    (∃ joined, tokenize ("a //\n " ++ "\n" ++ "\n/ b") = .ok joined ∧ joined.filter Token.isSignificant =
      [⟨⟨.identifier, "a"⟩, 1⟩, ⟨⟨.operator, "/"⟩, 4⟩, ⟨⟨.identifier, "b"⟩, 4⟩]) ∧
    tokenize ("a //\n " ++ "\n" ++ "\n&") = .error ⟨4, .unknownOperator "&"⟩ := by
  have scanned : tokenize "a //\n " = .ok [⟨⟨.identifier, "a"⟩, 1⟩, ⟨⟨.whitespace, " "⟩, 1⟩,
      ⟨⟨.comment, "//"⟩, 1⟩, ⟨⟨.whitespace, "\n "⟩, 1⟩] := by decide +kernel
  have further : tokenize "\n/ b" = .ok [⟨⟨.whitespace, "\n"⟩, 1⟩, ⟨⟨.operator, "/"⟩, 2⟩,
      ⟨⟨.whitespace, " "⟩, 2⟩, ⟨⟨.identifier, "b"⟩, 2⟩] := by decide +kernel
  have failed : tokenize "\n&" = .error ⟨2, .unknownOperator "&"⟩ := by decide +kernel
  have above : linesAbove "a //\n " = 2 := by decide +kernel
  obtain ⟨joins, -⟩ := lines_compose "a //\n " "\n/ b" _ scanned
  obtain ⟨joined, answer, same⟩ := joins _ further
  have stops := (lines_compose "a //\n " "\n&" _ scanned).2.1 _ failed
  rw [above] at same stops
  exact ⟨scanned, ⟨joined, answer, same⟩, stops⟩

end Scriptlet
