import Scriptlet.Proofs.Expr.Spelling
import Scriptlet.Proofs.Token.LongestMatch
import Scriptlet.Value.Literal

set_option autoImplicit false

namespace Scriptlet

inductive LiteralForm (text : String) : Prop where
  | word (known : text ∈ wordLiterals)
  | quoted (fits : Pattern.text.Matches text.toList)
  | number (fits : Pattern.number.Matches text.toList)

theorem form_of_item {chars : List Char} {item : Except LexicalFault Lexeme} {text : String}
    (next : NextItem chars item) (isLiteral : item = .ok ⟨.literal, text⟩) : LiteralForm text := by
  cases next with
  | matched pattern matched fits longest =>
      cases pattern with
      | number =>
          cases isLiteral
          exact .number (by rwa [String.toList_ofList])
      | text =>
          cases isLiteral
          exact .quoted (by rwa [String.toList_ofList])
      | word =>
          simp only [Pattern.item, Except.ok.injEq, Lexeme.mk.injEq] at isLiteral
          obtain ⟨kind, rfl⟩ := isLiteral
          by_cases known : String.ofList matched ∈ wordLiterals
          · exact .word known
          · by_cases reserved : String.ofList matched ∈ keywords
            · rw [wordKind, if_neg known, if_pos reserved] at kind
              cases kind
            · rw [wordKind, if_neg known, if_neg reserved] at kind
              cases kind
      | blanks | openNumber | openText | separator | comment => cases isLiteral
  | operator matched starts longest => cases isLiteral
  | unknownOperator candidate starts none longest => cases isLiteral
  | invalidCharacter c first starts none => cases isLiteral

theorem literal_form (text : String) (scanned : IsLiteral text) : LiteralForm text := by
  obtain ⟨c, rest, piece, found, same⟩ := piece_of_scanned _ scanned
  have next := scan_piece_next c rest
  rw [found] at next
  exact form_of_item next (congrArg Except.ok same)

namespace Number

theorem read_digits (negative : Bool) (digits : List Char) (isWhole : Digits digits) :
    ∃ x, readDecimal? negative digits = some x := by
  have cut := take_while_apart Char.isDigit digits [] isWhole.2 (by simp)
  rw [List.append_nil] at cut
  simp [readDecimal?, cut.1, cut.2, isWhole.1, readExponent?]

theorem read_fraction (negative : Bool) (whole fraction : List Char) (isWhole : Digits whole)
    (isFraction : Digits fraction) : ∃ x, readDecimal? negative (whole ++ '.' :: fraction) = some x := by
  have cut := take_while_apart Char.isDigit whole ('.' :: fraction) isWhole.2 (by rintro _ ⟨⟩; decide)
  have last := take_while_apart Char.isDigit fraction [] isFraction.2 (by simp)
  rw [List.append_nil] at last
  simp [readDecimal?, cut.1, cut.2, last.1, last.2, isWhole.1, readExponent?]

theorem no_sign (c : Char) (rest : List Char) (digit : c.isDigit = true) :
    readSign (c :: rest) = (false, c :: rest) := by
  have minus : c ≠ '-' := by
    intro same
    subst same
    cases digit
  have plus : c ≠ '+' := by
    intro same
    subst same
    cases digit
  simp [readSign, minus, plus]

theorem read_number (text : String) (fits : Pattern.number.Matches text.toList) :
    ∃ x, read? text = some x := by
  have unsigned : readSign text.toList = (false, text.toList) := by
    obtain ⟨c, tail, cut, starts⟩ := matches_start fits
    rw [cut]
    exact no_sign c tail starts
  have decimal : ∃ x, readDecimal? false text.toList = some x := by
    rcases fits with digits | ⟨whole, fraction, isWhole, isFraction, cut⟩
    · exact read_digits false text.toList digits
    · rw [cut]
      exact read_fraction false whole fraction isWhole isFraction
  obtain ⟨x, read⟩ := decimal
  exact ⟨x, by simp [read?, unsigned, read]⟩

end Number

theorem literal_value (text : String) (scanned : IsLiteral text) :
    ∃ value, Value.ofLiteral text = .ok value := by
  unfold Value.ofLiteral
  by_cases word : text ∈ wordLiterals
  · simp only [wordLiterals, List.mem_cons, List.not_mem_nil, or_false] at word
    rcases word with rfl | rfl | rfl
    · exact ⟨_, rfl⟩
    · exact ⟨_, rfl⟩
    · exact ⟨_, rfl⟩
  · simp only [wordLiterals, List.mem_cons, List.not_mem_nil, or_false, not_or] at word
    rw [if_neg word.2.2, if_neg word.1, if_neg word.2.1]
    cases literal_form text scanned with
    | word known => exact absurd known (by simp [wordLiterals, word])
    | quoted fits =>
        obtain ⟨inside, -, cut⟩ := fits
        rw [cut]
        exact ⟨_, rfl⟩
    | number fits =>
        obtain ⟨x, read⟩ := Number.read_number text fits
        split
        · exact ⟨_, rfl⟩
        · rw [read]
          exact ⟨_, rfl⟩

end Scriptlet
