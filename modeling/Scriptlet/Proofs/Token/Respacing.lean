import Scriptlet.Proofs.Token.LongestMatch

set_option autoImplicit false

namespace Scriptlet

theorem longest_alone {property : List Char → Prop} {text matched : List Char}
    (longest : Longest property text matched) : Longest property matched matched where
  begins := List.prefix_refl matched
  holds := longest.holds
  longest _ within _ := within.length_le

theorem operator_nonempty {matched : List Char} (known : IsOperatorText matched) : matched ≠ [] := by
  intro none
  rw [none, IsOperatorText] at known
  exact absurd known (by decide)

theorem starts_operator_alone {text matched : List Char} (starts : StartsOperator text)
    (longest : Longest IsOperatorText text matched) : StartsOperator matched := by
  obtain ⟨⟨c, first, isStart⟩, noComment⟩ := starts
  obtain ⟨d, tail, cut⟩ := List.exists_cons_of_ne_nil (operator_nonempty longest.holds)
  obtain ⟨behind, whole⟩ := longest.begins
  rw [← whole, cut] at first
  rw [cut] at longest ⊢
  exact ⟨⟨c, first, isStart⟩, fun other within => noComment other (within.trans longest.begins)⟩

theorem next_item_alone {text : List Char} {lexeme : Lexeme} (next : NextItem text (.ok lexeme)) :
    NextItem lexeme.text.toList (.ok lexeme) := by
  generalize same : (Except.ok lexeme : Except LexicalFault Lexeme) = item at next
  cases next with
  | matched pattern matched fits longest =>
      have again : NextItem matched (pattern.item matched) := .matched pattern matched fits (longest_alone longest)
      have texts : lexeme.text = String.ofList matched := by
        cases pattern <;> cases same <;> rfl
      rwa [texts, String.toList_ofList]
  | operator matched starts longest =>
      have again : NextItem matched (.ok ⟨.operator, String.ofList matched⟩) :=
        .operator matched (starts_operator_alone starts longest) (longest_alone longest)
      cases same
      rwa [String.toList_ofList]
  | unknownOperator => cases same
  | invalidCharacter => cases same

theorem scan_piece_alone {c : Char} {tail : List Char} {lexeme : Lexeme} (text : lexeme.text.toList = c :: tail)
    (next : NextItem (c :: tail) (.ok lexeme)) : scanPiece c tail = .ok ⟨lexeme.kind, c :: tail, []⟩ := by
  have found := next_item_unique (scan_piece_next c tail) next
  cases scans : scanPiece c tail with
  | error fault =>
      rw [scans] at found
      cases found
  | ok piece =>
      rw [scans] at found
      cases found
      have whole := (scan_piece_append c tail piece scans).2
      have chars : piece.lexeme = c :: tail := by
        rw [← text, Piece.toLexeme, String.toList_ofList]
      rw [chars, List.append_right_eq_self] at whole
      obtain ⟨kind, lexeme, rest⟩ := piece
      cases chars
      cases whole
      rfl

theorem scanned_again {lexeme : Lexeme} (scanned : lexeme.IsScanned) :
    tokenize lexeme.text = .ok [⟨lexeme, 1⟩] := by
  obtain ⟨first, rest, piece, found, same⟩ := piece_of_scanned lexeme scanned
  have next : NextItem (first :: rest) (.ok lexeme) := by
    have item := scan_piece_next first rest
    rwa [found, Except.map, same] at item
  have nonempty := (scan_piece_append first rest piece found).1
  have chars : lexeme.text.toList = piece.lexeme := by
    rw [← same, Piece.toLexeme, String.toList_ofList]
  obtain ⟨c, tail, cut⟩ := List.exists_cons_of_ne_nil nonempty
  rw [cut] at chars
  have alone := next_item_alone next
  rw [chars] at alone
  have again := tokenize_alone lexeme.kind c tail (scan_piece_alone chars alone)
  rwa [← chars, String.ofList_toList] at again

theorem spelled_again {text : List Char} {lexemes : List Lexeme} (spells : Spells text lexemes)
    (written : ∀ lexeme ∈ lexemes, lexeme.IsWritten) :
    ∃ tokens, tokenize (String.ofList text) = .ok tokens ∧
      (tokens.filter Token.isSignificant).map Token.toLexeme = lexemes := by
  obtain ⟨tokens, items, spelled⟩ := items_of_spells text lexemes 1 spells written
  refine ⟨tokens, ?_, spelled⟩
  rw [tokenize, Scanner.ofSource, String.toList_ofList, items, map_m_of_map_ok]

/-- Lexemes of significant tokens, from whatever sources, are found again in any text that has them in a row with
blanks between them, and nothing else is found there that means anything. Any lexeme is all that is found in its
own text. -/
theorem lexemes_found_again :
    (∀ (lexemes : List Lexeme) (text : List Char), (∀ lexeme ∈ lexemes, lexeme.IsWritten) →
      Spells text lexemes → ∃ tokens, tokenize (String.ofList text) = .ok tokens ∧
        (tokens.filter Token.isSignificant).map Token.toLexeme = lexemes) ∧
    ∀ lexeme : Lexeme, lexeme.IsScanned → tokenize lexeme.text = .ok [⟨lexeme, 1⟩] :=
  ⟨fun _ _ written spells => spelled_again spells written, fun _ => scanned_again⟩

-- Written without the blanks, the two operators would be one, and the name would be a keyword.
def sampleLexemes : List Lexeme :=
  [⟨.literal, "\"//\""⟩, ⟨.operator, "<"⟩, ⟨.operator, "="⟩, ⟨.identifier, "i"⟩, ⟨.identifier, "f"⟩]

theorem sample_lexemes_found_again :
    (∀ lexeme ∈ sampleLexemes, lexeme.IsWritten) ∧
      Spells "\"//\"\n<\t=  i f".toList sampleLexemes ∧
      (∃ tokens, tokenize "\"//\"\n<\t=  i f" = .ok tokens ∧
        (tokens.filter Token.isSignificant).map Token.toLexeme = sampleLexemes) ∧
      Lexeme.IsScanned ⟨.comment, "// <="⟩ ∧ tokenize "// <=" = .ok [⟨⟨.comment, "// <="⟩, 1⟩] := by
  have written : ∀ lexeme ∈ sampleLexemes, lexeme.IsWritten := by
    simp only [sampleLexemes, List.forall_mem_cons]
    refine ⟨⟨?_, rfl⟩, ⟨?_, rfl⟩, ⟨?_, rfl⟩, ⟨?_, rfl⟩, ⟨?_, rfl⟩, by simp⟩
    · exact scanned_alone .literal '"' ['/', '/', '"'] rfl
    · exact scanned_alone .operator '<' [] rfl
    · exact scanned_alone .operator '=' [] rfl
    · exact scanned_alone .identifier 'i' [] rfl
    · exact scanned_alone .identifier 'f' [] rfl
  have spells : Spells "\"//\"\n<\t=  i f".toList sampleLexemes :=
    .next ⟨.literal, "\"//\""⟩ _ _ ['\n'] _ (List.cons_ne_nil _ _) (by simp [Text.isBlank])
      (.next ⟨.operator, "<"⟩ _ _ ['\t'] _ (List.cons_ne_nil _ _) (by simp [Text.isBlank])
        (.next ⟨.operator, "="⟩ _ _ [' ', ' '] _ (List.cons_ne_nil _ _) (by simp [Text.isBlank])
          (.next ⟨.identifier, "i"⟩ _ _ [' '] _ (List.cons_ne_nil _ _) (by simp [Text.isBlank])
            (.last ⟨.identifier, "f"⟩))))
  have comment : Lexeme.IsScanned ⟨.comment, "// <="⟩ :=
    scanned_alone .comment '/' ['/', ' ', '<', '='] rfl
  exact ⟨written, spells, lexemes_found_again.1 sampleLexemes _ written spells, comment,
    lexemes_found_again.2 _ comment⟩

end Scriptlet
