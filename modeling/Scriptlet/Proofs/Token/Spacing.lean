import Scriptlet.Token.Scanner

set_option autoImplicit false

namespace Scriptlet

theorem blank_not_digit (c : Char) (blank : Text.isBlank c = true) : c.isDigit = false := by
  by_cases digit : c.isDigit = true
  · simp only [Char.isDigit, Bool.and_eq_true, decide_eq_true_eq, UInt32.le_iff_toNat_le] at digit
    change 48 ≤ c.toNat ∧ c.toNat ≤ 57 at digit
    have ascii : c.toNat < 128 := by omega
    simp only [Text.isBlank, if_pos ascii, Bool.or_eq_true, Bool.and_eq_true, decide_eq_true_eq] at blank
    omega
  · simpa using digit

theorem ranges_apart (c : Char) (blanks others : List Text.CodeRange)
    (apart : (blanks.all fun blank => others.all fun other =>
      Nat.blt other.2 blank.1 || Nat.blt blank.2 other.1) = true)
    (blank : blanks.any (·.contains c) = true) : others.any (·.contains c) = false := by
  obtain ⟨range, member, within⟩ := List.any_eq_true.mp blank
  rw [List.any_eq_false]
  intro other inOthers contains
  have between := List.all_eq_true.mp (List.all_eq_true.mp apart range member) other inOthers
  simp only [Text.CodeRange.contains, Bool.and_eq_true, decide_eq_true_eq] at within contains
  simp only [Bool.or_eq_true, Nat.blt_eq] at between
  omega

theorem blank_not_word_part (c : Char) (blank : Text.isBlank c = true) : isWordPart c = false := by
  have letters := ranges_apart c Text.blankRanges Text.alphabeticRanges (by decide +kernel)
  have numbers := ranges_apart c Text.blankRanges Text.numericRanges (by decide +kernel)
  have digit := blank_not_digit c blank
  by_cases ascii : c.toNat < 128
  · have code : c.toNat = 32 ∨ 9 ≤ c.toNat ∧ c.toNat ≤ 13 := by
      simpa [Text.isBlank, ascii] using blank
    have underscore : c ≠ '_' := by
      rintro rfl
      revert code
      decide
    have letter : c.isAlpha = false := by
      rw [Bool.eq_false_iff]
      intro alpha
      delta Char.isAlpha at alpha
      delta Char.isUpper Char.isLower at alpha
      simp only [Bool.or_eq_true, Bool.and_eq_true, decide_eq_true_eq, UInt32.le_iff_toNat_le] at alpha
      simp only [Char.toNat] at code
      have small : 'a'.val.toNat = 97 ∧ 'A'.val.toNat = 65 := by decide
      omega
    simp [isWordPart, Text.isAlphabetic, Text.isNumeric, ascii, underscore, letter, digit]
  · have ranges : Text.blankRanges.any (·.contains c) = true := by
      simpa [Text.isBlank, ascii] using blank
    have underscore : c ≠ '_' := by
      rintro rfl
      exact ascii (by decide)
    simp [isWordPart, Text.isAlphabetic, Text.isNumeric, ascii, underscore, letters ranges,
      numbers ranges]

theorem blank_not_operator_start (c : Char) (blank : Text.isBlank c = true) :
    isOperatorStart c = false := by
  by_cases start : isOperatorStart c = true
  · have visible : (['-', '+', '!', '*', '/', '%', '<', '>', '=', '&', '|'].all
        fun c => !Text.isBlank c) = true := rfl
    simp only [isOperatorStart, decide_eq_true_eq] at start
    have same := List.all_eq_true.mp visible c start
    rw [blank] at same
    cases same
  · simpa using start

def Apart (behind : List Char) : Prop := ∀ c ∈ behind.head?, Text.isBlank c = true

theorem take_while_apart {α : Type} (belongs : α → Bool) (front behind : List α)
    (all : ∀ c ∈ front, belongs c = true) (stops : ∀ c ∈ behind.head?, belongs c = false) :
    (front ++ behind).takeWhile belongs = front ∧ (front ++ behind).dropWhile belongs = behind := by
  rw [List.takeWhile_append_of_pos all, List.dropWhile_append_of_pos all]
  cases behind with
  | nil => simp
  | cons c behind => simp [stops c rfl]

theorem scan_number_apart (text behind : List Char) (piece : Piece)
    (found : scanNumber text = .ok piece) (apart : Apart behind) :
    scanNumber (piece.lexeme ++ behind) = .ok ⟨piece.kind, piece.lexeme, behind⟩ := by
  have stops : ∀ b ∈ behind.head?, b.isDigit = false := fun b isHead =>
    blank_not_digit b (apart b isHead)
  have digits : ∀ text : List Char, ∀ d ∈ text.takeWhile Char.isDigit, d.isDigit = true :=
    fun text d member => List.all_eq_true.mp List.all_takeWhile d member
  rcases scan_number_ok found with ⟨more, point, nonempty, rfl⟩ | ⟨noPoint, rfl⟩
  · have whole := take_while_apart Char.isDigit (text.takeWhile Char.isDigit)
      ('.' :: (more.takeWhile Char.isDigit ++ behind)) (digits _) (by rintro _ ⟨⟩; decide)
    have fraction := take_while_apart Char.isDigit (more.takeWhile Char.isDigit) behind (digits _) stops
    simp only [List.append_assoc, List.cons_append]
    rw [scan_number_fraction whole.2 (by rwa [fraction.1]), whole.1, fraction.1, fraction.2]
  · have whole := take_while_apart Char.isDigit _ behind (digits text) stops
    have ended : ∀ more, behind ≠ '.' :: more := by
      rintro more rfl
      exact absurd (apart '.' rfl) (by decide)
    rw [scan_number_whole (by rwa [whole.2]), whole.1, whole.2]

theorem scan_string_apart (text behind : List Char) (piece : Piece)
    (found : scanString text = .ok piece) :
    ∃ tail, piece.lexeme = '"' :: tail ∧
      scanString (tail ++ behind) = .ok ⟨piece.kind, piece.lexeme, behind⟩ := by
  have inside : ∀ c ∈ text.takeWhile (· ≠ '"'), decide (c ≠ '"') = true :=
    fun c member => List.all_eq_true.mp List.all_takeWhile c member
  obtain ⟨rest, -, rfl⟩ := scan_string_ok found
  refine ⟨text.takeWhile (· ≠ '"') ++ ['"'], rfl, ?_⟩
  have cut := take_while_apart (fun c : Char => decide (c ≠ '"')) _ ('"' :: behind) inside
    (by rintro _ ⟨⟩; decide)
  rw [List.append_assoc, List.singleton_append, scan_string_closed cut.2, cut.1]

theorem scan_word_apart (text behind : List Char) (apart : Apart behind) :
    scanWord ((scanWord text).lexeme ++ behind) =
      ⟨(scanWord text).kind, (scanWord text).lexeme, behind⟩ := by
  have cut := take_while_apart isWordPart (text.takeWhile isWordPart) behind
    (fun c member => List.all_eq_true.mp List.all_takeWhile c member)
    (fun c isHead => blank_not_word_part c (apart c isHead))
  simp only [scanWord, Piece.ofRun, cut.1, cut.2]

theorem beginning_of_lexeme (front back : List Char)
    (known : Operator.isLexeme (String.ofList (front ++ back)) = true) :
    Operator.isBeginning (String.ofList front) = true := by
  obtain ⟨operator, member, same⟩ := List.any_eq_true.mp known
  refine List.any_eq_true.mpr ⟨operator, member, ?_⟩
  rw [decide_eq_true_eq] at same
  rw [same, String.toList_ofList, String.toList_ofList, List.isPrefixOf_iff_prefix]
  exact List.prefix_append front back

theorem beginning_stops (longest : List Char) (c : Char) (blank : Text.isBlank c = true) :
    Operator.isBeginning (String.ofList (longest ++ [c])) = false := by
  have starts : (Operator.table.all fun operator => operator.lexeme.toList.all isOperatorStart) = true := by
    decide
  refine List.any_eq_false.mpr fun operator member begins => ?_
  rw [String.toList_ofList, List.isPrefixOf_iff_prefix] at begins
  have start := List.all_eq_true.mp (List.all_eq_true.mp starts operator member) c
    (begins.subset (by simp))
  rw [blank_not_operator_start c blank] at start
  cases start

theorem grow_stops (candidates : Candidates) (behind : List Char) (apart : Apart behind) :
    candidates.grow behind = candidates := by
  cases behind with
  | nil => rfl
  | cons c behind =>
      apply grow_stopped
      rw [beginning_stops candidates.longest c (apart c rfl)]
      exact Bool.false_ne_true

theorem grow_lexeme (candidates : Candidates) (c : Char) (tail behind : List Char)
    (known : Operator.isLexeme (String.ofList (candidates.longest ++ c :: tail)) = true)
    (apart : Apart behind) :
    candidates.grow (c :: tail ++ behind) =
      ⟨candidates.longest ++ c :: tail, some (candidates.longest ++ c :: tail)⟩ := by
  have begins := beginning_of_lexeme (candidates.longest ++ [c]) tail (by simpa using known)
  induction tail generalizing candidates c with
  | nil =>
      rw [List.cons_append, grow_further _ begins, if_pos known]
      exact grow_stops _ behind apart
  | cons d tail ih =>
      rw [List.cons_append, grow_further _ begins]
      have deeper := ih ⟨candidates.longest ++ [c], if Operator.isLexeme
          (String.ofList (candidates.longest ++ [c])) = true then some (candidates.longest ++ [c])
        else candidates.operator⟩ d (by simpa using known)
        (beginning_of_lexeme _ tail (by simpa using known))
      simpa using deeper

theorem grow_known (candidates : Candidates) (rest operator : List Char)
    (start : ∀ known, candidates.operator = some known →
      Operator.isLexeme (String.ofList known) = true)
    (found : (candidates.grow rest).operator = some operator) :
    Operator.isLexeme (String.ofList operator) = true := by
  induction rest generalizing candidates with
  | nil => exact start operator found
  | cons c rest ih =>
      by_cases goesOn : Operator.isBeginning (String.ofList (candidates.longest ++ [c])) = true
      · rw [grow_further rest goesOn] at found
        refine ih _ (fun known present => ?_) found
        by_cases longer : Operator.isLexeme (String.ofList (candidates.longest ++ [c])) = true
        · rw [if_pos longer] at present
          cases present
          exact longer
        · rw [if_neg longer] at present
          exact start known present
      · rw [grow_stopped rest goesOn] at found
        exact start operator found

theorem scan_operator_apart (text behind : List Char) (piece : Piece)
    (found : scanOperator text = .ok piece) (apart : Apart behind) :
    scanOperator (piece.lexeme ++ behind) = .ok ⟨piece.kind, piece.lexeme, behind⟩ := by
  have nonempty := (scan_operator_append text piece found).1
  obtain ⟨operator, chosen, rfl⟩ := scan_operator_ok found
  have known := grow_known ⟨[], none⟩ text operator (by simp) chosen
  obtain ⟨c, tail, rfl⟩ := List.exists_cons_of_ne_nil nonempty
  have grown := grow_lexeme ⟨[], none⟩ c tail behind known apart
  unfold scanOperator
  rw [grown]
  simp

theorem scan_piece_apart (c : Char) (rest behind : List Char) (piece : Piece)
    (found : scanPiece c rest = .ok piece) (significant : piece.kind.isTrivia = false)
    (apart : Apart behind) :
    ∃ tail, piece.lexeme = c :: tail ∧
      scanPiece c (tail ++ behind) = .ok ⟨piece.kind, piece.lexeme, behind⟩ := by
  obtain ⟨nonempty, cut⟩ := scan_piece_append c rest piece found
  obtain ⟨first, tail, lexeme⟩ := List.exists_cons_of_ne_nil nonempty
  rw [lexeme, List.cons_append, List.cons.injEq] at cut
  obtain ⟨rfl, cut⟩ := cut
  refine ⟨tail, lexeme, ?_⟩
  unfold scanPiece at found ⊢
  by_cases blank : Text.isBlank first = true
  · rw [if_pos blank] at found
    cases found
    cases significant
  rw [if_neg blank] at found ⊢
  by_cases digit : first.isDigit = true
  · rw [if_pos digit] at found ⊢
    rw [← List.cons_append, ← lexeme]
    exact scan_number_apart _ behind piece found apart
  rw [if_neg digit] at found ⊢
  by_cases quote : first = '"'
  · rw [if_pos quote] at found ⊢
    obtain ⟨other, same, again⟩ := scan_string_apart rest behind piece found
    rw [lexeme, List.cons.injEq] at same
    rw [same.2]
    exact again
  rw [if_neg quote] at found ⊢
  by_cases letter : isWordStart first = true
  · rw [if_pos letter] at found ⊢
    cases found
    rw [← List.cons_append, ← lexeme, scan_word_apart _ behind apart]
  rw [if_neg letter] at found ⊢
  by_cases separates : isSeparator first = true
  · rw [if_pos separates] at found ⊢
    cases found
    cases lexeme
    rfl
  rw [if_neg separates] at found ⊢
  by_cases comment : (decide (first = '/') && decide (rest.head? = some '/')) = true
  · rw [if_pos comment] at found
    cases found
    cases significant
  rw [if_neg comment] at found
  have stillNoComment : ¬ (decide (first = '/') && decide ((tail ++ behind).head? = some '/')) = true := by
    cases tail with
    | nil =>
        cases behind with
        | nil => simp
        | cons b behind =>
            have slash : b ≠ '/' := by
              rintro rfl
              exact absurd (apart '/' rfl) (by decide)
            simp [slash]
    | cons d tail =>
        rw [← cut] at comment
        simpa using comment
  rw [if_neg stillNoComment]
  by_cases start : isOperatorStart first = true
  · rw [if_pos start] at found ⊢
    rw [← List.cons_append, ← lexeme]
    exact scan_operator_apart _ behind piece found apart
  · rw [if_neg start] at found
    cases found

def Piece.toLexeme (piece : Piece) : Lexeme := ⟨piece.kind, String.ofList piece.lexeme⟩

def Lexeme.IsScanned (lexeme : Lexeme) : Prop :=
  ∃ (source : String) (tokens : List Token), tokenize source = .ok tokens ∧
    ∃ token ∈ tokens, token.toLexeme = lexeme

theorem map_ok_of_map_m {ε α : Type} (items : List (Except ε α)) (results : List α)
    (all : items.mapM id = .ok results) : items = results.map .ok := by
  induction items generalizing results with
  | nil =>
      cases all
      rfl
  | cons item items ih =>
      rw [List.mapM_cons] at all
      cases item with
      | error error => cases all
      | ok result =>
          cases others : items.mapM id with
          | error error =>
              rw [others] at all
              cases all
          | ok tail =>
              rw [others] at all
              cases all
              rw [ih tail others]
              rfl

theorem map_m_of_map_ok {ε α : Type} (results : List α) :
    (results.map .ok : List (Except ε α)).mapM id = .ok results := by
  induction results with
  | nil => rfl
  | cons result results ih =>
      rw [List.map_cons, List.mapM_cons, ih]
      rfl

theorem piece_of_item (scanner : Scanner) (token : Token) (member : .ok token ∈ scanner.items) :
    ∃ c rest piece, scanPiece c rest = .ok piece ∧ token.toLexeme = piece.toLexeme := by
  match step : scanner.next? with
  | none =>
      rw [Scanner.items_of_none scanner step] at member
      cases member
  | some (item, after) =>
      have shorter := Scanner.next_shorter scanner after item step
      rw [Scanner.items_of_some scanner after item step] at member
      rcases List.mem_cons.mp member with here | further
      · subst here
        obtain ⟨text, line⟩ := scanner
        cases text with
        | nil => cases step
        | cons c rest =>
            rw [Scanner.next?] at step
            dsimp only at step
            cases found : scanPiece c rest with
            | ok piece =>
                rw [found] at step
                cases step
                exact ⟨c, rest, piece, found, rfl⟩
            | error fault =>
                rw [found] at step
                cases step
      · exact piece_of_item after token further
termination_by scanner.text.length

theorem piece_of_scanned (lexeme : Lexeme) (scanned : lexeme.IsScanned) :
    ∃ c rest piece, scanPiece c rest = .ok piece ∧ piece.toLexeme = lexeme := by
  obtain ⟨source, tokens, found, token, member, rfl⟩ := scanned
  have items := map_ok_of_map_m _ tokens found
  obtain ⟨c, rest, piece, scans, same⟩ := piece_of_item (.ofSource source) token
    (by rw [items]; exact List.mem_map_of_mem member)
  exact ⟨c, rest, piece, scans, same.symm⟩

theorem scanned_not_parenthesis (lexeme : Lexeme) (scanned : lexeme.IsScanned)
    (kind : lexeme.kind ≠ .separator) : lexeme.text ≠ "(" := by
  intro parenthesis
  obtain ⟨c, rest, piece, found, rfl⟩ := piece_of_scanned lexeme scanned
  have chars : piece.lexeme = ['('] := by
    simpa [Piece.toLexeme] using congrArg String.toList parenthesis
  have cut := (scan_piece_append c rest piece found).2
  rw [chars, List.cons_append, List.cons.injEq] at cut
  obtain ⟨rfl, -⟩ := cut
  have separator : scanPiece '(' rest = .ok ⟨.separator, ['('], rest⟩ := rfl
  rw [separator] at found
  cases found
  exact kind rfl

theorem tokenize_alone (kind : TokenKind) (c : Char) (tail : List Char)
    (found : scanPiece c tail = .ok ⟨kind, c :: tail, []⟩) :
    tokenize (String.ofList (c :: tail)) = .ok [⟨⟨kind, String.ofList (c :: tail)⟩, 1⟩] := by
  have step : (Scanner.ofSource (String.ofList (c :: tail))).next? =
      some (.ok ⟨⟨kind, String.ofList (c :: tail)⟩, 1⟩, ⟨[], 1 + Piece.lineBreaks ⟨kind, c :: tail, []⟩⟩) := by
    simp only [Scanner.next?, Scanner.ofSource, String.toList_ofList, found]
  rw [tokenize, Scanner.items_of_some _ _ _ step, Scanner.items_of_none _ rfl]
  rfl

theorem scanned_alone (kind : TokenKind) (c : Char) (tail : List Char)
    (found : scanPiece c tail = .ok ⟨kind, c :: tail, []⟩) :
    Lexeme.IsScanned ⟨kind, String.ofList (c :: tail)⟩ :=
  ⟨_, _, tokenize_alone kind c tail found, _, List.mem_cons_self, rfl⟩

-- The text spells the lexemes, with blanks between them.
inductive Spells : List Char → List Lexeme → Prop where
  | none : Spells [] []
  | last (lexeme : Lexeme) : Spells lexeme.text.toList [lexeme]
  | next (lexeme other : Lexeme) (others : List Lexeme) (gap text : List Char) (apart : gap ≠ [])
      (blank : ∀ c ∈ gap, Text.isBlank c = true) (rest : Spells text (other :: others)) :
      Spells (lexeme.text.toList ++ gap ++ text) (lexeme :: other :: others)

def Lexeme.IsWritten (lexeme : Lexeme) : Prop := lexeme.IsScanned ∧ lexeme.kind.isTrivia = false

theorem next_apart (lexeme : Lexeme) (behind : List Char) (line : Nat) (written : lexeme.IsWritten)
    (apart : Apart behind) :
    ∃ after, (⟨lexeme.text.toList ++ behind, line⟩ : Scanner).next? =
      some (.ok ⟨lexeme, line⟩, ⟨behind, after⟩) := by
  obtain ⟨c, rest, piece, found, rfl⟩ := piece_of_scanned lexeme written.1
  obtain ⟨tail, chars, again⟩ := scan_piece_apart c rest behind piece found written.2 apart
  refine ⟨line + piece.lineBreaks, ?_⟩
  simp only [Scanner.next?, Piece.toLexeme, String.toList_ofList]
  rw [chars, List.cons_append]
  dsimp only
  rw [again]
  simp [chars, Piece.lineBreaks]

theorem written_unique {first second : Lexeme} (written : first.IsWritten) (other : second.IsWritten)
    (text : first.text = second.text) : first = second := by
  have apart : Apart [] := by rintro _ ⟨⟩
  obtain ⟨_, scans⟩ := next_apart first [] 1 written apart
  obtain ⟨_, scans'⟩ := next_apart second [] 1 other apart
  rw [text, scans'] at scans
  cases scans
  rfl

theorem first_not_blank (lexeme : Lexeme) (written : lexeme.IsWritten) :
    ∃ c tail, lexeme.text.toList = c :: tail ∧ Text.isBlank c = false := by
  obtain ⟨c, rest, piece, found, rfl⟩ := piece_of_scanned lexeme written.1
  obtain ⟨tail, chars, -⟩ := scan_piece_apart c rest [] piece found written.2 (by rintro _ ⟨⟩)
  refine ⟨c, tail, by simpa [Piece.toLexeme] using chars, ?_⟩
  by_cases blank : Text.isBlank c = true
  · rw [scanPiece, if_pos blank] at found
    cases found
    cases written.2
  · simpa using blank

theorem spells_starts (text : List Char) (lexeme : Lexeme) (others : List Lexeme)
    (spells : Spells text (lexeme :: others)) (written : lexeme.IsWritten) :
    ∃ c tail, text = c :: tail ∧ Text.isBlank c = false := by
  obtain ⟨c, tail, chars, visible⟩ := first_not_blank lexeme written
  cases spells with
  | last => exact ⟨c, tail, chars, visible⟩
  | next _ other others gap text apart blank rest =>
      exact ⟨c, tail ++ gap ++ text, by simp [chars], visible⟩

theorem next_gap (gap text : List Char) (line : Nat) (apart : gap ≠ [])
    (blank : ∀ c ∈ gap, Text.isBlank c = true)
    (starts : ∀ c ∈ text.head?, Text.isBlank c = false) :
    ∃ after, (⟨gap ++ text, line⟩ : Scanner).next? =
      some (.ok ⟨⟨.whitespace, String.ofList gap⟩, line⟩, ⟨text, after⟩) := by
  obtain ⟨c, tail, rfl⟩ := List.exists_cons_of_ne_nil apart
  have cut := take_while_apart Text.isBlank (c :: tail) text blank starts
  rw [List.cons_append] at cut
  refine ⟨line + Piece.lineBreaks ⟨.whitespace, c :: tail, text⟩, ?_⟩
  simp only [Scanner.next?, List.cons_append, scanPiece, blank c List.mem_cons_self, if_true,
    Piece.ofRun, cut.1, cut.2]

theorem items_of_spells (text : List Char) (lexemes : List Lexeme) (line : Nat)
    (spells : Spells text lexemes) (written : ∀ lexeme ∈ lexemes, lexeme.IsWritten) :
    ∃ tokens : List Token, (⟨text, line⟩ : Scanner).items = tokens.map .ok ∧
      (tokens.filter Token.isSignificant).map Token.toLexeme = lexemes := by
  induction spells generalizing line with
  | none => exact ⟨[], Scanner.items_of_none _ rfl, rfl⟩
  | last lexeme =>
      have here := written lexeme List.mem_cons_self
      obtain ⟨after, step⟩ := next_apart lexeme [] line here (by rintro _ ⟨⟩)
      rw [List.append_nil] at step
      refine ⟨[⟨lexeme, line⟩], ?_, ?_⟩
      · rw [Scanner.items_of_some _ _ _ step, Scanner.items_of_none _ rfl]
        rfl
      · simp [Token.isSignificant, here.2]
  | next lexeme other others gap text apart blank rest ih =>
      have here := written lexeme List.mem_cons_self
      have further := fun l member => written l (List.mem_cons_of_mem lexeme member)
      obtain ⟨c, tail, chars, visible⟩ := spells_starts text other others rest
        (further other List.mem_cons_self)
      obtain ⟨after, step⟩ := next_apart lexeme (gap ++ text) line here (by
        intro b isHead
        obtain ⟨first, others, rfl⟩ := List.exists_cons_of_ne_nil apart
        cases isHead
        exact blank b List.mem_cons_self)
      obtain ⟨last, skip⟩ := next_gap gap text after apart blank (by
        rw [chars]
        rintro b ⟨⟩
        exact visible)
      obtain ⟨tokens, items, spelled⟩ := ih last further
      refine ⟨⟨lexeme, line⟩ :: ⟨⟨.whitespace, String.ofList gap⟩, after⟩ :: tokens, ?_, ?_⟩
      · rw [List.append_assoc, Scanner.items_of_some _ _ _ step, Scanner.items_of_some _ _ _ skip, items]
        rfl
      · rw [List.filter_cons_of_pos (by simp [Token.isSignificant, here.2]),
          List.filter_cons_of_neg (by simp [Token.isSignificant, TokenKind.isTrivia]), List.map_cons,
          spelled]

end Scriptlet
