import Scriptlet.Proofs.Token.Spacing

/-!
The next item of a text is that of the longest match.

`NextItem` says by the patterns alone what scanning finds at the front of a text: the longest beginning that
matches a pattern, or else the longest operator of the table. Scanning obeys it (`scan_piece_next`), and no
text has two such items (`next_item_unique`).
-/

set_option autoImplicit false

namespace Scriptlet

-- The characters with which lexemes begin. No character is in two of these classes.
inductive CharClass where
  | blank
  | digit
  | quote
  | letter
  | separator
  | operator
deriving DecidableEq, Repr

def CharClass.contains (c : Char) : CharClass → Bool
  | blank => Text.isBlank c
  | digit => c.isDigit
  | quote => c = '"'
  | letter => isWordStart c
  | separator => isSeparator c
  | operator => isOperatorStart c

theorem digit_not_word_start (c : Char) (digit : c.isDigit = true) : isWordStart c = false := by
  simp only [Char.isDigit, Bool.and_eq_true, decide_eq_true_eq, UInt32.le_iff_toNat_le] at digit
  change 48 ≤ c.toNat ∧ c.toNat ≤ 57 at digit
  have ascii : c.toNat < 128 := by omega
  have underscore : c ≠ '_' := by
    intro same
    subst same
    revert digit
    decide
  have letter : c.isAlpha = false := by
    rw [Bool.eq_false_iff]
    intro alpha
    delta Char.isAlpha at alpha
    delta Char.isUpper Char.isLower at alpha
    simp only [Bool.or_eq_true, Bool.and_eq_true, decide_eq_true_eq, UInt32.le_iff_toNat_le] at alpha
    simp only [Char.toNat] at digit
    have small : 'a'.val.toNat = 97 ∧ 'A'.val.toNat = 65 := by decide
    omega
  simp [isWordStart, Text.isAlphabetic, ascii, underscore, letter]

theorem word_part_of_start (c : Char) (start : isWordStart c = true) : isWordPart c = true := by
  simp only [isWordStart, isWordPart] at *
  simp [start]

def CharClass.find? (c : Char) : Option CharClass :=
  [blank, digit, quote, letter, separator, operator].find? (·.contains c)

def punctuation : List Char :=
  ['"', '(', ')', '\x7b', '\x7d', ',', ';', '-', '+', '!', '*', '/', '%', '<', '>', '=', '&', '|']

theorem punctuation_class (c : Char) (charClass : CharClass) (known : c ∈ punctuation)
    (member : charClass.contains c = true) : CharClass.find? c = some charClass := by
  have all : (punctuation.all fun c =>
      [CharClass.blank, .digit, .quote, .letter, .separator, .operator].all fun charClass =>
        !charClass.contains c || CharClass.find? c = some charClass) = true := by decide
  have row := List.all_eq_true.mp all c known
  have entry := List.all_eq_true.mp row charClass (by cases charClass <;> decide)
  simpa [member] using entry

theorem class_found (c : Char) (charClass : CharClass) (member : charClass.contains c = true) :
    CharClass.find? c = some charClass := by
  by_cases known : c ∈ punctuation
  · exact punctuation_class c charClass known member
  · cases charClass with
    | blank => exact List.find?_cons_of_pos member
    | digit =>
        have notBlank : Text.isBlank c = false := by
          by_cases blank : Text.isBlank c = true
          · exact absurd member (by simp [CharClass.contains, blank_not_digit c blank])
          · simpa using blank
        simp only [CharClass.contains] at member
        simp [CharClass.find?, CharClass.contains, notBlank, member]
    | letter =>
        simp only [CharClass.contains] at member
        have notBlank : Text.isBlank c = false := by
          by_cases blank : Text.isBlank c = true
          · exact absurd (word_part_of_start c member) (by simp [blank_not_word_part c blank])
          · simpa using blank
        have notDigit : c.isDigit = false := by
          by_cases digit : c.isDigit = true
          · exact absurd member (by simp [digit_not_word_start c digit])
          · simpa using digit
        have notQuote : c ≠ '"' := by
          intro same
          exact known (by simp [punctuation, same])
        simp [CharClass.find?, CharClass.contains, notBlank, notDigit, notQuote, member]
    | quote => exact absurd (by simp_all [CharClass.contains, punctuation]) known
    | separator => exact absurd (by simp_all [CharClass.contains, isSeparator, punctuation]) known
    | operator => exact absurd (by simp_all [CharClass.contains, isOperatorStart, punctuation]) known

theorem class_unique (c : Char) (first second : CharClass) (inFirst : first.contains c = true)
    (inSecond : second.contains c = true) : first = second :=
  Option.some.inj ((class_found c first inFirst).symm.trans (class_found c second inSecond))

-- What a lexeme other than an operator looks like. The open patterns are those of a number or a string
-- that breaks off.
inductive Pattern where
  | blanks
  | number
  | openNumber
  | text
  | openText
  | word
  | separator
  | comment
deriving DecidableEq, Repr

def Digits (chars : List Char) : Prop := chars ≠ [] ∧ ∀ c ∈ chars, c.isDigit = true

namespace Pattern

def Matches (matched : List Char) : Pattern → Prop
  | blanks => matched ≠ [] ∧ ∀ c ∈ matched, Text.isBlank c = true
  | number => Digits matched ∨
      ∃ whole fraction, Digits whole ∧ Digits fraction ∧ matched = whole ++ '.' :: fraction
  | openNumber => ∃ whole, Digits whole ∧ matched = whole ++ ['.']
  | text => ∃ inside, '"' ∉ inside ∧ matched = '"' :: inside ++ ['"']
  | openText => ∃ inside, '"' ∉ inside ∧ matched = '"' :: inside
  | word => ∃ first others, isWordStart first = true ∧ (∀ c ∈ others, isWordPart c = true) ∧
      matched = first :: others
  | separator => ∃ c, isSeparator c = true ∧ matched = [c]
  | comment => ∃ inside, (∀ c ∈ inside, isLineEnd c = false) ∧ matched = '/' :: '/' :: inside

def item (matched : List Char) : Pattern → Except LexicalFault Lexeme
  | blanks => .ok ⟨.whitespace, String.ofList matched⟩
  | number | text => .ok ⟨.literal, String.ofList matched⟩
  | openNumber => .error (.fractionalPartExpected (String.ofList matched))
  | openText => .error .unterminatedString
  | word => .ok ⟨wordKind (String.ofList matched), String.ofList matched⟩
  | separator => .ok ⟨.separator, String.ofList matched⟩
  | comment => .ok ⟨.comment, String.ofList matched⟩

def start : Pattern → CharClass
  | blanks => .blank
  | number | openNumber => .digit
  | text | openText => .quote
  | word => .letter
  | separator => .separator
  | comment => .operator

end Pattern

structure Longest (property : List Char → Prop) (text matched : List Char) : Prop where
  begins : matched <+: text
  holds : property matched
  longest : ∀ other, other <+: text → property other → other.length ≤ matched.length

def MatchesAny (matched : List Char) : Prop := ∃ pattern : Pattern, pattern.Matches matched

def IsOperatorText (text : List Char) : Prop := Operator.isLexeme (String.ofList text) = true

def BeginsOperator (text : List Char) : Prop := Operator.isBeginning (String.ofList text) = true

def StartsOperator (text : List Char) : Prop :=
  (∃ c ∈ text.head?, isOperatorStart c = true) ∧
    ∀ matched, matched <+: text → ¬ Pattern.comment.Matches matched

inductive NextItem (text : List Char) : Except LexicalFault Lexeme → Prop where
  | matched (pattern : Pattern) (matched : List Char) (fits : pattern.Matches matched)
      (longest : Longest MatchesAny text matched) : NextItem text (pattern.item matched)
  | operator (matched : List Char) (starts : StartsOperator text)
      (longest : Longest IsOperatorText text matched) :
      NextItem text (.ok ⟨.operator, String.ofList matched⟩)
  | unknownOperator (candidate : List Char) (starts : StartsOperator text)
      (none : ∀ matched, matched <+: text → ¬ IsOperatorText matched)
      (longest : Longest BeginsOperator text candidate) :
      NextItem text (.error (.unknownOperator (String.ofList candidate)))
  | invalidCharacter (c : Char) (first : c ∈ text.head?) (starts : isOperatorStart c = false)
      (none : ∀ matched, matched <+: text → ¬ MatchesAny matched) :
      NextItem text (.error (.invalidCharacter c))

theorem longest_unique {property : List Char → Prop} {text first second : List Char}
    (one : Longest property text first) (other : Longest property text second) : first = second := by
  have shorter := one.longest second other.begins other.holds
  have longer := other.longest first one.begins one.holds
  exact List.IsPrefix.eq_of_length (List.prefix_of_prefix_length_le one.begins other.begins longer)
    (by omega)

theorem matches_start {pattern : Pattern} {matched : List Char} (fits : pattern.Matches matched) :
    ∃ c tail, matched = c :: tail ∧ pattern.start.contains c = true := by
  have digits : ∀ whole behind : List Char, Digits whole →
      ∃ c tail, whole ++ behind = c :: tail ∧ c.isDigit = true := by
    intro whole behind allDigits
    obtain ⟨c, tail, cut⟩ := List.exists_cons_of_ne_nil allDigits.1
    subst cut
    exact ⟨c, tail ++ behind, rfl, allDigits.2 c List.mem_cons_self⟩
  cases pattern with
  | blanks =>
      obtain ⟨c, tail, cut⟩ := List.exists_cons_of_ne_nil fits.1
      exact ⟨c, tail, cut, fits.2 c (by simp [cut])⟩
  | number =>
      rcases fits with whole | ⟨whole, fraction, isWhole, -, cut⟩
      · have starts := digits matched [] whole
        rw [List.append_nil] at starts
        exact starts
      · subst cut
        exact digits whole _ isWhole
  | openNumber =>
      obtain ⟨whole, isWhole, cut⟩ := fits
      subst cut
      exact digits whole _ isWhole
  | text =>
      obtain ⟨inside, -, cut⟩ := fits
      exact ⟨'"', inside ++ ['"'], cut, rfl⟩
  | openText =>
      obtain ⟨inside, -, cut⟩ := fits
      exact ⟨'"', inside, cut, rfl⟩
  | word =>
      obtain ⟨first, others, starts, -, cut⟩ := fits
      exact ⟨first, others, cut, starts⟩
  | separator =>
      obtain ⟨c, separates, cut⟩ := fits
      exact ⟨c, [], cut, separates⟩
  | comment =>
      obtain ⟨inside, -, cut⟩ := fits
      exact ⟨'/', '/' :: inside, cut, rfl⟩

theorem start_of_matched {pattern : Pattern} {matched rest : List Char} {c : Char}
    (charClass : CharClass) (member : charClass.contains c = true) (begins : matched <+: c :: rest)
    (fits : pattern.Matches matched) : pattern.start = charClass := by
  obtain ⟨first, tail, cut, starts⟩ := matches_start fits
  subst cut
  obtain ⟨same, -⟩ := List.cons_prefix_cons.mp begins
  subst same
  exact class_unique first _ _ starts member

theorem number_ends {matched : List Char} (fits : Pattern.number.Matches matched) :
    ∃ c ∈ matched.getLast?, c.isDigit = true := by
  have ends : ∀ front digits : List Char, Digits digits →
      ∃ c ∈ (front ++ digits).getLast?, c.isDigit = true := by
    intro front digits allDigits
    refine ⟨digits.getLast allDigits.1, ?_, allDigits.2 _ (List.getLast_mem allDigits.1)⟩
    rw [List.getLast?_append, List.getLast?_eq_some_getLast allDigits.1]
    rfl
  rcases fits with whole | ⟨whole, fraction, -, isFraction, cut⟩
  · exact ends [] matched whole
  · subst cut
    simpa using ends (whole ++ ['.']) fraction isFraction

theorem same_start (first second : Pattern) (same : first.start = second.start) :
    first = second ∨ (first, second) ∈ [(.number, .openNumber), (.openNumber, .number),
      (.text, .openText), (.openText, .text)] := by
  cases first <;> cases second <;> simp_all [Pattern.start]

theorem matches_unique {first second : Pattern} {matched : List Char} (one : first.Matches matched)
    (other : second.Matches matched) : first = second := by
  have pointed : Pattern.number.Matches matched → ¬ Pattern.openNumber.Matches matched := by
    intro number ⟨whole, _, cut⟩
    obtain ⟨last, isLast, digit⟩ := number_ends number
    rw [cut, List.getLast?_concat] at isLast
    cases isLast
    cases digit
  have quoted : Pattern.text.Matches matched → ¬ Pattern.openText.Matches matched := by
    intro ⟨inside, _, cut⟩ ⟨inside', free, cut'⟩
    rw [cut, List.cons_append, List.cons.injEq] at cut'
    exact free (by simp [← cut'.2])
  obtain ⟨c, tail, cut, starts⟩ := matches_start other
  have starting : first.start = second.start := by
    subst cut
    exact start_of_matched second.start starts (List.prefix_refl _) one
  rcases same_start first second starting with same | pairs
  · exact same
  · simp only [List.mem_cons, Prod.mk.injEq, List.not_mem_nil, or_false] at pairs
    rcases pairs with ⟨rfl, rfl⟩ | ⟨rfl, rfl⟩ | ⟨rfl, rfl⟩ | ⟨rfl, rfl⟩
    · exact absurd other (pointed one)
    · exact absurd one (pointed other)
    · exact absurd other (quoted one)
    · exact absurd one (quoted other)

theorem no_match_of_operator {text matched : List Char} (starts : StartsOperator text)
    (begins : matched <+: text) : ¬ MatchesAny matched := by
  obtain ⟨⟨c, first, isStart⟩, noComment⟩ := starts
  cases text with
  | nil => cases first
  | cons d rest =>
      cases first
      intro ⟨pattern, fits⟩
      have class_ := start_of_matched .operator isStart begins fits
      cases pattern with
      | comment => exact noComment matched begins fits
      | _ => cases class_

theorem first_starts_operator {text : List Char} {c : Char} (starts : StartsOperator text)
    (first : c ∈ text.head?) : isOperatorStart c ≠ false := by
  obtain ⟨⟨d, same, isStart⟩, -⟩ := starts
  cases Option.mem_unique first same
  simp [isStart]

theorem next_item_unique {text : List Char} {first second : Except LexicalFault Lexeme}
    (one : NextItem text first) (other : NextItem text second) : first = second := by
  cases one with
  | matched pattern matched fits longest =>
      cases other with
      | matched pattern' matched' fits' longest' =>
          have texts := longest_unique longest longest'
          subst texts
          rw [matches_unique fits fits']
      | operator _ starts _ => exact absurd ⟨pattern, fits⟩ (no_match_of_operator starts longest.begins)
      | unknownOperator _ starts _ _ =>
          exact absurd ⟨pattern, fits⟩ (no_match_of_operator starts longest.begins)
      | invalidCharacter _ _ _ none => exact absurd ⟨pattern, fits⟩ (none matched longest.begins)
  | operator matched starts longest =>
      cases other with
      | matched pattern _ fits longest' =>
          exact absurd ⟨pattern, fits⟩ (no_match_of_operator starts longest'.begins)
      | operator matched' _ longest' => rw [longest_unique longest longest']
      | unknownOperator _ _ none _ => exact absurd longest.holds (none matched longest.begins)
      | invalidCharacter c first notStart _ => exact absurd notStart (first_starts_operator starts first)
  | unknownOperator candidate starts none longest =>
      cases other with
      | matched pattern _ fits longest' =>
          exact absurd ⟨pattern, fits⟩ (no_match_of_operator starts longest'.begins)
      | operator matched' _ longest' => exact absurd longest'.holds (none matched' longest'.begins)
      | unknownOperator _ _ _ longest' => rw [longest_unique longest longest']
      | invalidCharacter c first notStart _ => exact absurd notStart (first_starts_operator starts first)
  | invalidCharacter c first notStart none =>
      cases other with
      | matched pattern matched fits longest => exact absurd ⟨pattern, fits⟩ (none matched longest.begins)
      | operator _ starts _ => exact absurd notStart (first_starts_operator starts first)
      | unknownOperator _ starts _ _ => exact absurd notStart (first_starts_operator starts first)
      | invalidCharacter d first' _ _ => rw [Option.mem_unique first first']

section Classes

variable {c : Char} {rest : List Char}

theorem next_of_class (pattern : Pattern) (matched : List Char) (fits : pattern.Matches matched)
    (begins : matched <+: c :: rest)
    (bound : ∀ (other : Pattern) (longer : List Char), other.start = pattern.start → longer <+: c :: rest →
      other.Matches longer → longer.length ≤ matched.length) :
    NextItem (c :: rest) (pattern.item matched) := by
  obtain ⟨first, tail, cut, starts⟩ := matches_start fits
  subst cut
  obtain ⟨same, -⟩ := List.cons_prefix_cons.mp begins
  subst same
  refine .matched pattern _ fits ⟨begins, ⟨pattern, fits⟩, fun longer within ⟨other, longerFits⟩ => ?_⟩
  exact bound other longer (start_of_matched _ starts within longerFits) within longerFits

theorem run_longest (belongs : Char → Bool) {text other : List Char}
    (all : ∀ c ∈ other, belongs c = true) (begins : other <+: text) :
    other.length ≤ (text.takeWhile belongs).length := by
  obtain ⟨behind, cut⟩ := begins
  subst cut
  rw [List.takeWhile_append_of_pos all, List.length_append]
  omega

theorem run_all (belongs : Char → Bool) (text : List Char) :
    ∀ c ∈ text.takeWhile belongs, belongs c = true :=
  fun c member => List.all_eq_true.mp List.all_takeWhile c member

theorem next_blanks (blank : Text.isBlank c = true) :
    NextItem (c :: rest) (Pattern.blanks.item ((c :: rest).takeWhile Text.isBlank)) := by
  refine next_of_class .blanks _ ⟨by simp [blank], run_all _ _⟩ (List.takeWhile_prefix _) ?_
  intro other longer same within longerFits
  cases other with
  | blanks => exact run_longest _ longerFits.2 within
  | _ => cases same

theorem next_word (start : isWordStart c = true) :
    NextItem (c :: rest) (Pattern.word.item ((c :: rest).takeWhile isWordPart)) := by
  have part := word_part_of_start c start
  have fits : Pattern.word.Matches ((c :: rest).takeWhile isWordPart) :=
    ⟨c, rest.takeWhile isWordPart, start, run_all _ _, by simp [part]⟩
  refine next_of_class .word _ fits (List.takeWhile_prefix _) ?_
  intro other longer same within longerFits
  cases other with
  | word =>
      obtain ⟨first, others, starts, parts, cut⟩ := longerFits
      refine run_longest isWordPart ?_ within
      rw [cut, List.forall_mem_cons]
      exact ⟨word_part_of_start first starts, parts⟩
  | _ => cases same

theorem next_separator (separates : isSeparator c = true) :
    NextItem (c :: rest) (Pattern.separator.item [c]) := by
  refine next_of_class .separator [c] ⟨c, separates, rfl⟩ ⟨rest, rfl⟩ ?_
  intro other longer same within longerFits
  cases other with
  | separator =>
      obtain ⟨d, -, cut⟩ := longerFits
      rw [cut]
      exact Nat.le_refl _
  | _ => cases same

theorem next_comment (slash : rest.head? = some '/') :
    NextItem ('/' :: rest) (Pattern.comment.item (('/' :: rest).takeWhile fun c => !isLineEnd c)) := by
  obtain ⟨behind, cut⟩ : ∃ behind, rest = '/' :: behind := by
    cases rest with
    | nil => cases slash
    | cons d behind =>
        cases slash
        exact ⟨behind, rfl⟩
  subst cut
  have inside : ∀ c ∈ behind.takeWhile fun c => !isLineEnd c, isLineEnd c = false := by
    intro c member
    simpa using run_all (fun c => !isLineEnd c) behind c member
  have fits : Pattern.comment.Matches (('/' :: '/' :: behind).takeWhile fun c => !isLineEnd c) :=
    ⟨_, inside, rfl⟩
  refine next_of_class .comment _ fits (List.takeWhile_prefix _) ?_
  intro other longer same within longerFits
  cases other with
  | comment =>
      obtain ⟨others, free, cut⟩ := longerFits
      refine run_longest (fun c => !isLineEnd c) ?_ within
      rw [cut, List.forall_mem_cons, List.forall_mem_cons]
      exact ⟨rfl, rfl, fun c member => by simp [free c member]⟩
  | _ => cases same

theorem digits_before_point {text whole behind : List Char} (digits : ∀ c ∈ whole, c.isDigit = true)
    (begins : whole ++ '.' :: behind <+: text) :
    whole = text.takeWhile Char.isDigit ∧ ∃ more, text.dropWhile Char.isDigit = '.' :: more ∧ behind <+: more := by
  obtain ⟨last, cut⟩ := begins
  subst cut
  have split := take_while_apart Char.isDigit whole ('.' :: (behind ++ last)) digits
    (by rintro _ ⟨⟩; decide)
  rw [List.append_assoc, List.cons_append]
  exact ⟨split.1.symm, behind ++ last, split.2, List.prefix_append behind last⟩

theorem number_bounded {text matched : List Char} {pattern : Pattern} (same : pattern.start = .digit)
    (begins : matched <+: text) (fits : pattern.Matches matched) :
    matched.length ≤ (text.takeWhile Char.isDigit).length ∨
      ∃ more, text.dropWhile Char.isDigit = '.' :: more ∧
        matched.length ≤ (text.takeWhile Char.isDigit).length + 1 + (more.takeWhile Char.isDigit).length := by
  have pointed : ∀ whole fraction : List Char, (∀ c ∈ whole, c.isDigit = true) →
      (∀ c ∈ fraction, c.isDigit = true) → matched = whole ++ '.' :: fraction →
      ∃ more, text.dropWhile Char.isDigit = '.' :: more ∧
        matched.length ≤ (text.takeWhile Char.isDigit).length + 1 + (more.takeWhile Char.isDigit).length := by
    intro whole fraction digits further cut
    rw [cut] at begins
    obtain ⟨all, more, point, within⟩ := digits_before_point digits begins
    have short := run_longest Char.isDigit further within
    refine ⟨more, point, ?_⟩
    rw [cut, ← all, List.length_append, List.length_cons]
    omega
  cases pattern with
  | number =>
      rcases fits with digits | ⟨whole, fraction, isWhole, isFraction, cut⟩
      · exact .inl (run_longest _ digits.2 begins)
      · exact .inr (pointed whole fraction isWhole.2 isFraction.2 cut)
  | openNumber =>
      obtain ⟨whole, isWhole, cut⟩ := fits
      exact .inr (pointed whole [] isWhole.2 (by simp) cut)
  | _ => cases same

theorem next_number (digit : c.isDigit = true) :
    NextItem (c :: rest) ((scanNumber (c :: rest)).map Piece.toLexeme) := by
  have whole : Digits ((c :: rest).takeWhile Char.isDigit) := ⟨by simp [digit], run_all _ _⟩
  have cut := List.takeWhile_append_dropWhile (p := Char.isDigit) (l := c :: rest)
  by_cases point : ∃ more, (c :: rest).dropWhile Char.isDigit = '.' :: more
  · obtain ⟨more, point⟩ := point
    rw [point] at cut
    have bounded : ∀ (other : Pattern) (longer : List Char), other.start = .digit →
        longer <+: c :: rest → other.Matches longer → longer.length ≤
          ((c :: rest).takeWhile Char.isDigit).length + 1 + (more.takeWhile Char.isDigit).length := by
      intro other longer same within longerFits
      rcases number_bounded same within longerFits with short | ⟨more', point', short⟩
      · omega
      · rw [point, List.cons.injEq] at point'
        rw [point'.2]
        exact short
    by_cases missing : more.takeWhile Char.isDigit = []
    · rw [scan_number_open point missing]
      refine next_of_class .openNumber _ ⟨_, whole, rfl⟩ ⟨more, by simpa using cut⟩ ?_
      intro other longer same within longerFits
      have short := bounded other longer same within longerFits
      rw [missing] at short
      simpa using short
    · rw [scan_number_fraction point missing]
      have fraction : Digits (more.takeWhile Char.isDigit) := ⟨missing, run_all _ _⟩
      refine next_of_class .number _ (.inr ⟨_, _, whole, fraction, rfl⟩)
        ⟨more.dropWhile Char.isDigit, by simpa using cut⟩ ?_
      intro other longer same within longerFits
      have short := bounded other longer same within longerFits
      rw [List.length_append, List.length_cons]
      omega
  · rw [scan_number_whole fun more same => point ⟨more, same⟩]
    refine next_of_class .number _ (.inl whole) (List.takeWhile_prefix _) ?_
    intro other longer same within longerFits
    rcases number_bounded same within longerFits with short | ⟨more, pointed, -⟩
    · exact short
    · exact absurd ⟨more, pointed⟩ point

theorem next_string : NextItem ('"' :: rest) ((scanString rest).map Piece.toLexeme) := by
  have cut := List.takeWhile_append_dropWhile (p := fun c : Char => decide (c ≠ '"')) (l := rest)
  have inside : '"' ∉ rest.takeWhile (· ≠ '"') := by
    intro member
    simpa using run_all (fun c : Char => decide (c ≠ '"')) rest '"' member
  rcases scan_string_quote rest with ended | ⟨behind, closed⟩
  · rw [scan_string_open ended]
    rw [ended, List.append_nil] at cut
    rw [cut] at inside
    refine next_of_class .openText ('"' :: rest) ⟨rest, inside, rfl⟩ (List.prefix_refl _) ?_
    intro other longer same within longerFits
    exact within.length_le
  · rw [scan_string_closed closed]
    rw [closed] at cut
    refine next_of_class .text ('"' :: rest.takeWhile (· ≠ '"') ++ ['"']) ⟨_, inside, rfl⟩
      ⟨behind, by simpa using cut⟩ ?_
    intro other longer same within longerFits
    have bounded : ∀ chars : List Char, '"' ∉ chars → chars <+: rest →
        chars.length ≤ (rest.takeWhile (· ≠ '"')).length := by
      intro chars free begins
      refine run_longest _ (fun d member => ?_) begins
      simpa using fun isQuote : d = '"' => free (isQuote ▸ member)
    cases other with
    | text =>
        obtain ⟨chars, free, form⟩ := longerFits
        rw [form, List.cons_append, List.cons_prefix_cons] at within
        have short := bounded chars free ((List.prefix_append _ _).trans within.2)
        rw [form]
        simpa using short
    | openText =>
        obtain ⟨chars, free, form⟩ := longerFits
        rw [form, List.cons_prefix_cons] at within
        have short := bounded chars free within.2
        rw [form]
        simp only [List.length_cons, List.length_append]
        omega
    | _ => cases same

end Classes

section Operators

variable {rest : List Char}

theorem grown_or_within {longest other : List Char} {c : Char} (begins : other <+: longest ++ c :: rest) :
    other <+: longest ∨ ∃ behind, longest ++ [c] ++ behind = other := by
  have grown : longest ++ [c] <+: longest ++ c :: rest := ⟨rest, by simp⟩
  rcases List.prefix_or_prefix_of_prefix begins grown with within | longer
  · rcases List.prefix_concat_iff.mp within with whole | shorter
    · exact .inr ⟨[], by simp [whole]⟩
    · exact .inl shorter
  · exact .inr longer

theorem beginning_of_beginning (front back : List Char) (known : BeginsOperator (front ++ back)) :
    BeginsOperator front := by
  obtain ⟨operator, member, begins⟩ := List.any_eq_true.mp known
  refine List.any_eq_true.mpr ⟨operator, member, ?_⟩
  rw [String.toList_ofList, List.isPrefixOf_iff_prefix] at begins ⊢
  exact (List.prefix_append front back).trans begins

-- No operator is longer than the one found, if that held of the operators within the candidate.
theorem grow_maximal (candidates : Candidates) {matched : List Char} (known : IsOperatorText matched)
    (begins : matched <+: candidates.longest ++ rest)
    (start : matched <+: candidates.longest →
      ∃ operator, candidates.operator = some operator ∧ matched.length ≤ operator.length) :
    ∃ operator, (candidates.grow rest).operator = some operator ∧ matched.length ≤ operator.length := by
  induction rest generalizing candidates with
  | nil =>
      rw [List.append_nil] at begins
      exact start begins
  | cons c rest ih =>
      by_cases goesOn : Operator.isBeginning (String.ofList (candidates.longest ++ [c])) = true
      · rw [grow_further rest goesOn]
        refine ih _ (by simpa using begins) fun within => ?_
        dsimp only at within ⊢
        rcases List.prefix_concat_iff.mp within with whole | shorter
        · subst whole
          exact ⟨_, if_pos known, Nat.le_refl _⟩
        · by_cases longer : Operator.isLexeme (String.ofList (candidates.longest ++ [c])) = true
          · exact ⟨_, if_pos longer, within.length_le⟩
          · rw [if_neg longer]
            exact start shorter
      · rw [grow_stopped rest goesOn]
        rcases grown_or_within begins with within | ⟨behind, cut⟩
        · exact start within
        · subst cut
          exact absurd (beginning_of_lexeme _ behind known) goesOn

theorem grow_longest (candidates : Candidates) (known : BeginsOperator candidates.longest) :
    Longest BeginsOperator (candidates.longest ++ rest) (candidates.grow rest).longest := by
  induction rest generalizing candidates with
  | nil =>
      rw [List.append_nil]
      exact ⟨List.prefix_refl _, known, fun other within _ => within.length_le⟩
  | cons c rest ih =>
      by_cases goesOn : Operator.isBeginning (String.ofList (candidates.longest ++ [c])) = true
      · rw [grow_further rest goesOn, ← List.singleton_append, ← List.append_assoc]
        exact ih ⟨candidates.longest ++ [c], _⟩ goesOn
      · rw [grow_stopped rest goesOn]
        refine ⟨List.prefix_append _ _, known, fun other begins isBeginning => ?_⟩
        rcases grown_or_within begins with within | ⟨behind, cut⟩
        · exact within.length_le
        · subst cut
          exact absurd (beginning_of_beginning _ behind isBeginning) goesOn

theorem next_operator {text : List Char} (starts : StartsOperator text) :
    NextItem text ((scanOperator text).map Piece.toLexeme) := by
  have maximal : ∀ matched, matched <+: text → IsOperatorText matched →
      ∃ operator, (Candidates.grow ⟨[], none⟩ text).operator = some operator ∧
        matched.length ≤ operator.length := by
    intro matched begins known
    refine grow_maximal ⟨[], none⟩ known begins fun within => ?_
    rw [List.prefix_nil.mp within] at known
    cases known
  unfold scanOperator
  dsimp only
  cases chosen : (Candidates.grow ⟨[], none⟩ text).operator with
  | some operator =>
      have isKnown := grow_known ⟨[], none⟩ text operator (by simp) chosen
      have isPrefix := (grow_operator ⟨[], none⟩ text operator (by simp) chosen).2
      refine .operator operator starts ⟨isPrefix, isKnown, fun other begins known => ?_⟩
      obtain ⟨longer, same, short⟩ := maximal other begins known
      rw [chosen] at same
      cases same
      exact short
  | none =>
      refine .unknownOperator _ starts (fun matched begins known => ?_) (grow_longest ⟨[], none⟩ rfl)
      obtain ⟨operator, found, -⟩ := maximal matched begins known
      rw [chosen] at found
      cases found

end Operators

theorem starts_operator {c : Char} {rest : List Char} (start : isOperatorStart c = true)
    (notComment : ¬ (c = '/' ∧ rest.head? = some '/')) : StartsOperator (c :: rest) := by
  refine ⟨⟨c, rfl, start⟩, fun matched begins ⟨inside, _, cut⟩ => notComment ?_⟩
  rw [cut, List.cons_prefix_cons] at begins
  obtain ⟨same, behind, cut'⟩ := begins
  exact ⟨same.symm, by simp [← cut']⟩

theorem scan_piece_next (c : Char) (rest : List Char) :
    NextItem (c :: rest) ((scanPiece c rest).map Piece.toLexeme) := by
  unfold scanPiece
  by_cases blank : Text.isBlank c = true
  · rw [if_pos blank]
    exact next_blanks blank
  rw [if_neg blank]
  by_cases digit : c.isDigit = true
  · rw [if_pos digit]
    exact next_number digit
  rw [if_neg digit]
  by_cases quote : c = '"'
  · subst quote
    exact next_string
  rw [if_neg quote]
  by_cases letter : isWordStart c = true
  · rw [if_pos letter]
    exact next_word letter
  rw [if_neg letter]
  by_cases separates : isSeparator c = true
  · rw [if_pos separates]
    exact next_separator separates
  rw [if_neg separates]
  by_cases comment : c = '/' ∧ rest.head? = some '/'
  · obtain ⟨slash, second⟩ := comment
    subst slash
    rw [if_pos (by simp [second])]
    exact next_comment second
  rw [if_neg (by simpa using comment)]
  by_cases start : isOperatorStart c = true
  · rw [if_pos start]
    exact next_operator (starts_operator start comment)
  rw [if_neg start]
  have outside : ∀ charClass : CharClass, charClass.contains c = false := by
    intro charClass
    cases charClass <;> simp [CharClass.contains, blank, digit, quote, letter, separates, start]
  refine .invalidCharacter c rfl (outside .operator) fun matched begins ⟨pattern, fits⟩ => ?_
  obtain ⟨first, tail, cut, starts⟩ := matches_start fits
  rw [cut, List.cons_prefix_cons] at begins
  rw [begins.1, outside] at starts
  cases starts

def located (line : Nat) : Except LexicalFault Lexeme → Except LexicalError Token
  | .ok lexeme => .ok ⟨lexeme, line⟩
  | .error fault => .error ⟨line, fault⟩

theorem located_injective {line : Nat} {first second : Except LexicalFault Lexeme}
    (same : located line first = located line second) : first = second := by
  cases first <;> cases second <;> cases same <;> rfl

theorem next_located (c : Char) (rest : List Char) (line : Nat) :
    ∃ after, (⟨c :: rest, line⟩ : Scanner).next? =
      some (located line ((scanPiece c rest).map Piece.toLexeme), after) := by
  simp only [Scanner.next?]
  cases scanPiece c rest with
  | ok piece => exact ⟨_, rfl⟩
  | error fault => exact ⟨_, rfl⟩

/-- What a scanner gives next, as long as text is left, is the item that the patterns prescribe for this
text. -/
theorem scanner_gives_longest_match (c : Char) (rest : List Char) (line : Nat)
    (item : Except LexicalFault Lexeme) :
    (∃ after, (⟨c :: rest, line⟩ : Scanner).next? = some (located line item, after)) ↔
      NextItem (c :: rest) item := by
  obtain ⟨after, step⟩ := next_located c rest line
  constructor
  · intro ⟨other, same⟩
    rw [step, Option.some.injEq, Prod.mk.injEq] at same
    rw [← located_injective same.1]
    exact scan_piece_next c rest
  · intro next
    rw [next_item_unique next (scan_piece_next c rest)]
    exact ⟨after, step⟩

end Scriptlet
