import Scriptlet.Proofs.Token.LongestMatch

set_option autoImplicit false

namespace Scriptlet

def textOf (tokens : List Token) : List Char := tokens.flatMap fun token => token.text.toList

namespace Scanner

def advance (scanner : Scanner) : Scanner :=
  match scanner.next? with
  | none => scanner
  | some (_, after) => after

def answer (scanner : Scanner) : Nat → Option (Except LexicalError Token)
  | 0 => scanner.next?.map Prod.fst
  | calls + 1 => scanner.advance.answer calls

end Scanner

structure Scans (scanner : Scanner) (tokens : List Token) (fault : Option LexicalError) : Prop where
  items : scanner.items = tokens.map .ok ++ fault.toList.map .error
  answers : ∀ calls, scanner.answer calls = scanner.items[calls]?
  nonempty : ∀ token ∈ tokens, token.text ≠ ""
  whole : fault = none → textOf tokens = scanner.text
  broken : ∀ error ∈ fault, ∃ rest, textOf tokens ++ rest = scanner.text ∧
    NextItem rest (.error error.cause)
  lines : ∀ before token behind, tokens = before ++ token :: behind →
    token.line = scanner.line + (textOf before).count '\n'
  faultLine : ∀ error ∈ fault, error.line = scanner.line + (textOf tokens).count '\n'
  breaks : ∀ token ∈ tokens, '\n' ∈ token.text.toList →
    token.kind = .whitespace ∨ token.kind = .literal ∧ token.text.toList.head? = some '"'

theorem digits_no_break {digits : List Char} (all : ∀ c ∈ digits, c.isDigit = true) : '\n' ∉ digits := by
  intro member
  exact absurd (all '\n' member) (by decide)

theorem operator_no_break {matched : List Char} (known : IsOperatorText matched) : '\n' ∉ matched := by
  intro member
  have table : ∀ operator ∈ Operator.table, '\n' ∉ operator.lexeme.toList := by decide
  obtain ⟨operator, inTable, same⟩ := List.any_eq_true.mp known
  rw [decide_eq_true_eq] at same
  refine table operator inTable ?_
  rw [same, String.toList_ofList]
  exact member

-- A line ends only within blanks or a string.
theorem break_within {pattern : Pattern} {matched : List Char} (fits : pattern.Matches matched)
    (member : '\n' ∈ matched) : pattern = .blanks ∨ pattern = .text ∨ pattern = .openText := by
  cases pattern with
  | blanks => exact .inl rfl
  | text => exact .inr (.inl rfl)
  | openText => exact .inr (.inr rfl)
  | number =>
      rcases fits with digits | ⟨whole, fraction, isWhole, isFraction, cut⟩
      · exact absurd member (digits_no_break digits.2)
      · rw [cut, List.mem_append, List.mem_cons] at member
        rcases member with inWhole | point | inFraction
        · exact absurd inWhole (digits_no_break isWhole.2)
        · cases point
        · exact absurd inFraction (digits_no_break isFraction.2)
  | openNumber =>
      obtain ⟨whole, isWhole, cut⟩ := fits
      rw [cut, List.mem_append, List.mem_singleton] at member
      rcases member with inWhole | point
      · exact absurd inWhole (digits_no_break isWhole.2)
      · cases point
  | word =>
      obtain ⟨first, others, starts, parts, cut⟩ := fits
      have all : ∀ c ∈ matched, isWordPart c = true := by
        rw [cut, List.forall_mem_cons]
        exact ⟨word_part_of_start first starts, parts⟩
      have part := all '\n' member
      rw [blank_not_word_part '\n' rfl] at part
      cases part
  | separator =>
      obtain ⟨c, separates, cut⟩ := fits
      rw [cut, List.mem_singleton] at member
      subst member
      cases separates
  | comment =>
      obtain ⟨inside, free, cut⟩ := fits
      rw [cut, List.mem_cons, List.mem_cons] at member
      rcases member with slash | slash | within
      · cases slash
      · cases slash
      · exact absurd (free '\n' within) (by decide)

theorem next_item_breaks {text : List Char} {lexeme : Lexeme} (next : NextItem text (.ok lexeme))
    (member : '\n' ∈ lexeme.text.toList) :
    lexeme.kind = .whitespace ∨ lexeme.kind = .literal ∧ lexeme.text.toList.head? = some '"' := by
  generalize same : (Except.ok lexeme : Except LexicalFault Lexeme) = item at next
  cases next with
  | matched pattern matched fits longest =>
      have texts : lexeme.text = String.ofList matched := by
        cases pattern <;> cases same <;> rfl
      rw [texts, String.toList_ofList] at member ⊢
      rcases break_within fits member with blanks | text | openText
      · subst blanks
        cases same
        exact .inl rfl
      · subst text
        obtain ⟨inside, -, cut⟩ := fits
        cases same
        exact .inr ⟨rfl, by simp [cut]⟩
      · subst openText
        cases same
  | operator matched starts longest =>
      cases same
      rw [String.toList_ofList] at member
      exact absurd member (operator_no_break longest.holds)
  | unknownOperator => cases same
  | invalidCharacter => cases same

theorem line_breaks_counted {c : Char} {rest : List Char} {piece : Piece} (found : scanPiece c rest = .ok piece) :
    piece.lineBreaks = piece.lexeme.count '\n' := by
  have next := scan_piece_next c rest
  rw [found] at next
  rw [Piece.lineBreaks]
  by_cases breaks : '\n' ∈ piece.lexeme
  · have within : piece.kind = .whitespace ∨ piece.lexeme.head? = some '"' := by
      simpa [Piece.toLexeme] using
        (next_item_breaks next (by simpa [Piece.toLexeme] using breaks)).imp_right And.right
    rw [if_pos within]
  · rw [List.count_eq_zero.mpr breaks, ite_self]

section Steps

variable {scanner after : Scanner} {tokens : List Token} {fault : Option LexicalError}

theorem answers_of_none (ended : scanner.next? = none) (calls : Nat) : scanner.answer calls = none := by
  induction calls with
  | zero => rw [Scanner.answer, ended]; rfl
  | succ calls ih =>
      have stays : scanner.advance = scanner := by rw [Scanner.advance, ended]
      rw [Scanner.answer, stays]
      exact ih

theorem answers_of_some {item : Except LexicalError Token} (step : scanner.next? = some (item, after))
    (answers : ∀ calls, after.answer calls = after.items[calls]?) (calls : Nat) :
    scanner.answer calls = scanner.items[calls]? := by
  rw [Scanner.items_of_some scanner after item step]
  cases calls with
  | zero => rw [Scanner.answer, step]; rfl
  | succ calls =>
      have moves : scanner.advance = after := by rw [Scanner.advance, step]
      rw [Scanner.answer, moves, List.getElem?_cons_succ]
      exact answers calls

theorem scans_ended (ended : scanner.text = []) : Scans scanner [] none := by
  have nothing : scanner.next? = none := by rw [Scanner.next?, ended]
  have items := Scanner.items_of_none scanner nothing
  constructor
  case items => exact items
  case answers =>
    intro calls
    rw [answers_of_none nothing, items]
    rfl
  case whole => exact fun _ => ended.symm
  all_goals simp

structure TakesToken (scanner : Scanner) (token : Token) (after : Scanner) : Prop where
  line : token.line = scanner.line
  nonempty : token.text ≠ ""
  cut : token.text.toList ++ after.text = scanner.text
  counted : after.line = scanner.line + token.text.toList.count '\n'
  next : NextItem scanner.text (.ok token.toLexeme)

theorem next_takes_token {token : Token} (step : scanner.next? = some (.ok token, after)) :
    TakesToken scanner token after := by
  obtain ⟨text, line⟩ := scanner
  cases text with
  | nil => cases step
  | cons c rest =>
      have next := scan_piece_next c rest
      rw [Scanner.next?] at step
      dsimp only at step
      cases found : scanPiece c rest with
      | error cause =>
          rw [found] at step
          cases step
      | ok piece =>
          rw [found] at step next
          cases step
          obtain ⟨nonempty, cut⟩ := scan_piece_append c rest piece found
          constructor
          case line => rfl
          case nonempty => exact fun empty => nonempty (by simpa using congrArg String.toList empty)
          case cut => simpa using cut
          case counted => simp [line_breaks_counted found]
          case next => exact next

theorem next_fault {error : LexicalError} (step : scanner.next? = some (.error error, after)) :
    error.line = scanner.line ∧ after.text = [] ∧ NextItem scanner.text (.error error.cause) := by
  obtain ⟨text, line⟩ := scanner
  cases text with
  | nil => cases step
  | cons c rest =>
      have next := scan_piece_next c rest
      rw [Scanner.next?] at step
      dsimp only at step
      cases found : scanPiece c rest with
      | ok piece =>
          rw [found] at step
          cases step
      | error cause =>
          rw [found] at step next
          cases step
          exact ⟨rfl, rfl, next⟩

theorem scans_fault {error : LexicalError} (step : scanner.next? = some (.error error, after)) :
    Scans scanner [] (some error) := by
  obtain ⟨line, ended, next⟩ := next_fault step
  have last := scans_ended ended
  have items := Scanner.items_of_some scanner after _ step
  constructor
  case items =>
    rw [items, last.items]
    rfl
  case answers => exact answers_of_some step last.answers
  case broken =>
    intro other same
    cases same
    exact ⟨scanner.text, rfl, next⟩
  case faultLine =>
    intro other same
    cases same
    simpa [textOf] using line
  all_goals simp

theorem scans_token {token : Token} (step : scanner.next? = some (.ok token, after))
    (scans : Scans after tokens fault) : Scans scanner (token :: tokens) fault := by
  have takes := next_takes_token step
  have text : textOf (token :: tokens) = token.text.toList ++ textOf tokens := rfl
  constructor
  case items =>
    rw [Scanner.items_of_some scanner after _ step, scans.items]
    rfl
  case answers => exact answers_of_some step scans.answers
  case nonempty => exact List.forall_mem_cons.mpr ⟨takes.nonempty, scans.nonempty⟩
  case whole =>
    intro none
    rw [text, scans.whole none, takes.cut]
  case broken =>
    intro error isFault
    obtain ⟨rest, cut, next⟩ := scans.broken error isFault
    exact ⟨rest, by rw [text, List.append_assoc, cut, takes.cut], next⟩
  case lines =>
    intro before other behind cut
    cases before with
    | nil =>
        cases cut
        simpa [textOf] using takes.line
    | cons first before =>
        rw [List.cons_append, List.cons.injEq] at cut
        obtain ⟨same, cut⟩ := cut
        subst same
        rw [scans.lines before other behind cut, takes.counted]
        simp only [textOf, List.flatMap_cons, List.count_append]
        omega
  case faultLine =>
    intro error isFault
    rw [scans.faultLine error isFault, takes.counted, text, List.count_append]
    omega
  case breaks =>
    exact List.forall_mem_cons.mpr ⟨fun member => next_item_breaks takes.next member, scans.breaks⟩

end Steps

theorem scanner_scans (scanner : Scanner) : ∃ tokens fault, Scans scanner tokens fault := by
  match step : scanner.next? with
  | none =>
      have ended : scanner.text = [] := by
        cases text : scanner.text with
        | nil => rfl
        | cons c rest =>
            obtain ⟨after, found⟩ := next_located c rest scanner.line
            rw [← text] at found
            rw [step] at found
            cases found
      exact ⟨[], none, scans_ended ended⟩
  | some (.error error, after) => exact ⟨[], some error, scans_fault step⟩
  | some (.ok token, after) =>
      have shorter := Scanner.next_shorter scanner after _ step
      obtain ⟨tokens, fault, scans⟩ := scanner_scans after
      exact ⟨token :: tokens, fault, scans_token step scans⟩
termination_by scanner.text.length

theorem map_m_of_fault {ε α : Type} (results : List α) (error : ε) :
    (results.map .ok ++ [.error error] : List (Except ε α)).mapM id = .error error := by
  induction results with
  | nil => rfl
  | cons result results ih =>
      rw [List.map_cons, List.cons_append, List.mapM_cons, ih]
      rfl

/-- A source text is cut into tokens that make it up, each on the line where it starts, up to the first
fault, if there is one. -/
theorem scanning_loses_nothing (source : String) :
    ∃ (tokens : List Token) (fault : Option LexicalError),
      Scans ⟨source.toList, 1⟩ tokens fault ∧ tokenize source = fault.elim (.ok tokens) .error := by
  obtain ⟨tokens, fault, scans⟩ := scanner_scans (.ofSource source)
  refine ⟨tokens, fault, scans, ?_⟩
  rw [tokenize, scans.items]
  cases fault with
  | none =>
      rw [Option.toList_none, List.map_nil, List.append_nil]
      exact map_m_of_map_ok tokens
  | some error => exact map_m_of_fault tokens error

end Scriptlet
