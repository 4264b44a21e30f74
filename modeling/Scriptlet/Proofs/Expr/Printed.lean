import Scriptlet.Expr.Tree
import Scriptlet.Proofs.Grammar.RoundTrip
import Scriptlet.Proofs.Value.Literal

/-!
Printed trees can be read back.

A line break ends a row unless it stands in quotes, blanks in front of a row tell its depth, and the rows below
it that are one level deeper are its parts. `Program.ofTree` reads a text in this way, and `tree_read_back` says
that it finds every well-formed program, up to its lines, in its printed tree.
-/

set_option autoImplicit false

namespace Scriptlet

namespace Expr

-- The tree with a label and parts, without lines. What no tree has as its label makes an empty statement.
def ofLabel (label : List Char) (parts : List Expr) : Expr :=
  let text := String.ofList ((label.dropWhile (· ≠ ' ')).drop 1)
  match String.ofList (label.takeWhile (· ≠ ' ')), parts with
  | "Block", statements => block 0 statements
  | "Let", [] => declare 0 text none
  | "Let", [initializer] => declare 0 text (some initializer)
  | "If", [condition, thenBranch] => branch 0 condition thenBranch none
  | "If", [condition, thenBranch, elseBranch] => branch 0 condition thenBranch (some elseBranch)
  | "While", [condition, body] => loop 0 condition body
  | "Binary", [left, right] => binary 0 text left right
  | "Unary", [operand] => unary 0 text operand
  | "Literal", [] => literal 0 text
  | "Identifier", [] => identifier 0 text
  | "Invocation", arguments => call 0 text arguments
  | _, _ => empty 0

end Expr

theorem of_label_of_parts (expr : Expr) :
    Expr.ofLabel expr.label.toList (mapLinesOfAll (fun _ => 0) expr.parts) = expr.mapLines fun _ => 0 := by
  cases expr with
  | declare _ _ initializer =>
      cases initializer <;>
        simp [Expr.ofLabel, Expr.label]
  | branch _ _ _ elseBranch =>
      cases elseBranch <;>
        simp [Expr.ofLabel, Expr.label]
  | _ => simp [Expr.ofLabel, Expr.label]

-- A row and the trees of the rows below it, each with its depth. The deeper ones at the front are its parts.
def putRow (row : Nat × List Char) (below : List (Nat × Expr)) : List (Nat × Expr) :=
  (row.1, .ofLabel row.2 ((below.takeWhile (·.1 = row.1 + 1)).map Prod.snd)) ::
    below.dropWhile (·.1 = row.1 + 1)

def Row.content (row : Row) : Nat × List Char := (row.depth, row.label.toList)

theorem put_row_parts (depth : Nat) (label : List Char) (parts : List Expr) (below : List (Nat × Expr))
    (shallow : ∀ tree ∈ below.head?, tree.1 ≤ depth) :
    putRow (depth, label) (parts.map (fun part => (depth + 1, part)) ++ below) =
      (depth, .ofLabel label parts) :: below := by
  have cut := take_while_apart (fun tree : Nat × Expr => decide (tree.1 = depth + 1))
    (parts.map fun part => (depth + 1, part)) below (by simp) fun tree isHead => by
      have bound := shallow tree isHead
      simp only [decide_eq_false_iff_not]
      omega
  have kept : Prod.snd ∘ (fun part : Expr => (depth + 1, part)) = id := rfl
  rw [putRow, cut.1, cut.2, List.map_map, kept, List.map_id]

theorem trees_of_rows (exprs : List Expr) (depth : Nat) (below : List (Nat × Expr))
    (shallow : ∀ tree ∈ below.head?, tree.1 ≤ depth) :
    ((rowsOfAll depth exprs).map Row.content).foldr putRow below =
      (mapLinesOfAll (fun _ => 0) exprs).map (fun expr => (depth, expr)) ++ below := by
  induction exprs using parts_induction generalizing depth below with
  | nil => rfl
  | cons first others inParts inOthers =>
      have behind : ∀ tree ∈
          ((mapLinesOfAll (fun _ => 0) others).map (fun expr => (depth, expr)) ++ below).head?,
          tree.1 ≤ depth := by
        cases others with
        | nil => exact shallow
        | cons second others =>
            rintro _ ⟨⟩
            exact Nat.le_refl depth
      have deeper := fun tree isHead => Nat.le_succ_of_le (behind tree isHead)
      rw [rowsOfAll, rows_of_parts, List.cons_append, List.map_cons, List.map_append, List.foldr_cons,
        List.foldr_append, inOthers depth below shallow, inParts (depth + 1) _ deeper, Row.content,
        put_row_parts depth _ _ _ behind, of_label_of_parts, mapLinesOfAll]
      rfl

def rowTexts (quoted : Bool) : List Char → List (List Char)
  | [] => []
  | c :: rest =>
      if c = '\n' && !quoted then [] :: rowTexts false rest
      else
        match rowTexts (quoted ^^ c = '"') rest with
        | [] => [[c]]
        | row :: others => (c :: row) :: others

def isClosed (quoted : Bool) : List Char → Bool
  | [] => !quoted
  | c :: rest => (c ≠ '\n' || quoted) && isClosed (quoted ^^ c = '"') rest

theorem row_texts_closed (quoted : Bool) (row rest : List Char) (closed : isClosed quoted row = true) :
    rowTexts quoted (row ++ '\n' :: rest) = row :: rowTexts false rest := by
  induction row generalizing quoted with
  | nil =>
      obtain rfl : quoted = false := by simpa [isClosed] using closed
      simp [rowTexts]
  | cons c row ih =>
      rw [isClosed, Bool.and_eq_true] at closed
      have goesOn : (c = '\n' && !quoted) = false := by
        have inside := closed.1
        cases quoted <;> simp_all
      simp only [List.cons_append, rowTexts, goesOn, Bool.false_eq_true, if_false, ih _ closed.2]

theorem closed_append (quoted : Bool) (front back : List Char) (closed : isClosed quoted front = true) :
    isClosed quoted (front ++ back) = isClosed false back := by
  induction front generalizing quoted with
  | nil =>
      obtain rfl : quoted = false := by simpa [isClosed] using closed
      rfl
  | cons c front ih =>
      rw [isClosed, Bool.and_eq_true] at closed
      rw [List.cons_append, isClosed, closed.1, Bool.true_and, ih _ closed.2]

theorem closed_of_plain (text : List Char) (plain : ∀ c ∈ text, c ≠ '\n' ∧ c ≠ '"') :
    isClosed false text = true := by
  induction text with
  | nil => rfl
  | cons c text ih =>
      obtain ⟨here, further⟩ := List.forall_mem_cons.mp plain
      simp [isClosed, here.1, here.2, ih further]

theorem closed_quoted (inside : List Char) (unquoted : '"' ∉ inside) :
    isClosed false ('"' :: inside ++ ['"']) = true := by
  have opened : isClosed true (inside ++ ['"']) = true := by
    induction inside with
    | nil => rfl
    | cons c inside ih =>
        rw [List.mem_cons, not_or] at unquoted
        simp [isClosed, Ne.symm unquoted.1, ih unquoted.2]
  simpa [isClosed] using opened

def readRow (text : List Char) : Nat × List Char :=
  ((text.takeWhile (· = ' ')).length / 2, text.dropWhile (· = ' '))

def Program.ofTree (text : String) : Program :=
  ⟨(((rowTexts false text.toList).tail.map readRow).foldr putRow []).map Prod.snd⟩

def ReadableLabel (label : String) : Prop :=
  isClosed false label.toList = true ∧ ∀ c ∈ label.toList.head?, c ≠ ' '

theorem read_row_content (row : Row) (readable : ReadableLabel row.label) :
    readRow (List.replicate (2 * row.depth) ' ' ++ row.label.toList) = row.content := by
  have cut := take_while_apart (fun c => decide (c = ' ')) (List.replicate (2 * row.depth) ' ')
    row.label.toList (by simp) fun c isHead => decide_eq_false (readable.2 c isHead)
  rw [readRow, cut.1, cut.2, List.length_replicate, Nat.mul_div_cancel_left _ (by decide)]
  rfl

theorem rows_read_back (rows : List Row) (readable : ∀ row ∈ rows, ReadableLabel row.label) :
    (rowTexts false (String.join (rows.map Row.text)).toList).map readRow = rows.map Row.content := by
  induction rows with
  | nil => rfl
  | cons row rows ih =>
      obtain ⟨here, further⟩ := List.forall_mem_cons.mp readable
      have closed : isClosed false (List.replicate (2 * row.depth) ' ' ++ row.label.toList) = true := by
        rw [closed_append false _ _ (closed_of_plain _ (by simp))]
        exact here.1
      have text : (String.join ((row :: rows).map Row.text)).toList =
          List.replicate (2 * row.depth) ' ' ++ row.label.toList ++
            '\n' :: (String.join (rows.map Row.text)).toList := by
        simp [Row.text, Text.indentation]
      rw [text, row_texts_closed false _ _ closed, List.map_cons, List.map_cons, ih further,
        read_row_content row here]

theorem plain_of_class (inClass : Char → Bool) (noBreak : inClass '\n' = false) (noQuote : inClass '"' = false)
    (c : Char) (member : inClass c = true) : c ≠ '\n' ∧ c ≠ '"' := by
  constructor
  · rintro rfl
    exact absurd member (Bool.eq_false_iff.mp noBreak)
  · rintro rfl
    exact absurd member (Bool.eq_false_iff.mp noQuote)

theorem word_of_item {chars : List Char} {item : Except LexicalFault Lexeme} {text : String}
    (next : NextItem chars item) (isName : item = .ok ⟨.identifier, text⟩) :
    Pattern.word.Matches text.toList := by
  cases next with
  | matched pattern matched fits longest =>
      cases pattern with
      | word =>
          simp only [Pattern.item, Except.ok.injEq, Lexeme.mk.injEq] at isName
          obtain ⟨-, rfl⟩ := isName
          rwa [String.toList_ofList]
      | blanks | number | openNumber | text | openText | separator | comment => cases isName
  | operator matched starts longest => cases isName
  | unknownOperator candidate starts none longest => cases isName
  | invalidCharacter c first starts none => cases isName

theorem name_closed {name : String} (isName : IsName name) : isClosed false name.toList = true := by
  obtain ⟨c, rest, piece, found, same⟩ := piece_of_scanned _ isName
  have next := scan_piece_next c rest
  rw [found] at next
  obtain ⟨first, others, starts, continues, cut⟩ := word_of_item next (congrArg Except.ok same)
  have parts : ∀ c ∈ first :: others, isWordPart c = true :=
    List.forall_mem_cons.mpr ⟨word_part_of_start first starts, continues⟩
  rw [cut]
  exact closed_of_plain _ fun c member =>
    plain_of_class isWordPart (by decide) (by decide) c (parts c member)

theorem digits_closed {digits : List Char} (isWhole : Digits digits) : isClosed false digits = true :=
  closed_of_plain digits fun c member =>
    plain_of_class Char.isDigit (by decide) (by decide) c (isWhole.2 c member)

theorem literal_closed {text : String} (isLiteral : IsLiteral text) :
    isClosed false text.toList = true := by
  cases literal_form text isLiteral with
  | word known =>
      simp only [wordLiterals, List.mem_cons, List.not_mem_nil, or_false] at known
      rcases known with rfl | rfl | rfl <;> decide
  | quoted fits =>
      obtain ⟨inside, unquoted, cut⟩ := fits
      rw [cut]
      exact closed_quoted inside unquoted
  | number fits =>
      rcases fits with digits | ⟨whole, fraction, isWhole, isFraction, cut⟩
      · exact digits_closed digits
      · have point : isClosed false ('.' :: fraction) = isClosed false fraction :=
          closed_append false ['.'] fraction rfl
        rw [cut, closed_append false _ _ (digits_closed isWhole), point, digits_closed isFraction]

theorem operator_closed {arity : Arity} {text : String} (known : IsOperator arity text) :
    isClosed false text.toList = true := by
  have table : ∀ operator ∈ Operator.table, isClosed false operator.lexeme.toList = true := by decide
  obtain ⟨operator, found⟩ := known
  obtain ⟨inTable, -, rfl⟩ := find_eq_some found
  exact table operator inTable

theorem readable_label (c : Char) (word text : String) (starts : word.toList.head? = some c)
    (visible : c ≠ ' ') (closed : isClosed false word.toList = true)
    (closedText : isClosed false text.toList = true) : ReadableLabel (word ++ text) := by
  refine ⟨?_, fun first isHead => ?_⟩
  · rw [String.toList_append, closed_append false _ _ closed]
    exact closedText
  · rw [String.toList_append, List.head?_append, starts] at isHead
    cases isHead
    exact visible

theorem label_readable (expr : Expr) (place : Place) (wellFormed : expr.WellFormed place) :
    ReadableLabel expr.label := by
  cases expr with
  | block _ _ => exact readable_label 'B' "Block" "" rfl (by decide) rfl rfl
  | declare _ name initializer =>
      have isName : IsName name := by
        cases initializer with
        | none => exact wellFormed
        | some initializer => exact wellFormed.1
      exact readable_label 'L' "Let " name rfl (by decide) rfl (name_closed isName)
  | branch _ _ _ _ => exact readable_label 'I' "If" "" rfl (by decide) rfl rfl
  | loop _ _ _ => exact readable_label 'W' "While" "" rfl (by decide) rfl rfl
  | binary _ operator _ _ =>
      exact readable_label 'B' "Binary " operator rfl (by decide) rfl (operator_closed wellFormed.1)
  | unary _ operator _ =>
      exact readable_label 'U' "Unary " operator rfl (by decide) rfl (operator_closed wellFormed.1)
  | literal _ text =>
      exact readable_label 'L' "Literal " text rfl (by decide) rfl (literal_closed wellFormed)
  | identifier _ name =>
      exact readable_label 'I' "Identifier " name rfl (by decide) rfl (name_closed wellFormed)
  | call _ name _ =>
      exact readable_label 'I' "Invocation " name rfl (by decide) rfl (name_closed wellFormed.1)
  | empty _ => exact readable_label 'E' "Empty" "" rfl (by decide) rfl rfl

theorem rows_readable (exprs : List Expr) (depth : Nat)
    (wellFormed : ∀ expr ∈ exprs, ∃ place, Expr.WellFormed place expr) :
    ∀ row ∈ rowsOfAll depth exprs, ReadableLabel row.label := by
  induction exprs using parts_induction generalizing depth with
  | nil => simp [rowsOfAll]
  | cons first others inParts inOthers =>
      obtain ⟨⟨place, here⟩, further⟩ := List.forall_mem_cons.mp wellFormed
      rw [rowsOfAll, rows_of_parts, List.cons_append, List.forall_mem_cons, List.forall_mem_append]
      exact ⟨label_readable first place here, inParts (depth + 1) (parts_well_formed first place here),
        inOthers depth further⟩

theorem tree_read_back (program : Program) (wellFormed : program.WellFormed) :
    Program.ofTree program.tree = program.withoutLines := by
  have text : program.tree.toList =
      "Program".toList ++ '\n' :: (String.join (program.rows.map Row.text)).toList := by
    simp [Program.tree]
  have rows := rows_read_back program.rows
    (rows_readable program.statements 1 (well_formed_of_all wellFormed))
  have trees := trees_of_rows program.statements 1 [] (by simp)
  rw [Program.ofTree, text, row_texts_closed false _ _ (by decide), List.tail_cons, rows, Program.rows, trees,
    List.append_nil, List.map_map]
  exact congrArg Program.mk (List.map_id _)

/-- Two sources whose programs are printed alike are read as the same program up to its lines, and a program is
printed in the same way whatever its lines are. -/
theorem printed_tree_determines_program (source other : String) (tokens otherTokens : List Token)
    (program otherProgram : Program) (scanned : tokenize source = .ok tokens)
    (scannedOther : tokenize other = .ok otherTokens) (read : Program.ofTokens tokens = .ok program)
    (readOther : Program.ofTokens otherTokens = .ok otherProgram) :
    program.tree = otherProgram.tree ↔ program.withoutLines = otherProgram.withoutLines := by
  constructor
  · intro same
    have wellFormed := program_well_formed source tokens program scanned read
    have wellFormedOther := program_well_formed other otherTokens otherProgram scannedOther readOther
    rw [← tree_read_back program wellFormed, ← tree_read_back otherProgram wellFormedOther, same]
  · intro same
    rw [← tree_without_lines program, ← tree_without_lines otherProgram, same]

-- A call with a text that goes on as if there were a row for an empty statement.
def rowlikeTokens : List Token :=
  [⟨⟨.identifier, "f"⟩, 1⟩, ⟨⟨.separator, "("⟩, 1⟩, ⟨⟨.literal, "\"\n  Empty\""⟩, 1⟩, ⟨⟨.separator, ")"⟩, 2⟩]

def rowlikeTokensBelow : List Token :=
  [⟨⟨.separator, "("⟩, 1⟩, ⟨⟨.whitespace, "\n"⟩, 1⟩, ⟨⟨.identifier, "f"⟩, 2⟩, ⟨⟨.separator, "("⟩, 2⟩,
    ⟨⟨.literal, "\"\n  Empty\""⟩, 2⟩, ⟨⟨.separator, ")"⟩, 3⟩, ⟨⟨.separator, ")"⟩, 3⟩]

def rowlikeCall (line : Nat) : Program := ⟨[.call line "f" [.literal line "\"\n  Empty\""]]⟩

theorem rowlike_text_printed : tokenize "f(\"\n  Empty\")" = .ok rowlikeTokens ∧
    tokenize "(\nf(\"\n  Empty\"))" = .ok rowlikeTokensBelow ∧
    Program.ofTokens rowlikeTokens = .ok (rowlikeCall 1) ∧
    Program.ofTokens rowlikeTokensBelow = .ok (rowlikeCall 2) ∧
    (rowlikeCall 1).tree = "Program\n  Invocation f\n    Literal \"\n  Empty\"\n" ∧
    (rowlikeCall 1).withoutLines = (rowlikeCall 2).withoutLines := by
  have scanned : tokenize "f(\"\n  Empty\")" = .ok rowlikeTokens := by decide +kernel
  have scannedBelow : tokenize "(\nf(\"\n  Empty\"))" = .ok rowlikeTokensBelow := by decide +kernel
  have printed : (rowlikeCall 1).tree = (rowlikeCall 2).tree := by decide
  exact ⟨scanned, scannedBelow, rfl, rfl, by decide,
    (printed_tree_determines_program _ _ _ _ _ _ scanned scannedBelow rfl rfl).mp printed⟩

end Scriptlet
