import Scriptlet.Proofs.Expr.Lines
import Scriptlet.Proofs.Operator.Table
import Scriptlet.Proofs.Token.Spacing

set_option autoImplicit false

namespace Scriptlet

-- A statement may be empty, an operand may not. Operands are all expressions but the statements of a
-- program or block, the branches of a conditional and the body of a loop.
inductive Place where
  | statement
  | operand
deriving DecidableEq, Repr

def IsName (name : String) : Prop := Lexeme.IsScanned ⟨.identifier, name⟩

def IsLiteral (text : String) : Prop := Lexeme.IsScanned ⟨.literal, text⟩

def IsOperator (arity : Arity) (text : String) : Prop :=
  ∃ operator, Operator.find? text arity = some operator

mutual

@[simp] def Expr.WellFormed (place : Place) : Expr → Prop
  | .block _ statements => WellFormedAll .statement statements
  | .declare _ name none => IsName name
  | .declare _ name (some initializer) => IsName name ∧ initializer.WellFormed .operand
  | .branch _ condition thenBranch none =>
      condition.WellFormed .operand ∧ thenBranch.WellFormed .statement
  | .branch _ condition thenBranch (some elseBranch) =>
      condition.WellFormed .operand ∧ thenBranch.WellFormed .statement ∧
        elseBranch.WellFormed .statement
  | .loop _ condition body => condition.WellFormed .operand ∧ body.WellFormed .statement
  | .binary _ operator left right =>
      IsOperator .binary operator ∧ left.WellFormed .operand ∧ right.WellFormed .operand
  | .unary _ operator operand => IsOperator .unary operator ∧ operand.WellFormed .operand
  | .literal _ text => IsLiteral text
  | .identifier _ name => IsName name
  | .call _ name arguments => IsName name ∧ WellFormedAll .operand arguments
  | .empty _ => place = .statement

@[simp] def WellFormedAll (place : Place) : List Expr → Prop
  | [] => True
  | first :: others => first.WellFormed place ∧ WellFormedAll place others

end

def Program.WellFormed (program : Program) : Prop := WellFormedAll .statement program.statements

theorem well_formed_statement {expr : Expr} (operand : expr.WellFormed .operand) :
    expr.WellFormed .statement := by
  cases expr with
  | empty line => cases operand
  | declare line name initializer => cases initializer <;> exact operand
  | branch line condition thenBranch elseBranch =>
      cases elseBranch <;> exact operand
  | _ => exact operand

theorem well_formed_operand {expr : Expr} (statement : expr.WellFormed .statement)
    (nonempty : ∀ line, expr ≠ .empty line) : expr.WellFormed .operand := by
  cases expr with
  | empty line => exact absurd rfl (nonempty line)
  | declare line name initializer => cases initializer <;> exact statement
  | branch line condition thenBranch elseBranch =>
      cases elseBranch <;> exact statement
  | _ => exact statement

theorem well_formed_of_all {place : Place} {exprs : List Expr} (wellFormed : WellFormedAll place exprs) :
    ∀ expr ∈ exprs, ∃ place, Expr.WellFormed place expr := by
  induction exprs with
  | nil => simp
  | cons first others ih =>
      exact List.forall_mem_cons.mpr ⟨⟨place, wellFormed.1⟩, ih wellFormed.2⟩

theorem parts_well_formed (expr : Expr) (place : Place) (wellFormed : expr.WellFormed place) :
    ∀ part ∈ expr.parts, ∃ place, part.WellFormed place := by
  cases expr with
  | block _ statements => exact well_formed_of_all wellFormed
  | declare _ _ initializer =>
      cases initializer with
      | none => simp
      | some initializer => simpa using ⟨_, wellFormed.2⟩
  | branch _ condition thenBranch elseBranch =>
      cases elseBranch with
      | none => simpa using ⟨⟨_, wellFormed.1⟩, _, wellFormed.2⟩
      | some elseBranch =>
          simpa using ⟨⟨_, wellFormed.1⟩, ⟨_, wellFormed.2.1⟩, _, wellFormed.2.2⟩
  | loop _ _ _ => simpa using ⟨⟨_, wellFormed.1⟩, _, wellFormed.2⟩
  | binary _ _ _ _ => simpa using ⟨⟨_, wellFormed.2.1⟩, _, wellFormed.2.2⟩
  | unary _ _ _ => simpa using ⟨_, wellFormed.2⟩
  | call _ _ arguments => exact well_formed_of_all wellFormed.2
  | literal _ _ | identifier _ _ | empty _ => simp

theorem nodes_well_formed {exprs : List Expr} (wellFormed : ∀ expr ∈ exprs, ∃ place, Expr.WellFormed place expr) :
    ∀ node ∈ nodesOfAll exprs, ∃ place, Expr.WellFormed place node := by
  induction exprs using parts_induction with
  | nil => exact List.forall_mem_nil _
  | cons first others inParts inOthers =>
      obtain ⟨⟨place, here⟩, further⟩ := List.forall_mem_cons.mp wellFormed
      rw [nodesOfAll, nodes_of_parts, List.cons_append, List.forall_mem_cons, List.forall_mem_append]
      exact ⟨⟨place, here⟩, inParts (parts_well_formed first place here), inOthers further⟩

def parenthesized (inside : List Lexeme) : List Lexeme :=
  ⟨.separator, "("⟩ :: inside ++ [⟨.separator, ")"⟩]

def Expr.ended (statement : Expr) (inside : List Lexeme) : List Lexeme :=
  match statement with
  | .empty _ => [⟨.separator, ";"⟩]
  | _ => parenthesized inside ++ [⟨.separator, ";"⟩]

theorem ended_cases (statement : Expr) (inside : List Lexeme) :
    (∃ line, statement = .empty line ∧ statement.ended inside = [⟨.separator, ";"⟩]) ∨
      (∀ line, statement ≠ .empty line) ∧
        statement.ended inside = parenthesized inside ++ [⟨.separator, ";"⟩] := by
  cases statement with
  | empty line => exact .inl ⟨line, rfl, rfl⟩
  | _ => exact .inr ⟨nofun, rfl⟩

-- The lexemes of a tree by itself; where the tree stands they are put in parentheses. Arguments come
-- with the parenthesis that closes them.
mutual

def Expr.lexemes : Expr → List Lexeme
  | .block _ statements =>
      ⟨.separator, "\x7b"⟩ :: lexemesOfStatements statements ++ [⟨.separator, "\x7d"⟩]
  | .declare _ name none => [⟨.keyword, "let"⟩, ⟨.identifier, name⟩]
  | .declare _ name (some initializer) =>
      ⟨.keyword, "let"⟩ :: ⟨.identifier, name⟩ :: ⟨.operator, "="⟩ :: parenthesized initializer.lexemes
  | .branch _ condition thenBranch none =>
      ⟨.keyword, "if"⟩ :: parenthesized (parenthesized condition.lexemes) ++
        thenBranch.ended thenBranch.lexemes
  | .branch _ condition thenBranch (some elseBranch) =>
      ⟨.keyword, "if"⟩ :: parenthesized (parenthesized condition.lexemes) ++
        thenBranch.ended thenBranch.lexemes ++
        ⟨.keyword, "else"⟩ :: elseBranch.ended elseBranch.lexemes
  | .loop _ condition body =>
      ⟨.keyword, "while"⟩ :: parenthesized (parenthesized condition.lexemes) ++ body.ended body.lexemes
  | .binary _ operator left right =>
      parenthesized left.lexemes ++ ⟨.operator, operator⟩ :: parenthesized right.lexemes
  | .unary _ operator operand => ⟨.operator, operator⟩ :: parenthesized operand.lexemes
  | .literal _ text => [⟨.literal, text⟩]
  | .identifier _ name => [⟨.identifier, name⟩]
  | .call _ name arguments =>
      ⟨.identifier, name⟩ :: ⟨.separator, "("⟩ :: lexemesOfArguments arguments
  | .empty _ => []

def lexemesOfStatements : List Expr → List Lexeme
  | [] => []
  | first :: others => first.ended first.lexemes ++ lexemesOfStatements others

def lexemesOfArguments : List Expr → List Lexeme
  | [] => [⟨.separator, ")"⟩]
  | [last] => parenthesized last.lexemes ++ [⟨.separator, ")"⟩]
  | first :: second :: others =>
      parenthesized first.lexemes ++ ⟨.separator, ","⟩ :: lexemesOfArguments (second :: others)

end

def Program.lexemes (program : Program) : List Lexeme := lexemesOfStatements program.statements

def Program.spelling (program : Program) : String :=
  " ".intercalate (program.lexemes.map Lexeme.text)

theorem intercalate_spells (lexemes : List Lexeme) :
    Spells (" ".intercalate (lexemes.map Lexeme.text)).toList lexemes := by
  induction lexemes with
  | nil => exact .none
  | cons first others ih =>
      cases others with
      | nil => simpa using Spells.last first
      | cons second others =>
          have spelled := Spells.next first second others [' '] _ (by simp)
            (List.forall_mem_singleton.mpr rfl) ih
          simpa [String.intercalate_cons_cons] using spelled

theorem written_separator (c : Char) (separates : isSeparator c = true) :
    Lexeme.IsWritten ⟨.separator, String.ofList [c]⟩ := by
  have found : scanPiece c [] = .ok ⟨.separator, [c], []⟩ := by
    simp only [isSeparator, decide_eq_true_eq, List.mem_cons, List.not_mem_nil, or_false] at separates
    rcases separates with rfl | rfl | rfl | rfl | rfl | rfl <;> rfl
  exact ⟨scanned_alone .separator c [] found, rfl⟩

theorem written_keyword (word : String) (known : word ∈ keywords) :
    Lexeme.IsWritten ⟨.keyword, word⟩ := by
  simp only [keywords, List.mem_cons, List.not_mem_nil, or_false] at known
  rcases known with rfl | rfl | rfl | rfl
  · exact ⟨scanned_alone .keyword 'l' ['e', 't'] rfl, rfl⟩
  · exact ⟨scanned_alone .keyword 'i' ['f'] rfl, rfl⟩
  · exact ⟨scanned_alone .keyword 'e' ['l', 's', 'e'] rfl, rfl⟩
  · exact ⟨scanned_alone .keyword 'w' ['h', 'i', 'l', 'e'] rfl, rfl⟩

theorem written_operator {arity : Arity} {text : String} (known : IsOperator arity text) :
    Lexeme.IsWritten ⟨.operator, text⟩ := by
  obtain ⟨operator, found⟩ := known
  obtain ⟨inTable, -, rfl⟩ := find_eq_some found
  have alone : ∀ operator ∈ Operator.table,
      (operator.lexeme.toList.head?.bind fun c =>
        (scanPiece c operator.lexeme.toList.tail).toOption) =
          some ⟨.operator, operator.lexeme.toList, []⟩ := by decide
  have scans := alone operator inTable
  match chars : operator.lexeme.toList with
  | [] =>
      rw [chars] at scans
      cases scans
  | c :: tail =>
      rw [chars, List.head?_cons, Option.bind_some, List.tail_cons] at scans
      have found : scanPiece c tail = .ok ⟨.operator, c :: tail, []⟩ := by
        cases answer : scanPiece c tail with
        | error fault =>
            rw [answer] at scans
            cases scans
        | ok piece =>
            rw [answer] at scans
            cases scans
            rfl
      have written := scanned_alone .operator c tail found
      rw [← chars, String.ofList_toList] at written
      exact ⟨written, rfl⟩

theorem written_parenthesized {inside : List Lexeme} (written : ∀ lexeme ∈ inside, lexeme.IsWritten) :
    ∀ lexeme ∈ parenthesized inside, lexeme.IsWritten := by
  simp only [parenthesized, List.cons_append, List.forall_mem_cons, List.forall_mem_append]
  exact ⟨written_separator '(' rfl, written, written_separator ')' rfl, by simp⟩

theorem written_ended {inside : List Lexeme} (statement : Expr)
    (written : ∀ lexeme ∈ inside, lexeme.IsWritten) :
    ∀ lexeme ∈ statement.ended inside, lexeme.IsWritten := by
  have semicolon := written_separator ';' rfl
  rcases ended_cases statement inside with ⟨_, rfl, alone⟩ | ⟨-, apart⟩
  · rw [alone, List.forall_mem_singleton]
    exact semicolon
  · rw [apart, List.forall_mem_append, List.forall_mem_singleton]
    exact ⟨written_parenthesized written, semicolon⟩

mutual

theorem lexemes_written (expr : Expr) (place : Place) (wellFormed : expr.WellFormed place) :
    ∀ lexeme ∈ expr.lexemes, lexeme.IsWritten := by
  match expr with
  | .block _ statements =>
      simp only [Expr.lexemes, List.cons_append, List.forall_mem_cons, List.forall_mem_append]
      exact ⟨written_separator '\x7b' rfl, statements_written statements wellFormed,
        written_separator '\x7d' rfl, by simp⟩
  | .declare _ name none =>
      simp only [Expr.lexemes, List.forall_mem_cons]
      exact ⟨written_keyword "let" (by decide), ⟨wellFormed, rfl⟩, by simp⟩
  | .declare _ name (some initializer) =>
      simp only [Expr.lexemes, List.forall_mem_cons]
      exact ⟨written_keyword "let" (by decide), ⟨wellFormed.1, rfl⟩,
        written_operator ⟨_, (rfl : Operator.find? "=" .binary = _)⟩,
        written_parenthesized (lexemes_written initializer .operand wellFormed.2)⟩
  | .branch _ condition thenBranch none =>
      simp only [Expr.lexemes, List.cons_append, List.forall_mem_cons, List.forall_mem_append]
      exact ⟨written_keyword "if" (by decide), written_parenthesized (written_parenthesized
        (lexemes_written condition .operand wellFormed.1)),
        written_ended thenBranch (lexemes_written thenBranch .statement wellFormed.2)⟩
  | .branch _ condition thenBranch (some elseBranch) =>
      simp only [Expr.lexemes, List.cons_append, List.forall_mem_cons, List.forall_mem_append]
      exact ⟨written_keyword "if" (by decide), ⟨written_parenthesized (written_parenthesized
        (lexemes_written condition .operand wellFormed.1)),
        written_ended thenBranch (lexemes_written thenBranch .statement wellFormed.2.1)⟩,
        written_keyword "else" (by decide),
        written_ended elseBranch (lexemes_written elseBranch .statement wellFormed.2.2)⟩
  | .loop _ condition body =>
      simp only [Expr.lexemes, List.cons_append, List.forall_mem_cons, List.forall_mem_append]
      exact ⟨written_keyword "while" (by decide), written_parenthesized (written_parenthesized
        (lexemes_written condition .operand wellFormed.1)),
        written_ended body (lexemes_written body .statement wellFormed.2)⟩
  | .binary _ operator left right =>
      simp only [Expr.lexemes, List.forall_mem_cons, List.forall_mem_append]
      exact ⟨written_parenthesized (lexemes_written left .operand wellFormed.2.1),
        written_operator wellFormed.1,
        written_parenthesized (lexemes_written right .operand wellFormed.2.2)⟩
  | .unary _ operator operand =>
      simp only [Expr.lexemes, List.forall_mem_cons]
      exact ⟨written_operator wellFormed.1,
        written_parenthesized (lexemes_written operand .operand wellFormed.2)⟩
  | .literal _ text =>
      simp only [Expr.lexemes, List.forall_mem_singleton]
      exact ⟨wellFormed, rfl⟩
  | .identifier _ name =>
      simp only [Expr.lexemes, List.forall_mem_singleton]
      exact ⟨wellFormed, rfl⟩
  | .call _ name arguments =>
      simp only [Expr.lexemes, List.forall_mem_cons]
      exact ⟨⟨wellFormed.1, rfl⟩, written_separator '(' rfl, arguments_written arguments wellFormed.2⟩
  | .empty _ => simp [Expr.lexemes]

theorem statements_written (exprs : List Expr) (wellFormed : WellFormedAll .statement exprs) :
    ∀ lexeme ∈ lexemesOfStatements exprs, lexeme.IsWritten := by
  match exprs with
  | [] => simp [lexemesOfStatements]
  | first :: others =>
      simp only [lexemesOfStatements, List.forall_mem_append]
      exact ⟨written_ended first (lexemes_written first .statement wellFormed.1),
        statements_written others wellFormed.2⟩

theorem arguments_written (exprs : List Expr) (wellFormed : WellFormedAll .operand exprs) :
    ∀ lexeme ∈ lexemesOfArguments exprs, lexeme.IsWritten := by
  match exprs with
  | [] =>
      simp only [lexemesOfArguments, List.forall_mem_singleton]
      exact written_separator ')' rfl
  | [last] =>
      simp only [lexemesOfArguments, List.forall_mem_append, List.forall_mem_singleton]
      exact ⟨written_parenthesized (lexemes_written last .operand wellFormed.1),
        written_separator ')' rfl⟩
  | first :: second :: others =>
      simp only [lexemesOfArguments, List.forall_mem_append, List.forall_mem_cons]
      exact ⟨written_parenthesized (lexemes_written first .operand wellFormed.1),
        written_separator ',' rfl, arguments_written (second :: others) wellFormed.2⟩

end

theorem spelling_scanned (program : Program) (wellFormed : program.WellFormed) :
    ∃ tokens : List Token, tokenize program.spelling = .ok tokens ∧
      (tokens.filter Token.isSignificant).map Token.toLexeme = program.lexemes := by
  obtain ⟨tokens, items, spelled⟩ := items_of_spells _ program.lexemes 1
    (intercalate_spells program.lexemes) (statements_written program.statements wellFormed)
  refine ⟨tokens, ?_, spelled⟩
  have scanner : (Scanner.ofSource program.spelling).items = tokens.map .ok := items
  rw [tokenize, scanner, map_m_of_map_ok]

end Scriptlet
