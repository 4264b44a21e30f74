import Scriptlet.Proofs.Grammar.Production
import Scriptlet.Proofs.Grammar.RoundTrip

set_option autoImplicit false

namespace Scriptlet.Grammar

inductive Enclosed (inside : List Token) : List Token → Prop where
  | bare : Enclosed inside inside
  | pair (opening closing : Token) {tokens : List Token} (opens : opening.toLexeme = ⟨.separator, "("⟩)
      (closes : closing.toLexeme = ⟨.separator, ")"⟩) (within : Enclosed inside tokens) :
      Enclosed inside (opening :: (tokens ++ [closing]))

def ReadsBeforeCloser (tokens : List Token) (expr : Expr) : Prop :=
  ∀ (endLine : Nat) (closer : Token) (rest : List Token), IsCloser closer →
    Reads (expression endLine · (tokens.filter Token.isSignificant ++ closer :: rest))
      (some (expr, closer :: rest))

theorem behind_closer {closer : Token} (rest : List Token) (closes : IsCloser closer) :
    Behind binaryGroups (closer :: rest) := by
  apply behind_separator closer rest closes.1
  intro opens
  exact absurd closes.2 (by simp [opens])

section Pair

variable {opening closing : Token} {tokens : List Token} {expr : Expr}
  (opens : opening.toLexeme = ⟨.separator, "("⟩) (closes : closing.toLexeme = ⟨.separator, ")"⟩)
include opens closes

theorem significant_pair :
    (opening :: (tokens ++ [closing])).filter Token.isSignificant =
      opening :: (tokens.filter Token.isSignificant ++ [closing]) := by
  have significant : ∀ token : Token, token.kind = .separator → token.isSignificant = true := by
    intro token kind
    simp [Token.isSignificant, kind, TokenKind.isTrivia]
  have opensKind : opening.kind = .separator := congrArg Lexeme.kind opens
  have closesKind : closing.kind = .separator := congrArg Lexeme.kind closes
  rw [List.filter_cons_of_pos (significant opening opensKind), List.filter_append,
    List.filter_cons_of_pos (significant closing closesKind)]
  rfl

theorem pair_not_ended : accept ";" ((opening :: (tokens ++ [closing])).filter Token.isSignificant) = none := by
  have opensText : opening.text = "(" := congrArg Lexeme.text opens
  rw [significant_pair opens closes]
  simp [opensText]

theorem pair_reads (reads : ReadsBeforeCloser tokens expr) (endLine : Nat) (rest : List Token)
    (behind : Behind binaryGroups rest) :
    Reads (expression endLine · ((opening :: (tokens ++ [closing])).filter Token.isSignificant ++ rest))
      (some (expr, rest)) := by
  have opensKind : opening.kind = .separator := congrArg Lexeme.kind opens
  have inner := primary_reads_parenthesized opens closes (reads endLine closing rest (closing_closes closes))
  rw [significant_pair opens closes, List.cons_append, List.append_assoc, List.singleton_append]
  exact expression_of_primary (by simp [opensKind]) inner behind

end Pair

theorem enclosed_before_closer {inside tokens : List Token} {expr : Expr} (within : Enclosed inside tokens)
    (reads : ReadsBeforeCloser inside expr) : ReadsBeforeCloser tokens expr := by
  induction within with
  | bare => exact reads
  | pair opening closing opens closes within ih =>
      intro endLine closer rest isCloser
      exact pair_reads opens closes ih endLine _ (behind_closer rest isCloser)

theorem statements_of_expression {endLine : Nat} {tokens : List Token} {expr : Expr}
    (starts : accept ";" tokens = none) (read : Reads (expression endLine · tokens) (some (expr, []))) :
    Reads (statements endLine · tokens) ([expr], []) := by
  have first : Reads (statement endLine · tokens) (some (expr, [])) := by
    apply reads_succ
    simp only [statement, starts]
    exact reads_bind read (reads_ok _)
  have nothing : Reads (statements endLine · []) ([], []) := by
    apply reads_succ
    exact reads_bind (statement_none endLine [] (.inl rfl)) (reads_ok _)
  apply reads_succ
  simp only [statements]
  exact reads_bind first (reads_bind nothing (reads_ok _))

theorem expression_none_at_semicolon (endLine : Nat) {semicolon : Token} (rest : List Token)
    (same : semicolon.toLexeme = ⟨.separator, ";"⟩) :
    Reads (expression endLine · (semicolon :: rest)) none := by
  have kind : semicolon.kind = .separator := congrArg Lexeme.kind same
  have text : semicolon.text = ";" := congrArg Lexeme.text same
  apply expression_of_nothing
  · simp [kind]
  · apply reads_succ
    simp only [primary, kind, text, reduceCtorEq, String.reduceEq, if_false]
    exact reads_ok none

theorem expression_not_ended {endLine : Nat} {tokens rest : List Token} {expr : Expr}
    (written : ∀ token ∈ tokens, token.toLexeme.IsWritten)
    (read : Reads (expression endLine · tokens) (some (expr, rest))) : accept ";" tokens = none := by
  cases accepted : accept ";" tokens with
  | none => rfl
  | some taken =>
      obtain ⟨rfl, text⟩ := accept_cons accepted
      have semicolon : taken.1.toLexeme = ⟨.separator, ";"⟩ :=
        written_unique (written taken.1 List.mem_cons_self) (written_separator ';' rfl) text
      have nothing := expression_none_at_semicolon endLine taken.2 semicolon
      exact absurd (reads_unique read nothing) (by simp)

end Grammar

open Grammar

/-- Parentheses around scanned tokens that are one expression change nothing, however many pairs there are and on
whatever lines they stand: what is read is the expression within them, as the one statement of a program. -/
theorem parentheses_invisible (source : String) (tokens enclosed : List Token) (expr : Expr) (behind : Cursor)
    (scanned : tokenize source = .ok tokens)
    (read : (Cursor.ofTokens tokens).expression? = .ok (some (expr, behind))) (all : behind.tokens = [])
    (within : Enclosed tokens enclosed) : Program.ofTokens enclosed = .ok ⟨[expr]⟩ := by
  apply program_of_reads
  cases within with
  | bare =>
      have reads := reads_of_expression read
      rw [all] at reads
      exact statements_of_expression (expression_not_ended (significant_written scanned) reads) reads
  | @pair opening closing inner opens closes within =>
      have inside : ReadsBeforeCloser tokens expr := fun endLine closer rest closes =>
        expression_before_closer (Cursor.ofTokens tokens) behind expr read all closer rest closes endLine
      have nothingBehind : Behind binaryGroups [] := ⟨rfl, fun _ _ => rfl⟩
      have reads := pair_reads opens closes (enclosed_before_closer within inside)
        (Cursor.ofTokens (opening :: (inner ++ [closing]))).endLine [] nothingBehind
      rw [List.append_nil] at reads
      exact statements_of_expression (pair_not_ended opens closes) reads

-- A loop that its own semicolon ends, an `else` behind it and a declaration that could go on.
def openTokens : List Token :=
  [⟨⟨.keyword, "if"⟩, 1⟩, ⟨⟨.separator, "("⟩, 1⟩, ⟨⟨.identifier, "a"⟩, 1⟩, ⟨⟨.separator, ")"⟩, 1⟩,
    ⟨⟨.keyword, "while"⟩, 1⟩, ⟨⟨.separator, "("⟩, 1⟩, ⟨⟨.identifier, "b"⟩, 1⟩, ⟨⟨.separator, ")"⟩, 1⟩,
    ⟨⟨.identifier, "c"⟩, 1⟩, ⟨⟨.separator, ";"⟩, 1⟩, ⟨⟨.whitespace, "\n"⟩, 1⟩, ⟨⟨.keyword, "else"⟩, 2⟩,
    ⟨⟨.whitespace, " "⟩, 2⟩, ⟨⟨.keyword, "let"⟩, 2⟩, ⟨⟨.whitespace, " "⟩, 2⟩, ⟨⟨.identifier, "d"⟩, 2⟩]

theorem open_branch_in_parentheses :
    tokenize "if(a)while(b)c;\nelse let d" = .ok openTokens ∧
      Program.ofTokens ([⟨⟨.separator, "("⟩, 7⟩, ⟨⟨.separator, "("⟩, 8⟩] ++ openTokens ++
        [⟨⟨.separator, ")"⟩, 5⟩, ⟨⟨.separator, ")"⟩, 9⟩]) =
        .ok ⟨[.branch 1 (.identifier 1 "a") (.loop 1 (.identifier 1 "b") (.identifier 1 "c"))
          (some (.declare 2 "d" none))]⟩ := by
  have scanned : tokenize "if(a)while(b)c;\nelse let d" = .ok openTokens := by decide +kernel
  have within : Enclosed openTokens ([⟨⟨.separator, "("⟩, 7⟩, ⟨⟨.separator, "("⟩, 8⟩] ++ openTokens ++
      [⟨⟨.separator, ")"⟩, 5⟩, ⟨⟨.separator, ")"⟩, 9⟩]) :=
    .pair _ _ rfl rfl (.pair _ _ rfl rfl .bare)
  exact ⟨scanned, parentheses_invisible _ openTokens _ _ ⟨[], 2⟩ scanned rfl rfl within⟩

end Scriptlet
