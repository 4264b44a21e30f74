import Mathlib.Data.List.Forall2
import Scriptlet.Proofs.Expr.Spelling
import Scriptlet.Proofs.Grammar.Derivation

set_option autoImplicit false

namespace Scriptlet

open Grammar

-- A part of a tree. The line is that of the node, if the part is what introduces it.
structure Mark extends Lexeme where
  line : Option Nat := none
deriving DecidableEq, Repr

namespace Mark

def keyword (text : String) (line : Option Nat) : Mark := ⟨⟨.keyword, text⟩, line⟩

def operator (text : String) (line : Option Nat) : Mark := ⟨⟨.operator, text⟩, line⟩

def name (text : String) (line : Option Nat) : Mark := ⟨⟨.identifier, text⟩, line⟩

def literal (text : String) (line : Option Nat) : Mark := ⟨⟨.literal, text⟩, line⟩

def Fits (mark : Mark) (token : Token) : Prop :=
  mark.toLexeme = token.toLexeme ∧ ∀ line ∈ mark.line, line = token.line

end Mark

mutual

def Expr.listing : Expr → List Mark
  | .block _ statements => listingOfAll statements
  | .declare line name none => [.keyword "let" line, .name name none]
  | .declare line name (some initializer) =>
      .keyword "let" line :: .name name none :: .operator "=" none :: initializer.listing
  | .branch line condition thenBranch none =>
      .keyword "if" line :: condition.listing ++ thenBranch.listing
  | .branch line condition thenBranch (some elseBranch) =>
      .keyword "if" line :: condition.listing ++ thenBranch.listing ++
        .keyword "else" none :: elseBranch.listing
  | .loop line condition body => .keyword "while" line :: condition.listing ++ body.listing
  | .binary line operator left right => left.listing ++ .operator operator line :: right.listing
  | .unary line operator operand => .operator operator line :: operand.listing
  | .literal line text => [.literal text line]
  | .identifier line name => [.name name line]
  | .call line name arguments => .name name line :: listingOfAll arguments
  | .empty _ => []

def listingOfAll : List Expr → List Mark
  | [] => []
  | first :: others => first.listing ++ listingOfAll others

end

def Program.listing (program : Program) : List Mark := listingOfAll program.statements

def Grammar.Phrase.listing : Phrase → List Mark
  | .statements read => listingOfAll read
  | .statement read => read.listing
  | .expression read => read.listing
  | .primary read => read.listing
  | .arguments read => listingOfAll read

def withoutSeparators (tokens : List Token) : List Token :=
  tokens.filter fun token => token.kind ≠ .separator

section Tokens

variable {tokens front back : List Token} {token : Token} {marks more : List Mark}

def Lists (marks : List Mark) (tokens : List Token) : Prop :=
  List.Forall₂ Mark.Fits marks (withoutSeparators tokens)

theorem lists_nil : Lists [] [] := .nil

theorem lists_append (first : Lists marks front) (second : Lists more back) :
    Lists (marks ++ more) (front ++ back) := by
  unfold Lists withoutSeparators
  rw [List.filter_append]
  exact List.rel_append first second

theorem lists_token (mark : Mark) (lexeme : token.toLexeme = mark.toLexeme)
    (kind : mark.kind ≠ .separator) (lines : ∀ line ∈ mark.line, line = token.line)
    (others : Lists marks tokens) : Lists (mark :: marks) (token :: tokens) := by
  have listed : token.kind ≠ .separator := by rwa [lexeme]
  unfold Lists withoutSeparators
  rw [List.filter_cons_of_pos (by simpa using listed)]
  exact .cons ⟨lexeme.symm, lines⟩ others

theorem lists_separator (c : Char) (separates : isSeparator c = true) (written : token.toLexeme.IsWritten)
    (text : token.text = String.ofList [c]) (others : Lists marks tokens) :
    Lists marks (token :: tokens) := by
  have same := written_unique written (written_separator c separates) text
  have kind : token.kind = .separator := congrArg Lexeme.kind same
  unfold Lists withoutSeparators
  rw [List.filter_cons_of_neg (by simp [kind])]
  exact others

theorem lists_closed (c : Char) (separates : isSeparator c = true) (written : token.toLexeme.IsWritten)
    (text : token.text = String.ofList [c]) (before : Lists marks tokens) :
    Lists marks (tokens ++ [token]) := by
  have closed := lists_append before (lists_separator c separates written text lists_nil)
  rwa [List.append_nil] at closed

theorem lists_keyword (word : String) (known : word ∈ keywords) (line : Option Nat)
    (written : token.toLexeme.IsWritten) (text : token.text = word)
    (lines : ∀ number ∈ line, number = token.line) (others : Lists marks tokens) :
    Lists (.keyword word line :: marks) (token :: tokens) :=
  lists_token _ (written_unique written (written_keyword word known) text) (nomatch ·) lines others

theorem lists_operator {arity : Arity} {operator : Operator} (kind : token.kind = .operator)
    (known : Operator.find? token.text arity = some operator) (others : Lists marks tokens) :
    Lists (.operator operator.lexeme (some token.line) :: marks) (token :: tokens) := by
  obtain ⟨-, -, text⟩ := find_eq_some known
  have lexeme : token.toLexeme = ⟨.operator, operator.lexeme⟩ := by rw [← kind, text]
  exact lists_token _ lexeme (nomatch ·) (by simp [Mark.operator]) others

theorem lists_name (line : Option Nat) (kind : token.kind = .identifier)
    (lines : ∀ number ∈ line, number = token.line) (others : Lists marks tokens) :
    Lists (.name token.text line :: marks) (token :: tokens) := by
  have lexeme : token.toLexeme = ⟨.identifier, token.text⟩ := by rw [← kind]
  exact lists_token _ lexeme (nomatch ·) lines others

end Tokens

theorem derives_listing {tokens : List Token} {phrase : Phrase} (derives : Derives tokens phrase)
    (written : ∀ token ∈ tokens, token.toLexeme.IsWritten) : Lists phrase.listing tokens := by
  induction derives with
  | noStatements => exact lists_nil
  | moreStatements read continues ih ihOthers =>
      rw [List.forall_mem_append] at written
      simp only [Phrase.listing, listingOfAll]
      exact lists_append (ih written.1) (ihOthers written.2)
  | lone semicolon text =>
      rw [List.forall_mem_singleton] at written
      simp only [Phrase.listing, Expr.listing]
      exact lists_separator ';' rfl written text lists_nil
  | unended read ih => exact ih written
  | ended read semicolon text ih =>
      rw [List.forall_mem_append, List.forall_mem_singleton] at written
      exact lists_closed ';' rfl written.2 text (ih written.1)
  | unsigned read ih => exact ih written
  | signed sign kind known read ih =>
      rw [List.forall_mem_cons] at written
      simp only [Phrase.listing, Expr.listing]
      exact lists_operator kind known (ih written.2)
  | joined token kind known before behind ihLeft ihRight =>
      rw [List.forall_mem_append, List.forall_mem_cons] at written
      simp only [Phrase.listing, Expr.listing]
      exact lists_append (ihLeft written.1) (lists_operator kind known (ihRight written.2.2))
  | name token kind =>
      simp only [Phrase.listing, Expr.listing]
      exact lists_name (some token.line) kind (by simp) lists_nil
  | call token opening kind opens read ih =>
      rw [List.forall_mem_cons, List.forall_mem_cons] at written
      simp only [Phrase.listing, Expr.listing]
      exact lists_name (some token.line) kind (by simp)
        (lists_separator '(' rfl written.2.1 opens (ih written.2.2))
  | parenthesized opening closing opens closes read ih =>
      rw [List.cons_append, List.forall_mem_cons, List.forall_mem_append, List.forall_mem_singleton]
        at written
      exact lists_separator '(' rfl written.1 opens
        (lists_closed ')' rfl written.2.2 closes (ih written.2.1))
  | literal token kind =>
      simp only [Phrase.listing, Expr.listing]
      have lexeme : token.toLexeme = ⟨.literal, token.text⟩ := by rw [← kind]
      exact lists_token _ lexeme (nomatch ·) (by simp [Mark.literal]) lists_nil
  | declare keyword name declares kind =>
      rw [List.forall_mem_cons] at written
      simp only [Phrase.listing, Expr.listing]
      exact lists_keyword "let" (by decide) _ written.1 declares (by simp)
        (lists_name none kind (by simp) lists_nil)
  | initialized keyword name equals declares kind gives read ih =>
      rw [List.forall_mem_cons, List.forall_mem_cons, List.forall_mem_cons] at written
      simp only [Phrase.listing, Expr.listing]
      have equality : equals.toLexeme = ⟨.operator, "="⟩ := written_unique written.2.2.1
        (written_operator ⟨_, (rfl : Operator.find? "=" .binary = _)⟩) gives
      exact lists_keyword "let" (by decide) _ written.1 declares (by simp)
        (lists_name none kind (by simp)
          (lists_token _ equality (nomatch ·) (by simp [Mark.operator]) (ih written.2.2.2)))
  | branch keyword opening closing branches opens closes test read ihTest ihThen =>
      simp only [List.cons_append, List.forall_mem_cons, List.forall_mem_append] at written
      simp only [Phrase.listing, Expr.listing]
      exact lists_keyword "if" (by decide) _ written.1 branches (by simp)
        (lists_separator '(' rfl written.2.1 opens (lists_append (ihTest written.2.2.1)
          (lists_separator ')' rfl written.2.2.2.1 closes (ihThen written.2.2.2.2))))
  | alternative keyword opening closing separating branches opens closes separates test read other
      ihTest ihThen ihElse =>
      simp only [List.cons_append, List.append_assoc, List.forall_mem_cons, List.forall_mem_append]
        at written
      obtain ⟨isKeyword, opened, tested, closed, thens, separated, elses⟩ := written
      simp only [Phrase.listing, Expr.listing, List.cons_append, List.append_assoc]
      exact lists_keyword "if" (by decide) _ isKeyword branches (by simp)
        (lists_separator '(' rfl opened opens (lists_append (ihTest tested)
          (lists_separator ')' rfl closed closes (lists_append (ihThen thens)
            (lists_keyword "else" (by decide) none separated separates (by simp) (ihElse elses))))))
  | loop keyword opening closing loops opens closes test read ihTest ihBody =>
      simp only [List.cons_append, List.forall_mem_cons, List.forall_mem_append] at written
      simp only [Phrase.listing, Expr.listing]
      exact lists_keyword "while" (by decide) _ written.1 loops (by simp)
        (lists_separator '(' rfl written.2.1 opens (lists_append (ihTest written.2.2.1)
          (lists_separator ')' rfl written.2.2.2.1 closes (ihBody written.2.2.2.2))))
  | block opening closing opens closes read ih =>
      rw [List.cons_append, List.forall_mem_cons, List.forall_mem_append, List.forall_mem_singleton]
        at written
      simp only [Phrase.listing, Expr.listing]
      exact lists_separator '\x7b' rfl written.1 opens
        (lists_closed '\x7d' rfl written.2.2 closes (ih written.2.1))
  | noArguments closing closes =>
      rw [List.forall_mem_singleton] at written
      exact lists_separator ')' rfl written closes lists_nil
  | lastArgument closing closes read ih =>
      rw [List.forall_mem_append, List.forall_mem_singleton] at written
      simp only [Phrase.listing, listingOfAll, List.append_nil]
      exact lists_closed ')' rfl written.2 closes (ih written.1)
  | moreArguments comma separates read continues ih ihOthers =>
      rw [List.forall_mem_append, List.forall_mem_cons] at written
      simp only [Phrase.listing, listingOfAll]
      exact lists_append (ih written.1)
        (lists_separator ',' rfl written.2.1 separates (ihOthers written.2.2))

/-- The listing of a program that is read from a source consists of the lexemes of its tokens, without
trivia and separators, and every node has the line of the token that it comes from. -/
theorem program_lists_tokens (source : String) (tokens : List Token) (program : Program)
    (scanned : tokenize source = .ok tokens) (read : Program.ofTokens tokens = .ok program) :
    program.listing.map Mark.toLexeme =
        (withoutSeparators (tokens.filter Token.isSignificant)).map Token.toLexeme ∧
      List.Forall₂ (fun mark token => ∀ line ∈ mark.line, line = token.line) program.listing
        (withoutSeparators (tokens.filter Token.isSignificant)) := by
  have written : ∀ token ∈ tokens.filter Token.isSignificant, token.toLexeme.IsWritten := by
    intro token member
    obtain ⟨inTokens, significant⟩ := List.mem_filter.mp member
    exact ⟨⟨source, tokens, scanned, token, inTokens, rfl⟩, by simpa [Token.isSignificant] using significant⟩
  have lists : List.Forall₂ Mark.Fits program.listing _ :=
    derives_listing (program_derives tokens program read) written
  refine ⟨?_, lists.imp fun _ _ fits => fits.2⟩
  rw [← List.forall₂_eq_eq_eq, List.forall₂_map_left_iff, List.forall₂_map_right_iff]
  exact lists.imp fun _ _ fits => fits.1

-- The tokens of `if(!a)f(2);` and, on the next line, `else let b=a+1;`.
def sampleTokens : List Token :=
  [⟨⟨.keyword, "if"⟩, 1⟩, ⟨⟨.separator, "("⟩, 1⟩, ⟨⟨.operator, "!"⟩, 1⟩, ⟨⟨.identifier, "a"⟩, 1⟩,
    ⟨⟨.separator, ")"⟩, 1⟩, ⟨⟨.identifier, "f"⟩, 1⟩, ⟨⟨.separator, "("⟩, 1⟩, ⟨⟨.literal, "2"⟩, 1⟩,
    ⟨⟨.separator, ")"⟩, 1⟩, ⟨⟨.separator, ";"⟩, 1⟩, ⟨⟨.whitespace, "\n"⟩, 1⟩, ⟨⟨.keyword, "else"⟩, 2⟩,
    ⟨⟨.whitespace, " "⟩, 2⟩, ⟨⟨.keyword, "let"⟩, 2⟩, ⟨⟨.whitespace, " "⟩, 2⟩, ⟨⟨.identifier, "b"⟩, 2⟩,
    ⟨⟨.operator, "="⟩, 2⟩, ⟨⟨.identifier, "a"⟩, 2⟩, ⟨⟨.operator, "+"⟩, 2⟩, ⟨⟨.literal, "1"⟩, 2⟩,
    ⟨⟨.separator, ";"⟩, 2⟩]

def sampleTree : Program :=
  ⟨[.branch 1 (.unary 1 "!" (.identifier 1 "a")) (.call 1 "f" [.literal 1 "2"])
    (some (.declare 2 "b" (some (.binary 2 "+" (.identifier 2 "a") (.literal 2 "1")))))]⟩

theorem sample_source_listed :
    tokenize "if(!a)f(2);\nelse let b=a+1;" = .ok sampleTokens ∧
      Program.ofTokens sampleTokens = .ok sampleTree ∧
      sampleTree.listing.map Mark.toLexeme =
        (withoutSeparators (sampleTokens.filter Token.isSignificant)).map Token.toLexeme ∧
      (sampleTree.listing.map fun mark => (mark.text, mark.line)) =
        [("if", some 1), ("!", some 1), ("a", some 1), ("f", some 1), ("2", some 1), ("else", none),
          ("let", some 2), ("b", none), ("=", none), ("a", some 2), ("+", some 2), ("1", some 2)] := by
  have scanned : tokenize "if(!a)f(2);\nelse let b=a+1;" = .ok sampleTokens := by decide +kernel
  have read : Program.ofTokens sampleTokens = .ok sampleTree := rfl
  obtain ⟨listed, -⟩ := program_lists_tokens _ _ _ scanned read
  exact ⟨scanned, read, listed, by decide⟩

end Scriptlet
