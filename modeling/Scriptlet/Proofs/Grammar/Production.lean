import Scriptlet.Proofs.Expr.Spelling
import Scriptlet.Proofs.Grammar.Derivation

/-!
The productions of the grammar and the tokens that they produce.

`Produces` rewrites the first of several symbols until it is a token. It leaves open which production is taken
and where a repetition ends, so a text may be produced in several ways. What a program is read from is
produced (`program_produced`).
-/

set_option autoImplicit false

namespace Scriptlet.Grammar

inductive Rule where
  | program
  | statement
  | expression
  | unary
  | primary
  | arguments
deriving DecidableEq, Repr

inductive Symbol where
  | lexeme (lexeme : Lexeme)
  | kind (kind : TokenKind)
  | operator (arity : Arity)
  | rule (rule : Rule)
  | optional (inner : List Symbol)
  | many (inner : List Symbol)

namespace Symbol

abbrev separator (text : String) : Symbol := .lexeme ⟨.separator, text⟩

abbrev keyword (text : String) : Symbol := .lexeme ⟨.keyword, text⟩

abbrev equals : Symbol := .lexeme ⟨.operator, "="⟩

end Symbol

@[simp] def productions : Rule → List (List Symbol)
  | .program => [[.many [.rule .statement]]]
  | .statement => [[.separator ";"], [.rule .expression, .optional [.separator ";"]]]
  | .expression => [[.rule .unary, .many [.operator .binary, .rule .unary]]]
  | .unary => [[.operator .unary, .rule .primary], [.rule .primary]]
  | .primary =>
      [ [.kind .identifier, .optional [.rule .arguments]],
        [.separator "(", .rule .expression, .separator ")"],
        [.kind .literal],
        [.keyword "let", .kind .identifier, .optional [.equals, .rule .expression]],
        [.keyword "if", .separator "(", .rule .expression, .separator ")", .rule .statement,
          .optional [.keyword "else", .rule .statement]],
        [.keyword "while", .separator "(", .rule .expression, .separator ")", .rule .statement],
        [.separator "\x7b", .many [.rule .statement], .separator "\x7d"] ]
  | .arguments =>
      [[.separator "(",
        .optional [.rule .expression, .many [.separator ",", .rule .expression],
          .optional [.separator ","]],
        .separator ")"]]

inductive Produces : List Symbol → List Token → Prop where
  | nothing : Produces [] []
  | lexeme {symbols : List Symbol} {tokens : List Token} {lexeme : Lexeme} (token : Token)
      (same : token.toLexeme = lexeme) (rest : Produces symbols tokens) :
      Produces (.lexeme lexeme :: symbols) (token :: tokens)
  | kind {symbols : List Symbol} {tokens : List Token} {kind : TokenKind} (token : Token)
      (same : token.kind = kind) (rest : Produces symbols tokens) :
      Produces (.kind kind :: symbols) (token :: tokens)
  | operator {symbols : List Symbol} {tokens : List Token} {arity : Arity} (token : Token)
      (kind : token.kind = .operator) (known : (Operator.find? token.text arity).isSome = true)
      (rest : Produces symbols tokens) : Produces (.operator arity :: symbols) (token :: tokens)
  | rule {symbols : List Symbol} {tokens : List Token} {rule : Rule} (production : List Symbol)
      (member : production ∈ productions rule) (rest : Produces (production ++ symbols) tokens) :
      Produces (.rule rule :: symbols) tokens
  | skip {symbols : List Symbol} {tokens : List Token} {inner : List Symbol}
      (rest : Produces symbols tokens) : Produces (.optional inner :: symbols) tokens
  | use {symbols : List Symbol} {tokens : List Token} {inner : List Symbol}
      (rest : Produces (inner ++ symbols) tokens) : Produces (.optional inner :: symbols) tokens
  | stop {symbols : List Symbol} {tokens : List Token} {inner : List Symbol}
      (rest : Produces symbols tokens) : Produces (.many inner :: symbols) tokens
  | again {symbols : List Symbol} {tokens : List Token} {inner : List Symbol}
      (rest : Produces (inner ++ .many inner :: symbols) tokens) : Produces (.many inner :: symbols) tokens

abbrev statementList : Symbol := .many [.rule .statement]

abbrev ending : Symbol := .optional [.separator ";"]

abbrev operations : Symbol := .many [.operator .binary, .rule .unary]

abbrev initializer : Symbol := .optional [.equals, .rule .expression]

abbrev alternative : Symbol := .optional [.keyword "else", .rule .statement]

abbrev furtherArguments : Symbol := .many [.separator ",", .rule .expression]

abbrev lastComma : Symbol := .optional [.separator ","]

abbrev argumentList : Symbol := .optional [.rule .expression, furtherArguments, lastComma]

def Phrase.Produced (tokens : List Token) : Phrase → Prop
  | .statements _ => ∀ symbols rest, Produces symbols rest →
      Produces (statementList :: symbols) (tokens ++ rest)
  | .statement _ => ∀ symbols rest, Produces symbols rest →
      Produces (.rule .statement :: symbols) (tokens ++ rest)
  | .expression _ => ∀ symbols rest, Produces (operations :: symbols) rest →
      Produces (.rule .unary :: operations :: symbols) (tokens ++ rest)
  | .primary _ => ∀ symbols rest, Produces symbols rest →
      Produces (.rule .primary :: symbols) (tokens ++ rest)
  | .arguments _ => ∀ symbols rest, Produces symbols rest →
      Produces (argumentList :: .separator ")" :: symbols) (tokens ++ rest) ∧
        ∀ comma : Token, comma.toLexeme = ⟨.separator, ","⟩ →
          Produces (furtherArguments :: lastComma :: .separator ")" :: symbols) (comma :: tokens ++ rest)

section Phrases

variable {symbols : List Symbol} {tokens rest : List Token} {token : Token}

theorem produces_expression (produced : Produces (.rule .unary :: operations :: symbols) tokens) :
    Produces (.rule .expression :: symbols) tokens :=
  .rule [.rule .unary, operations] (by simp) produced

theorem expression_in_front {expr : Expr} (produced : Phrase.Produced tokens (.expression expr))
    (behind : Produces symbols rest) : Produces (.rule .expression :: symbols) (tokens ++ rest) :=
  produces_expression (produced symbols rest (.stop behind))

theorem produces_separator (c : Char) (separates : isSeparator c = true)
    (written : token.toLexeme.IsWritten) (text : token.text = String.ofList [c])
    (behind : Produces symbols rest) :
    Produces (.separator (String.ofList [c]) :: symbols) (token :: rest) :=
  .lexeme token (written_unique written (written_separator c separates) text) behind

theorem produces_keyword (word : String) (known : word ∈ keywords) (written : token.toLexeme.IsWritten)
    (text : token.text = word) (behind : Produces symbols rest) :
    Produces (.keyword word :: symbols) (token :: rest) :=
  .lexeme token (written_unique written (written_keyword word known) text) behind

theorem produces_operator {arity : Arity} {operator : Operator} (kind : token.kind = .operator)
    (known : Operator.find? token.text arity = some operator) (behind : Produces symbols rest) :
    Produces (.operator arity :: symbols) (token :: rest) :=
  .operator token kind (by simp [known]) behind

end Phrases

theorem derives_produced {tokens : List Token} {phrase : Phrase} (derives : Derives tokens phrase)
    (written : ∀ token ∈ tokens, token.toLexeme.IsWritten) : phrase.Produced tokens := by
  induction derives with
  | noStatements =>
      intro symbols rest behind
      exact .stop behind
  | moreStatements read continues ih ihOthers =>
      rw [List.forall_mem_append] at written
      intro symbols rest behind
      rw [List.append_assoc]
      exact .again (ih written.1 _ _ (ihOthers written.2 _ _ behind))
  | lone semicolon text =>
      rw [List.forall_mem_singleton] at written
      intro symbols rest behind
      exact .rule [.separator ";"] (by simp)
        (produces_separator ';' rfl written text behind)
  | unended read ih =>
      intro symbols rest behind
      exact .rule [.rule .expression, ending] (by simp)
        (expression_in_front (ih written) (.skip behind))
  | ended read semicolon text ih =>
      rw [List.forall_mem_append, List.forall_mem_singleton] at written
      intro symbols rest behind
      rw [List.append_assoc]
      exact .rule [.rule .expression, ending] (by simp)
        (expression_in_front (ih written.1) (.use (produces_separator ';' rfl written.2 text behind)))
  | unsigned read ih =>
      intro symbols rest behind
      exact .rule [.rule .primary] (by simp) (ih written _ _ behind)
  | signed sign kind known read ih =>
      rw [List.forall_mem_cons] at written
      intro symbols rest behind
      exact .rule [.operator .unary, .rule .primary] (by simp)
        (produces_operator kind known (ih written.2 _ _ behind))
  | joined token kind known before behind ihLeft ihRight =>
      rw [List.forall_mem_append, List.forall_mem_cons] at written
      intro symbols rest further
      rw [List.append_assoc, List.cons_append]
      exact ihLeft written.1 _ _
        (.again (produces_operator kind known (ihRight written.2.2 _ _ further)))
  | name token kind =>
      intro symbols rest behind
      exact .rule [.kind .identifier, .optional [.rule .arguments]] (by simp)
        (.kind token kind (.skip behind))
  | call token opening kind opens read ih =>
      rw [List.forall_mem_cons, List.forall_mem_cons] at written
      intro symbols rest behind
      exact .rule [.kind .identifier, .optional [.rule .arguments]] (by simp)
        (.kind token kind (.use (.rule [.separator "(", argumentList, .separator ")"]
          (by simp)
          (produces_separator '(' rfl written.2.1 opens (ih written.2.2 _ _ behind).1))))
  | parenthesized opening closing opens closes read ih =>
      rw [List.cons_append, List.forall_mem_cons, List.forall_mem_append, List.forall_mem_singleton]
        at written
      intro symbols rest behind
      rw [List.append_assoc]
      exact .rule [.separator "(", .rule .expression, .separator ")"] (by simp)
        (produces_separator '(' rfl written.1 opens (expression_in_front (ih written.2.1)
          (produces_separator ')' rfl written.2.2 closes behind)))
  | literal token kind =>
      intro symbols rest behind
      exact .rule [.kind .literal] (by simp) (.kind token kind behind)
  | declare keyword name declares kind =>
      rw [List.forall_mem_cons] at written
      intro symbols rest behind
      exact .rule [.keyword "let", .kind .identifier, initializer] (by simp)
        (produces_keyword "let" (by decide) written.1 declares (.kind name kind (.skip behind)))
  | initialized keyword name equals declares kind gives read ih =>
      rw [List.forall_mem_cons, List.forall_mem_cons, List.forall_mem_cons] at written
      intro symbols rest behind
      have equality : equals.toLexeme = ⟨.operator, "="⟩ := written_unique written.2.2.1
        (written_operator ⟨_, (rfl : Operator.find? "=" .binary = _)⟩) gives
      exact .rule [.keyword "let", .kind .identifier, initializer] (by simp)
        (produces_keyword "let" (by decide) written.1 declares (.kind name kind
          (.use (.lexeme equals equality (expression_in_front (ih written.2.2.2) behind)))))
  | branch keyword opening closing branches opens closes test read ihTest ihThen =>
      simp only [List.cons_append, List.forall_mem_cons, List.forall_mem_append] at written
      intro symbols rest behind
      simp only [List.cons_append, List.append_assoc]
      exact .rule [.keyword "if", .separator "(", .rule .expression, .separator ")", .rule .statement,
          alternative] (by simp)
        (produces_keyword "if" (by decide) written.1 branches
          (produces_separator '(' rfl written.2.1 opens (expression_in_front (ihTest written.2.2.1)
            (produces_separator ')' rfl written.2.2.2.1 closes
              (ihThen written.2.2.2.2 _ _ (.skip behind))))))
  | alternative keyword opening closing separating branches opens closes separates test read other
      ihTest ihThen ihElse =>
      simp only [List.cons_append, List.append_assoc, List.forall_mem_cons, List.forall_mem_append]
        at written
      obtain ⟨isKeyword, opened, tested, closed, thens, separated, elses⟩ := written
      intro symbols rest behind
      simp only [List.cons_append, List.append_assoc]
      exact .rule [.keyword "if", .separator "(", .rule .expression, .separator ")", .rule .statement,
          Grammar.alternative] (by simp)
        (produces_keyword "if" (by decide) isKeyword branches
          (produces_separator '(' rfl opened opens (expression_in_front (ihTest tested)
            (produces_separator ')' rfl closed closes (ihThen thens _ _
              (.use (produces_keyword "else" (by decide) separated separates
                (ihElse elses _ _ behind))))))))
  | loop keyword opening closing loops opens closes test read ihTest ihBody =>
      simp only [List.cons_append, List.forall_mem_cons, List.forall_mem_append] at written
      intro symbols rest behind
      simp only [List.cons_append, List.append_assoc]
      exact .rule [.keyword "while", .separator "(", .rule .expression, .separator ")",
          .rule .statement] (by simp)
        (produces_keyword "while" (by decide) written.1 loops
          (produces_separator '(' rfl written.2.1 opens (expression_in_front (ihTest written.2.2.1)
            (produces_separator ')' rfl written.2.2.2.1 closes (ihBody written.2.2.2.2 _ _ behind)))))
  | block opening closing opens closes read ih =>
      rw [List.cons_append, List.forall_mem_cons, List.forall_mem_append, List.forall_mem_singleton]
        at written
      intro symbols rest behind
      rw [List.append_assoc]
      exact .rule [.separator "\x7b", statementList, .separator "\x7d"] (by simp)
        (produces_separator '\x7b' rfl written.1 opens (ih written.2.1 _ _
          (produces_separator '\x7d' rfl written.2.2 closes behind)))
  | noArguments closing closes =>
      rw [List.forall_mem_singleton] at written
      intro symbols rest behind
      have closed := produces_separator ')' rfl written closes behind
      exact ⟨.skip closed, fun comma isComma => .stop (.use (.lexeme comma isComma closed))⟩
  | lastArgument closing closes read ih =>
      rw [List.forall_mem_append, List.forall_mem_singleton] at written
      intro symbols rest behind
      have closed : Produces (furtherArguments :: lastComma :: .separator ")" :: symbols)
          (closing :: rest) := .stop (.skip (produces_separator ')' rfl written.2 closes behind))
      have listed := expression_in_front (ih written.1) closed
      rw [List.append_cons] at listed
      exact ⟨.use listed, fun comma isComma => .again (.lexeme comma isComma listed)⟩
  | moreArguments comma separates read continues ih ihOthers =>
      rw [List.forall_mem_append, List.forall_mem_cons] at written
      intro symbols rest behind
      have isComma := written_unique written.2.1 (written_separator ',' rfl) separates
      have further := (ihOthers written.2.2 _ _ behind).2 comma isComma
      have listed := expression_in_front (ih written.1) further
      rw [← List.append_assoc] at listed
      exact ⟨.use listed, fun earlier isEarlier => .again (.lexeme earlier isEarlier listed)⟩

theorem significant_written {source : String} {tokens : List Token}
    (scanned : tokenize source = .ok tokens) :
    ∀ token ∈ tokens.filter Token.isSignificant, token.toLexeme.IsWritten := by
  intro token member
  obtain ⟨inTokens, significant⟩ := List.mem_filter.mp member
  have notTrivia : token.kind.isTrivia = false := by simpa [Token.isSignificant] using significant
  exact ⟨⟨source, tokens, scanned, token, inTokens, rfl⟩, notTrivia⟩

theorem program_of_derives {tokens : List Token} {statements : List Expr}
    (derives : Derives tokens (.statements statements))
    (written : ∀ token ∈ tokens, token.toLexeme.IsWritten) : Produces [.rule .program] tokens := by
  have listed := derives_produced derives written [] [] .nothing
  rw [List.append_nil] at listed
  exact .rule [statementList] (by simp) listed

theorem program_produced {source : String} {tokens : List Token} {program : Program}
    (scanned : tokenize source = .ok tokens) (read : Program.ofTokens tokens = .ok program) :
    Produces [.rule .program] (tokens.filter Token.isSignificant) :=
  program_of_derives (program_derives tokens program read) (significant_written scanned)

end Scriptlet.Grammar
