import Scriptlet.Proofs.Grammar.RoundTrip
import Scriptlet.Proofs.Grammar.Sequel

/-!
A program is read exactly if the productions produce its tokens.

The rules choose by the next token and never go back on a choice. `RulesAccept` says that none of them
fails where the productions have a way to go on, and that there still is one behind what it took.
-/

set_option autoImplicit false

namespace Scriptlet.Grammar

structure Ready (symbols : List Symbol) (tokens : List Token) : Prop where
  produced : Produces symbols tokens
  written : ∀ token ∈ tokens, token.toLexeme.IsWritten

def ReadyBehind {α : Type} (symbols : List Symbol) (answer : α × List Token) : Prop :=
  Ready symbols answer.2

def ReadySome (symbols : List Symbol) (answer : Option (Expr × List Token)) : Prop :=
  ∃ read, answer = some read ∧ ReadyBehind symbols read

def Succeeds {α : Type} (property : α → Prop) : Answer α → Prop
  | .ok answer => property answer
  | .error (.failed _) => False
  | .error .outOfFuel => True

theorem succeeds_bind {α β : Type} {first : α → Prop} {second : β → Prop} {answer : Answer α}
    {next : α → Answer β} (succeeds : Succeeds first answer)
    (continues : ∀ a, first a → Succeeds second (next a)) : Succeeds second (answer >>= next) := by
  match answer, succeeds with
  | .ok a, holds => exact continues a holds
  | .error .outOfFuel, _ => trivial

theorem succeeds_mono {α : Type} {first second : α → Prop} {answer : Answer α}
    (succeeds : Succeeds first answer) (implies : ∀ a, first a → second a) : Succeeds second answer := by
  match answer, succeeds with
  | .ok a, holds => exact implies a holds
  | .error .outOfFuel, _ => trivial

theorem succeeds_some {symbols : List Symbol} {read : Expr × List Token}
    (ready : ReadyBehind symbols read) : Succeeds (ReadySome symbols) (.ok (some read)) :=
  ⟨read, rfl, ready⟩

theorem succeeds_of_reads {α : Type} {same : α → α → Prop} {rule : Nat → Answer α} {result : α}
    {fuel : Nat} (read : Reads rule result)
    (follows : ∀ more, fuel ≤ more → Follows id [] same (rule fuel) (rule more))
    (exact : ∀ a b, same a b → a = b) : Succeeds (· = result) (rule fuel) := by
  by_cases spent : rule fuel = .error .outOfFuel
  · rw [spent]
    trivial
  · rw [answer_of_reads read spent follows exact]
    rfl

section Tokens

variable {symbols others : List Symbol} {tokens rest : List Token} {token : Token}

theorem ready_rest (ready : Ready symbols (token :: rest)) (behind : Produces others rest) :
    Ready others rest :=
  ⟨behind, fun other member => ready.written other (List.mem_cons_of_mem _ member)⟩

theorem accept_written (kind : TokenKind) (text : String) (known : Lexeme.IsWritten ⟨kind, text⟩)
    (ready : Ready symbols tokens) :
    (∃ token rest, tokens = token :: rest ∧ token.toLexeme = ⟨kind, text⟩ ∧
      accept text tokens = some (token, rest)) ∨
    (accept text tokens = none ∧ ∀ token rest, tokens = token :: rest → token.toLexeme ≠ ⟨kind, text⟩) := by
  match accepted : accept text tokens with
  | some (token, rest) =>
      obtain ⟨rfl, same⟩ := accept_cons accepted
      exact .inl ⟨token, rest, rfl, written_unique (ready.written token List.mem_cons_self) known same, rfl⟩
  | none =>
      refine .inr ⟨rfl, fun token rest cut same => ?_⟩
      have text : token.text = text := congrArg Lexeme.text same
      simp [cut, text] at accepted

theorem optional_absent {lexeme : Lexeme} {inner : List Symbol}
    (absent : ∀ token rest, tokens = token :: rest → token.toLexeme ≠ lexeme)
    (ready : Ready (.optional (.lexeme lexeme :: inner) :: symbols) tokens) : Ready symbols tokens := by
  cases ready.produced with
  | skip behind => exact ⟨behind, ready.written⟩
  | use produced =>
      obtain ⟨token, rest, cut, same, -⟩ := produces_lexeme produced
      exact absurd same (absent token rest cut)

theorem succeeds_expect (endLine : Nat) {lexeme : Lexeme}
    (ready : Ready (.lexeme lexeme :: symbols) tokens) :
    Succeeds (ReadyBehind symbols) (expect endLine lexeme.text tokens) := by
  obtain ⟨token, rest, rfl, rfl, behind⟩ := produces_lexeme ready.produced
  have taken : expect endLine token.text (token :: rest) = .ok (token, rest) := by
    simp
  rw [taken]
  exact ready_rest ready behind

theorem succeeds_expect_kind (endLine : Nat) {kind : TokenKind}
    (ready : Ready (.kind kind :: symbols) tokens) :
    Succeeds (ReadyBehind symbols) (expectKind endLine kind tokens) := by
  cases ready.produced with
  | @kind _ rest _ token same behind =>
      have taken : expectKind endLine kind (token :: rest) = .ok (token, rest) := by
        simp [same]
      rw [taken]
      exact ready_rest ready behind

theorem succeeds_require (endLine : Nat) (what : Expectation) {answer : Option (Expr × List Token)}
    (some : ReadySome symbols answer) :
    Succeeds (ReadyBehind symbols) (require endLine what tokens answer) := by
  obtain ⟨read, rfl, ready⟩ := some
  exact ready

end Tokens

def Stops (groups : List OperatorGroup) (rest : List Token) : Prop :=
  ∀ group ∈ groups, acceptIf (isContinued group) rest = none

theorem stops_all {symbols : List Symbol} {tokens : List Token} (stops : Stops binaryGroups tokens)
    (ready : Ready (operations :: symbols) tokens) : Ready symbols tokens := by
  cases ready.produced with
  | stop behind => exact ⟨behind, ready.written⟩
  | again produced =>
      cases produced with
      | operator token kind known behind =>
          obtain ⟨operator, found⟩ := Option.isSome_iff_exists.mp known
          obtain ⟨group, level, same⟩ := group_of_known found
          have continued : isContinued group token = true := by
            simp [isContinued, kind, OperatorGroup.contains, group_find level found, same]
          have refused := stops group level
          simp [acceptIf, continued] at refused

-- A chain is read up to the first operator that none of its levels takes.
structure RulesAccept (endLine fuel : Nat) : Prop where
  statements : ∀ {symbols : List Symbol} {tokens : List Token}, EndsStatements symbols →
    Ready (statementList :: symbols) tokens →
    Succeeds (ReadyBehind symbols) (statements endLine fuel tokens)
  statement : ∀ {symbols : List Symbol} {tokens : List Token}, Sequel symbols →
    Ready (.rule .statement :: symbols) tokens →
    Succeeds (ReadySome symbols) (statement endLine fuel tokens)
  expression : ∀ {symbols : List Symbol} {tokens : List Token}, Sequel symbols →
    Ready (.rule .expression :: symbols) tokens →
    Succeeds (ReadySome symbols) (expression endLine fuel tokens)
  chain : ∀ (groups : List OperatorGroup) {symbols : List Symbol} {tokens : List Token},
    Sequel symbols → Ready (.rule .unary :: operations :: symbols) tokens →
    Succeeds (fun answer => ∃ read, answer = some read ∧ ReadyBehind (operations :: symbols) read ∧
      Stops groups read.2) (chain endLine fuel groups tokens)
  continuation : ∀ (group : OperatorGroup) (tighter : List OperatorGroup) {symbols : List Symbol}
    {tokens : List Token}, Sequel symbols → Ready (operations :: symbols) tokens →
    Stops tighter tokens →
    Succeeds (fun answer => ReadyBehind (operations :: symbols) answer ∧
      Stops (group :: tighter) answer.2) (continuation endLine fuel group tighter tokens)
  unary : ∀ {symbols : List Symbol} {tokens : List Token}, Sequel symbols →
    Ready (.rule .unary :: operations :: symbols) tokens →
    Succeeds (ReadySome (operations :: symbols)) (unary endLine fuel tokens)
  primary : ∀ {symbols : List Symbol} {tokens : List Token}, Sequel symbols →
    Ready (.rule .primary :: operations :: symbols) tokens →
    Succeeds (ReadySome (operations :: symbols)) (primary endLine fuel tokens)
  arguments : ∀ {symbols : List Symbol} {tokens : List Token},
    Ready (argumentList :: .separator ")" :: symbols) tokens →
    Succeeds (ReadyBehind symbols) (arguments endLine fuel tokens)
  declaration : ∀ (line : Nat) {symbols : List Symbol} {tokens : List Token}, Sequel symbols →
    Ready (.kind .identifier :: initializer :: operations :: symbols) tokens →
    Succeeds (ReadyBehind (operations :: symbols)) (declaration endLine fuel line tokens)
  conditional : ∀ (line : Nat) {symbols : List Symbol} {tokens : List Token}, Sequel symbols →
    Ready (.separator "(" :: .rule .expression :: .separator ")" :: .rule .statement :: alternative ::
      symbols) tokens →
    Succeeds (ReadyBehind symbols) (conditional endLine fuel line tokens)
  loop : ∀ (line : Nat) {symbols : List Symbol} {tokens : List Token}, Sequel symbols →
    Ready (.separator "(" :: .rule .expression :: .separator ")" :: .rule .statement :: symbols) tokens →
    Succeeds (ReadyBehind symbols) (loop endLine fuel line tokens)
  condition : ∀ {symbols : List Symbol} {tokens : List Token},
    Ready (.separator "(" :: .rule .expression :: .separator ")" :: symbols) tokens →
    Succeeds (ReadyBehind symbols) (condition endLine fuel tokens)

theorem rules_accept_zero (endLine : Nat) : RulesAccept endLine 0 := by
  constructor <;> intros <;> trivial

theorem statement_at_end (endLine fuel : Nat) {symbols : List Symbol} {tokens : List Token}
    (ends : EndsStatements symbols) (produced : Produces symbols tokens) :
    Succeeds (· = none) (statement endLine fuel tokens) := by
  have ended : Ends tokens := by
    rcases ends with rfl | ⟨more, rfl⟩
    · cases produced
      exact .inl rfl
    · obtain ⟨closer, behind, rfl, same, -⟩ := produces_lexeme produced
      exact .inr ⟨closer, behind, rfl, same⟩
  exact succeeds_of_reads (statement_none endLine tokens ended)
    (fun more bound => (rules_follow (fun _ => rfl) bound).statement (whole_refl tokens))
    (fun _ _ alike => some_alike_whole alike)

theorem expression_at_closer (endLine fuel : Nat) (closer : Token) (rest : List Token)
    (closes : IsCloser closer) : Succeeds (· = none) (expression endLine fuel (closer :: rest)) := by
  have nothing : Reads (primary endLine · (closer :: rest)) none := by
    apply reads_succ
    simp only [primary_closer endLine _ closer rest closes]
    exact reads_ok none
  have starts : acceptKind .operator (closer :: rest) = none := by
    simp [closes.1]
  exact succeeds_of_reads (expression_of_nothing starts nothing)
    (fun more bound => (rules_follow (fun _ => rfl) bound).expression (whole_refl (closer :: rest)))
    (fun _ _ alike => some_alike_whole alike)

section Step

variable {endLine fuel : Nat} (accepts : RulesAccept endLine fuel)
include accepts

theorem statements_accept {symbols : List Symbol} {tokens : List Token} (ends : EndsStatements symbols)
    (ready : Ready (statementList :: symbols) tokens) :
    Succeeds (ReadyBehind symbols) (statements endLine (fuel + 1) tokens) := by
  rw [statements]
  cases ready.produced with
  | stop behind =>
      refine succeeds_bind (statement_at_end endLine fuel ends behind) fun answer nothing => ?_
      subst nothing
      exact ⟨behind, ready.written⟩
  | again produced =>
      refine succeeds_bind (accepts.statement (.statements ends) ⟨produced, ready.written⟩)
        fun answer first => ?_
      obtain ⟨first, rfl, further⟩ := first
      exact succeeds_bind (accepts.statements ends further) fun others last => last

theorem statement_accept {symbols : List Symbol} {tokens : List Token} (sequel : Sequel symbols)
    (ready : Ready (.rule .statement :: symbols) tokens) :
    Succeeds (ReadySome symbols) (statement endLine (fuel + 1) tokens) := by
  have known : Lexeme.IsWritten ⟨.separator, ";"⟩ := written_separator ';' rfl
  rw [statement]
  rcases statement_forms ready.produced with ⟨semicolon, rest, rfl, same, behind⟩ | produced
  · have text : semicolon.text = ";" := congrArg Lexeme.text same
    rw [accept_cons_pos rest text]
    exact succeeds_some (ready_rest ready behind)
  · rcases accept_written _ _ known ready with ⟨semicolon, rest, rfl, same, accepted⟩ | ⟨refused, -⟩
    · exact absurd (by simp [same]) (expression_not_continuing produced)
    · rw [refused]
      refine succeeds_bind (accepts.expression (.ended sequel) ⟨produced, ready.written⟩)
        fun answer some => ?_
      obtain ⟨⟨read, rest⟩, rfl, behind⟩ := some
      rcases accept_written _ _ known behind with ⟨semicolon, last, rfl, same, accepted⟩ | ⟨refused, absent⟩
      · simp only [skip, accepted]
        exact succeeds_some (ready_rest behind (semicolon_taken sequel same behind.produced))
      · simp only [skip, refused]
        exact succeeds_some (optional_absent absent behind)

theorem expression_accept {symbols : List Symbol} {tokens : List Token} (sequel : Sequel symbols)
    (ready : Ready (.rule .expression :: symbols) tokens) :
    Succeeds (ReadySome symbols) (expression endLine (fuel + 1) tokens) := by
  rw [expression]
  refine succeeds_mono (accepts.chain binaryGroups sequel
    ⟨expression_form ready.produced, ready.written⟩) fun answer some => ?_
  obtain ⟨read, rfl, behind, stops⟩ := some
  exact ⟨read, rfl, stops_all stops behind⟩

theorem chain_accept (groups : List OperatorGroup) {symbols : List Symbol} {tokens : List Token}
    (sequel : Sequel symbols) (ready : Ready (.rule .unary :: operations :: symbols) tokens) :
    Succeeds (fun answer => ∃ read, answer = some read ∧ ReadyBehind (operations :: symbols) read ∧
      Stops groups read.2) (chain endLine (fuel + 1) groups tokens) := by
  cases groups with
  | nil =>
      rw [chain]
      refine succeeds_mono (accepts.unary sequel ready) fun answer some => ?_
      obtain ⟨read, rfl, behind⟩ := some
      exact ⟨read, rfl, behind, List.forall_mem_nil _⟩
  | cons group tighter =>
      rw [chain]
      refine succeeds_bind (accepts.chain tighter sequel ready) fun answer some => ?_
      obtain ⟨⟨operand, rest⟩, rfl, behind, stops⟩ := some
      refine succeeds_bind (accepts.continuation group tighter sequel behind stops) fun answer last => ?_
      obtain ⟨operations, rest⟩ := answer
      cases operations with
      | none => exact ⟨_, rfl, last⟩
      | some operations => exact ⟨_, rfl, last⟩

theorem continuation_accept (group : OperatorGroup) (tighter : List OperatorGroup)
    {symbols : List Symbol} {tokens : List Token} (sequel : Sequel symbols)
    (ready : Ready (operations :: symbols) tokens) (stops : Stops tighter tokens) :
    Succeeds (fun answer => ReadyBehind (operations :: symbols) answer ∧
      Stops (group :: tighter) answer.2) (continuation endLine (fuel + 1) group tighter tokens) := by
  rw [continuation]
  cases accepted : acceptIf (fun token => token.kind = .operator && group.contains token.text) tokens with
  | none => exact ⟨ready, List.forall_mem_cons.mpr ⟨accepted, stops⟩⟩
  | some taken =>
      obtain ⟨token, rest⟩ := taken
      obtain ⟨rfl, test⟩ := accept_if_cons accepted
      simp only [Bool.and_eq_true, decide_eq_true_eq] at test
      obtain ⟨operator, found⟩ := Option.isSome_iff_exists.mp test.2
      simp only [found]
      have operand := ready_rest ready (operation_taken sequel test.1 ready.produced)
      refine succeeds_bind (accepts.chain tighter sequel operand) fun answer some => ?_
      obtain ⟨⟨right, rest⟩, rfl, behind, stopped⟩ := some
      exact succeeds_bind (accepts.continuation group tighter sequel behind stopped) fun deeper last => last

theorem unary_accept {symbols : List Symbol} {tokens : List Token} (sequel : Sequel symbols)
    (ready : Ready (.rule .unary :: operations :: symbols) tokens) :
    Succeeds (ReadySome (operations :: symbols)) (unary endLine (fuel + 1) tokens) := by
  rw [unary]
  rcases unary_forms ready.produced with ⟨sign, rest, rfl, kind, known, operand⟩ | produced
  · obtain ⟨operator, found⟩ := Option.isSome_iff_exists.mp known
    simp only [accept_kind_cons_pos rest kind, found]
    refine succeeds_bind (accepts.primary sequel (ready_rest ready operand)) fun answer some => ?_
    obtain ⟨read, rfl, behind⟩ := some
    exact succeeds_some behind
  · obtain ⟨first, rest, rfl, form⟩ := primary_forms produced
    rw [accept_kind_cons_neg rest (primary_not_operator form)]
    exact accepts.primary sequel ⟨produced, ready.written⟩

theorem arguments_accept {symbols : List Symbol} {tokens : List Token}
    (ready : Ready (argumentList :: .separator ")" :: symbols) tokens) :
    Succeeds (ReadyBehind symbols) (arguments endLine (fuel + 1) tokens) := by
  rw [arguments]
  cases ready.produced with
  | skip produced =>
      have closed : Ready (.separator ")" :: symbols) tokens := ⟨produced, ready.written⟩
      obtain ⟨closing, rest, rfl, same, -⟩ := produces_lexeme produced
      refine succeeds_bind (expression_at_closer endLine fuel closing rest (by simp [IsCloser, same]))
        fun answer nothing => ?_
      subst nothing
      exact succeeds_bind (succeeds_expect endLine closed) fun _ behind => behind
  | use produced =>
      refine succeeds_bind (accepts.expression (.arguments symbols) ⟨produced, ready.written⟩)
        fun answer some => ?_
      obtain ⟨⟨first, rest⟩, rfl, further⟩ := some
      have known : Lexeme.IsWritten ⟨.separator, ")"⟩ := written_separator ')' rfl
      have forms := further_arguments_forms further.produced
      rcases accept_written _ _ known further with ⟨closing, last, rfl, same, accepted⟩ | ⟨refused, absent⟩
      · simp only [accepted]
        rcases forms with more | closed
        · obtain ⟨comma, _, cut, other, -⟩ := produces_lexeme more
          cases cut
          simp [same] at other
        · cases closed with
          | lexeme _ _ behind => exact ready_rest further behind
      · simp only [refused]
        rcases forms with more | closed
        · refine succeeds_bind (succeeds_expect endLine ⟨more, further.written⟩) fun comma remaining => ?_
          exact succeeds_bind (accepts.arguments remaining) fun _ behind => behind
        · obtain ⟨closing, last, cut, same, -⟩ := produces_lexeme closed
          exact absurd same (absent closing last cut)

theorem declaration_accept (line : Nat) {symbols : List Symbol} {tokens : List Token}
    (sequel : Sequel symbols)
    (ready : Ready (.kind .identifier :: initializer :: operations :: symbols) tokens) :
    Succeeds (ReadyBehind (operations :: symbols)) (declaration endLine (fuel + 1) line tokens) := by
  have known : Lexeme.IsWritten ⟨.operator, "="⟩ :=
    written_operator ⟨_, (rfl : Operator.find? "=" .binary = _)⟩
  rw [declaration]
  refine succeeds_bind (succeeds_expect_kind endLine ready) fun name named => ?_
  obtain ⟨name, rest⟩ := name
  have behind : Ready (initializer :: operations :: symbols) rest := named
  rcases accept_written _ _ known behind with ⟨equals, last, rfl, same, accepted⟩ | ⟨refused, absent⟩
  · have given := ready_rest behind (initializer_taken sequel same behind.produced)
    simp only [accepted]
    refine succeeds_bind (accepts.expression (.operations sequel) given) fun answer some => ?_
    exact succeeds_bind (succeeds_require endLine .expression some) fun _ behind => behind
  · simp only [refused]
    exact optional_absent absent behind

theorem condition_accept {symbols : List Symbol} {tokens : List Token}
    (ready : Ready (.separator "(" :: .rule .expression :: .separator ")" :: symbols) tokens) :
    Succeeds (ReadyBehind symbols) (condition endLine (fuel + 1) tokens) := by
  rw [condition]
  refine succeeds_bind (succeeds_expect endLine ready) fun opening opened => ?_
  refine succeeds_bind (accepts.expression (.closed symbols) opened) fun answer some => ?_
  refine succeeds_bind (succeeds_require endLine .testExpression some) fun test tested => ?_
  exact succeeds_bind (succeeds_expect endLine tested) fun _ closed => closed

theorem conditional_accept (line : Nat) {symbols : List Symbol} {tokens : List Token}
    (sequel : Sequel symbols)
    (ready : Ready (.separator "(" :: .rule .expression :: .separator ")" :: .rule .statement ::
      alternative :: symbols) tokens) :
    Succeeds (ReadyBehind symbols) (conditional endLine (fuel + 1) line tokens) := by
  have known : Lexeme.IsWritten ⟨.keyword, "else"⟩ := written_keyword "else" (by decide)
  rw [conditional]
  refine succeeds_bind (accepts.condition ready) fun test tested => ?_
  refine succeeds_bind (accepts.statement (.alternative sequel) tested) fun answer some => ?_
  refine succeeds_bind (succeeds_require endLine .statementAfterTest some) fun thenBranch taken => ?_
  obtain ⟨thenBranch, rest⟩ := thenBranch
  have behind : Ready (alternative :: symbols) rest := taken
  rcases accept_written _ _ known behind with ⟨separating, last, rfl, same, accepted⟩ | ⟨refused, absent⟩
  · have other := ready_rest behind (alternative_taken sequel same behind.produced)
    simp only [accepted]
    refine succeeds_bind (accepts.statement sequel other) fun answer some => ?_
    exact succeeds_bind (succeeds_require endLine .statementAfterElse some) fun _ behind => behind
  · simp only [refused]
    exact optional_absent absent behind

theorem loop_accept (line : Nat) {symbols : List Symbol} {tokens : List Token} (sequel : Sequel symbols)
    (ready : Ready (.separator "(" :: .rule .expression :: .separator ")" :: .rule .statement :: symbols)
      tokens) :
    Succeeds (ReadyBehind symbols) (loop endLine (fuel + 1) line tokens) := by
  rw [loop]
  refine succeeds_bind (accepts.condition ready) fun test tested => ?_
  refine succeeds_bind (accepts.statement sequel tested) fun answer some => ?_
  exact succeeds_bind (succeeds_require endLine .statementAfterTest some) fun _ behind => behind

theorem primary_accept {symbols : List Symbol} {tokens : List Token} (sequel : Sequel symbols)
    (ready : Ready (.rule .primary :: operations :: symbols) tokens) :
    Succeeds (ReadySome (operations :: symbols)) (primary endLine (fuel + 1) tokens) := by
  have known : Lexeme.IsWritten ⟨.separator, "("⟩ := written_separator '(' rfl
  obtain ⟨first, rest, rfl, form⟩ := primary_forms ready.produced
  rw [primary]
  cases form with
  | name kind produced =>
      have behind := ready_rest ready produced
      rw [if_pos kind]
      rcases accept_written _ _ known behind with ⟨opening, last, rfl, same, accepted⟩ | ⟨refused, absent⟩
      · have listed := ready_rest behind (call_taken sequel same produced)
        simp only [accepted]
        exact succeeds_bind (accepts.arguments listed) fun _ closed => succeeds_some closed
      · simp only [refused]
        cases produced with
        | skip produced => exact succeeds_some (ready_rest ready produced)
        | use produced =>
            obtain ⟨opening, last, cut, same, -⟩ := arguments_form produced
            exact absurd same (absent opening last cut)
  | parenthesized opens produced =>
      rw [if_neg (by simp [opens]), if_pos (by simp [opens])]
      refine succeeds_bind (accepts.expression (.closed _) (ready_rest ready produced))
        fun answer some => ?_
      refine succeeds_bind (succeeds_require endLine .expression some) fun inner behind => ?_
      exact succeeds_bind (succeeds_expect endLine behind) fun _ closed => succeeds_some closed
  | literal kind produced =>
      have scanned := (ready.written first List.mem_cons_self).1
      have text : first.text ≠ "(" := scanned_not_parenthesis first.toLexeme scanned (by simp [kind])
      rw [if_neg (by simp [kind]), if_neg text, if_pos kind]
      exact succeeds_some (ready_rest ready produced)
  | declare declares produced =>
      simp only [declares, reduceCtorEq, if_false, if_true, String.reduceEq]
      exact succeeds_bind (accepts.declaration first.line sequel (ready_rest ready produced))
        fun _ behind => succeeds_some behind
  | branch branches produced =>
      simp only [branches, reduceCtorEq, if_false, if_true, String.reduceEq]
      exact succeeds_bind (accepts.conditional first.line (.operations sequel) (ready_rest ready produced))
        fun _ behind => succeeds_some behind
  | loop loops produced =>
      simp only [loops, reduceCtorEq, if_false, if_true, String.reduceEq]
      exact succeeds_bind (accepts.loop first.line (.operations sequel) (ready_rest ready produced))
        fun _ behind => succeeds_some behind
  | block opens produced =>
      simp only [opens, reduceCtorEq, if_false, if_true, String.reduceEq]
      refine succeeds_bind (accepts.statements (.inr ⟨_, rfl⟩) (ready_rest ready produced))
        fun inner behind => ?_
      exact succeeds_bind (succeeds_expect endLine behind) fun _ closed => succeeds_some closed

theorem rules_accept_succ : RulesAccept endLine (fuel + 1) where
  statements := statements_accept accepts
  statement := statement_accept accepts
  expression := expression_accept accepts
  chain := chain_accept accepts
  continuation := continuation_accept accepts
  unary := unary_accept accepts
  primary := primary_accept accepts
  arguments := arguments_accept accepts
  declaration := declaration_accept accepts
  conditional := conditional_accept accepts
  loop := loop_accept accepts
  condition := condition_accept accepts

end Step

theorem rules_accept (endLine fuel : Nat) : RulesAccept endLine fuel := by
  induction fuel with
  | zero => exact rules_accept_zero endLine
  | succ fuel ih => exact rules_accept_succ ih

theorem produced_program_read {tokens : List Token}
    (written : ∀ token ∈ tokens.filter Token.isSignificant, token.toLexeme.IsWritten)
    (produced : Produces [.rule .program] (tokens.filter Token.isSignificant)) :
    ∃ program, Program.ofTokens tokens = .ok program := by
  have listed : Produces [statementList] (tokens.filter Token.isSignificant) := by
    cases produced with
    | rule production member rest =>
        obtain rfl := List.mem_singleton.mp member
        exact rest
  have ready : Ready [statementList] (Cursor.ofTokens tokens).tokens := ⟨listed, written⟩
  have accepted := (rules_accept (Cursor.ofTokens tokens).endLine (Cursor.ofTokens tokens).fuel).statements
    (.inl rfl) ready
  match answer : statements (Cursor.ofTokens tokens).endLine (Cursor.ofTokens tokens).fuel
      (Cursor.ofTokens tokens).tokens with
  | .ok (read, rest) =>
      rw [answer] at accepted
      have ended : rest = [] := by
        cases accepted.produced
        rfl
      subst ended
      exact ⟨⟨read⟩, (program_ok_iff tokens ⟨read⟩).mpr answer⟩
  | .error (.failed error) =>
      rw [answer] at accepted
      exact accepted.elim
  | .error .outOfFuel =>
      exact absurd answer (settled_not_out_of_fuel
        ((settles _ _).statements _ (by unfold Cursor.fuel; omega)))

end Scriptlet.Grammar

namespace Scriptlet

open Grammar

/-- The tokens of a source are read as a program exactly if the productions produce those that are
significant. -/
theorem program_read_iff_produced (source : String) (tokens : List Token)
    (scanned : tokenize source = .ok tokens) :
    (∃ program, Program.ofTokens tokens = .ok program) ↔
      Produces [.rule .program] (tokens.filter Token.isSignificant) := by
  constructor
  · rintro ⟨program, read⟩
    exact program_produced scanned read
  · exact produced_program_read (significant_written scanned)

-- The tokens of `if(a)if(b)c;else d-e(f)`. Either conditional may have the `else`, and `d`, `-e` and `(f)`
-- may be statements of their own.
def ambiguousTokens : List Token :=
  [⟨⟨.keyword, "if"⟩, 1⟩, ⟨⟨.separator, "("⟩, 1⟩, ⟨⟨.identifier, "a"⟩, 1⟩, ⟨⟨.separator, ")"⟩, 1⟩,
    ⟨⟨.keyword, "if"⟩, 1⟩, ⟨⟨.separator, "("⟩, 1⟩, ⟨⟨.identifier, "b"⟩, 1⟩, ⟨⟨.separator, ")"⟩, 1⟩,
    ⟨⟨.identifier, "c"⟩, 1⟩, ⟨⟨.separator, ";"⟩, 1⟩, ⟨⟨.keyword, "else"⟩, 1⟩, ⟨⟨.whitespace, " "⟩, 1⟩,
    ⟨⟨.identifier, "d"⟩, 1⟩, ⟨⟨.operator, "-"⟩, 1⟩, ⟨⟨.identifier, "e"⟩, 1⟩, ⟨⟨.separator, "("⟩, 1⟩,
    ⟨⟨.identifier, "f"⟩, 1⟩, ⟨⟨.separator, ")"⟩, 1⟩]

theorem ambiguous_source_produced :
    tokenize "if(a)if(b)c;else d-e(f)" = .ok ambiguousTokens ∧
      Program.ofTokens ambiguousTokens =
        .ok ⟨[.branch 1 (.identifier 1 "a") (.branch 1 (.identifier 1 "b") (.identifier 1 "c")
          (some (.binary 1 "-" (.identifier 1 "d") (.call 1 "e" [.identifier 1 "f"])))) none]⟩ ∧
      Produces [.rule .program] (ambiguousTokens.filter Token.isSignificant) := by
  have scanned : tokenize "if(a)if(b)c;else d-e(f)" = .ok ambiguousTokens := by decide +kernel
  exact ⟨scanned, rfl, (program_read_iff_produced _ _ scanned).mp ⟨_, rfl⟩⟩

end Scriptlet
