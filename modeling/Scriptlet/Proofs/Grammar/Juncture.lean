import Scriptlet.Proofs.Grammar.Acceptance

/-!
What a rule reads where the tokens end, and what it reads where a semicolon follows them.

The semicolon ends the last statement, unless that statement ends with a conditional or a loop: then it ends
the branch or the body, and what follows may go on with the expression around it. `rules_join` compares the two
runs of each rule under the condition that it does not.
-/

set_option autoImplicit false

namespace Scriptlet.Grammar

def EndsWithBranch (tokens : List Token) : Prop :=
  ∃ keyword behind expr, keyword :: behind <:+ tokens ∧ keyword.text ∈ ["if", "while"] ∧
    Derives (keyword :: behind) (.primary expr)

-- The tokens go on with nothing that stands in front of them.
structure StandsAlone (tokens : List Token) : Prop where
  notEnding : accept ";" tokens = none
  notAlternative : accept "else" tokens = none
  notJoining : Stops binaryGroups tokens

structure Juncture (front : List Token) (semicolon : Token) (back : List Token) : Prop where
  separates : semicolon.toLexeme = ⟨.separator, ";"⟩
  unended : ∀ last, [last] <:+ front → last.text ≠ ";"
  alone : EndsWithBranch front → StandsAlone back

section Separator

variable {front back : List Token} {semicolon : Token} (juncture : Juncture front semicolon back)
include juncture

theorem juncture_text : semicolon.text = ";" := congrArg Lexeme.text juncture.separates

theorem juncture_kind : semicolon.kind = .separator := congrArg Lexeme.kind juncture.separates

theorem more_behind_semicolon {token : Token} {rest : List Token} (within : token :: rest <:+ front)
    (ends : token.text = ";") : rest ≠ [] := by
  rintro rfl
  exact juncture.unended token within ends

end Separator

def Extends {α : Type} (related : α → α → Prop) (left right : Answer α) : Prop :=
  ∀ a, left = .ok a → ∃ b, right = .ok b ∧ related a b

section Relations

variable (front : List Token) (semicolon : Token) (back : List Token)

inductive Leaves : List Token → List Token → Prop where
  | ahead {rest : List Token} (within : rest <:+ front) : Leaves rest (rest ++ semicolon :: back)
  | taken (alone : StandsAlone back) : Leaves [] back

inductive LeavesEnded : List Token → List Token → Prop where
  | ahead {rest : List Token} (within : rest <:+ front) (more : rest ≠ []) :
      LeavesEnded rest (rest ++ semicolon :: back)
  | taken : LeavesEnded [] back

inductive LeavesAhead : List Token → List Token → Prop where
  | ahead {rest : List Token} (within : rest <:+ front) : LeavesAhead rest (rest ++ semicolon :: back)

end Relations

inductive SameBehind {α : Type} (leaves : List Token → List Token → Prop) :
    α × List Token → α × List Token → Prop where
  | same (read : α) {left right : List Token} (behind : leaves left right) :
      SameBehind leaves (read, left) (read, right)

inductive SameIfSome (leaves : List Token → List Token → Prop) :
    Option (Expr × List Token) → Option (Expr × List Token) → Prop where
  | none : SameIfSome leaves none none
  | some (read : Expr) {left right : List Token} (behind : leaves left right) :
      SameIfSome leaves (some (read, left)) (some (read, right))

theorem extends_ok {α : Type} {related : α → α → Prop} {left right : α} (alike : related left right) :
    Extends related (.ok left) (.ok right) := by
  rintro _ ⟨⟩
  exact ⟨right, rfl, alike⟩

theorem extends_error {α : Type} (related : α → α → Prop) (stop : Stop SyntacticError) (right : Answer α) :
    Extends related (.error stop) right := by
  rintro _ ⟨⟩

theorem extends_bind {α β : Type} {first : α → α → Prop} {second : β → β → Prop} {left right : Answer α}
    {lefts rights : α → Answer β} (answers : Extends first left right)
    (continues : ∀ a b, left = .ok a → first a b → Extends second (lefts a) (rights b)) :
    Extends second (left >>= lefts) (right >>= rights) := by
  cases left with
  | error stop => exact extends_error second stop _
  | ok a =>
      obtain ⟨b, rfl, alike⟩ := answers a rfl
      exact continues a b rfl alike

section Tokens

variable {front : List Token} {semicolon : Token} {back : List Token}

theorem accept_if_append {tokens : List Token} (test : Token → Bool)
    (further : tokens = [] → test semicolon = false) :
    acceptIf test (tokens ++ semicolon :: back) =
      (acceptIf test tokens).map fun taken => (taken.1, taken.2 ++ semicolon :: back) := by
  cases tokens with
  | nil => simp [acceptIf, further rfl]
  | cons token rest =>
      by_cases passes : test token = true
      · rw [List.cons_append, accept_if_cons_pos _ passes, accept_if_cons_pos _ passes, Option.map_some]
      · rw [List.cons_append, accept_if_cons_neg _ passes, accept_if_cons_neg _ passes, Option.map_none]

theorem extends_fail_expected {α : Type} (related : α → α → Prop) (endLine : Nat) (what : Expectation)
    (tokens : List Token) (right : Answer α) : Extends related (failExpected endLine what tokens) right := by
  cases tokens <;> exact extends_error related _ right

theorem extends_expect (endLine otherLine : Nat) (text : String) {left right : List Token}
    (leaves : Leaves front semicolon back left right) :
    Extends (SameBehind (LeavesAhead front semicolon back)) (expect endLine text left)
      (expect otherLine text right) := by
  cases left with
  | nil => exact extends_error _ (.failed ⟨endLine, _⟩) _
  | cons token rest =>
      cases leaves with
      | ahead within =>
          by_cases hit : token.text = text
          · rw [List.cons_append, expect_cons_pos _ hit, expect_cons_pos _ hit]
            exact extends_ok (.same token (.ahead ((List.suffix_cons token rest).trans within)))
          · rw [expect_cons_neg rest hit]
            exact extends_fail_expected _ _ _ _ _

theorem extends_expect_kind (endLine otherLine : Nat) (kind : TokenKind) {tokens : List Token}
    (within : tokens <:+ front) :
    Extends (SameBehind (LeavesAhead front semicolon back)) (expectKind endLine kind tokens)
      (expectKind otherLine kind (tokens ++ semicolon :: back)) := by
  cases tokens with
  | nil => exact extends_error _ (.failed ⟨endLine, _⟩) _
  | cons token rest =>
      by_cases hit : token.kind = kind
      · rw [List.cons_append, expect_kind_cons_pos _ hit, expect_kind_cons_pos _ hit]
        exact extends_ok (.same token (.ahead ((List.suffix_cons token rest).trans within)))
      · rw [expect_kind_cons_neg rest hit]
        exact extends_fail_expected _ _ _ _ _

theorem extends_require (endLine otherLine : Nat) (what : Expectation) (left right : List Token)
    {leaves : List Token → List Token → Prop} {found other : Option (Expr × List Token)}
    (related : SameIfSome leaves found other ∨ found = none) :
    Extends (SameBehind leaves) (require endLine what left found) (require otherLine what right other) := by
  cases found with
  | none => exact extends_fail_expected _ _ _ _ _
  | some found =>
      rcases related with same | ⟨⟨⟩⟩
      cases same with
      | some read behind => exact extends_ok (.same read behind)

end Tokens

section Rules

variable (front : List Token) (semicolon : Token) (back : List Token) (endLine otherLine : Nat)

-- Where the first text has ended, the semicolon is a statement of the second one.
abbrev SameUnlessEmpty (tokens : List Token) (found other : Option (Expr × List Token)) : Prop :=
  SameIfSome (LeavesEnded front semicolon back) found other ∨ tokens = [] ∧ found = none

-- A list of statements is compared only if something is left behind it, as it is in a block.
structure RulesJoin (fuel : Nat) : Prop where
  statements : ∀ {tokens rest : List Token} {read : List Expr}, tokens <:+ front →
    statements endLine fuel tokens = .ok (read, rest) → rest ≠ [] →
    statements otherLine fuel (tokens ++ semicolon :: back) = .ok (read, rest ++ semicolon :: back)
  statement : ∀ {tokens : List Token}, tokens <:+ front →
    Extends (SameUnlessEmpty front semicolon back tokens) (statement endLine fuel tokens)
      (statement otherLine fuel (tokens ++ semicolon :: back))
  expression : ∀ {tokens : List Token}, tokens <:+ front →
    Extends (SameIfSome (Leaves front semicolon back)) (expression endLine fuel tokens)
      (expression otherLine fuel (tokens ++ semicolon :: back))
  chain : ∀ (groups : List OperatorGroup) {tokens : List Token},
    (∀ group ∈ groups, group ∈ binaryGroups) → tokens <:+ front →
    Extends (SameIfSome (Leaves front semicolon back)) (chain endLine fuel groups tokens)
      (chain otherLine fuel groups (tokens ++ semicolon :: back))
  continuation : ∀ (group : OperatorGroup) (tighter : List OperatorGroup) {left right : List Token},
    (∀ level ∈ group :: tighter, level ∈ binaryGroups) → Leaves front semicolon back left right →
    Extends (SameBehind (Leaves front semicolon back)) (continuation endLine fuel group tighter left)
      (continuation otherLine fuel group tighter right)
  unary : ∀ {tokens : List Token}, tokens <:+ front →
    Extends (SameIfSome (Leaves front semicolon back)) (unary endLine fuel tokens)
      (unary otherLine fuel (tokens ++ semicolon :: back))
  primary : ∀ {tokens : List Token}, tokens <:+ front →
    Extends (SameIfSome (Leaves front semicolon back)) (primary endLine fuel tokens)
      (primary otherLine fuel (tokens ++ semicolon :: back))
  arguments : ∀ {tokens : List Token}, tokens <:+ front →
    Extends (SameBehind (LeavesAhead front semicolon back)) (arguments endLine fuel tokens)
      (arguments otherLine fuel (tokens ++ semicolon :: back))
  declaration : ∀ (line : Nat) {tokens : List Token}, tokens <:+ front →
    Extends (SameBehind (Leaves front semicolon back)) (declaration endLine fuel line tokens)
      (declaration otherLine fuel line (tokens ++ semicolon :: back))
  conditional : ∀ {keyword : Token} {tokens : List Token}, keyword.text = "if" → keyword :: tokens <:+ front →
    Extends (SameBehind (Leaves front semicolon back)) (conditional endLine fuel keyword.line tokens)
      (conditional otherLine fuel keyword.line (tokens ++ semicolon :: back))
  loop : ∀ {keyword : Token} {tokens : List Token}, keyword.text = "while" → keyword :: tokens <:+ front →
    Extends (SameBehind (Leaves front semicolon back)) (loop endLine fuel keyword.line tokens)
      (loop otherLine fuel keyword.line (tokens ++ semicolon :: back))
  condition : ∀ {tokens : List Token}, tokens <:+ front →
    Extends (SameBehind (LeavesAhead front semicolon back)) (condition endLine fuel tokens)
      (condition otherLine fuel (tokens ++ semicolon :: back))

theorem rules_join_zero : RulesJoin front semicolon back endLine otherLine 0 := by
  constructor
  case statements =>
    intro tokens rest read within answered
    cases answered
  all_goals
    intros
    exact extends_error _ _ _

variable {front semicolon back endLine otherLine} {fuel : Nat} {tokens : List Token}
  (juncture : Juncture front semicolon back)
  (join : RulesJoin front semicolon back endLine otherLine fuel)

include join in
theorem expression_join (within : tokens <:+ front) :
    Extends (SameIfSome (Leaves front semicolon back)) (expression endLine (fuel + 1) tokens)
      (expression otherLine (fuel + 1) (tokens ++ semicolon :: back)) := by
  rw [expression, expression]
  exact join.chain binaryGroups (fun _ member => member) within

include join in
theorem chain_join (groups : List OperatorGroup) (levels : ∀ group ∈ groups, group ∈ binaryGroups)
    (within : tokens <:+ front) :
    Extends (SameIfSome (Leaves front semicolon back)) (chain endLine (fuel + 1) groups tokens)
      (chain otherLine (fuel + 1) groups (tokens ++ semicolon :: back)) := by
  cases groups with
  | nil =>
      rw [chain, chain]
      exact join.unary within
  | cons group tighter =>
      rw [chain, chain]
      refine extends_bind (join.chain tighter
        (fun level member => levels level (List.mem_cons_of_mem _ member)) within) fun _ _ _ related => ?_
      cases related with
      | none => exact extends_ok .none
      | some operand leaves =>
          refine extends_bind (join.continuation group tighter levels leaves) fun _ _ _ related => ?_
          obtain ⟨operations, leaves⟩ := related
          cases operations with
          | none => exact extends_ok (.some operand leaves)
          | some operations => exact extends_ok (.some _ leaves)

include juncture join in
theorem continuation_join (group : OperatorGroup) (tighter : List OperatorGroup) {left right : List Token}
    (levels : ∀ level ∈ group :: tighter, level ∈ binaryGroups)
    (leaves : Leaves front semicolon back left right) :
    Extends (SameBehind (Leaves front semicolon back)) (continuation endLine (fuel + 1) group tighter left)
      (continuation otherLine (fuel + 1) group tighter right) := by
  have kind := juncture_kind juncture
  rw [continuation, continuation]
  cases leaves with
  | taken alone =>
      have refused := alone.notJoining group (levels group List.mem_cons_self)
      unfold isContinued at refused
      rw [refused]
      exact extends_ok (.same none (.taken alone))
  | ahead within =>
      rw [accept_if_append _ fun _ => by simp [kind]]
      cases accepted : acceptIf (fun token => token.kind = .operator && group.contains token.text) left with
      | none => exact extends_ok (.same none (.ahead within))
      | some taken =>
          obtain ⟨token, rest⟩ := taken
          obtain ⟨rfl, -⟩ := accept_if_cons accepted
          have within : rest <:+ front := (List.suffix_cons token rest).trans within
          simp only [Option.map_some]
          cases group.find? token.text with
          | none => exact extends_error _ _ _
          | some operator =>
              refine extends_bind (join.chain tighter
                (fun level member => levels level (List.mem_cons_of_mem _ member)) within)
                fun _ _ _ related => ?_
              cases related with
              | none => exact extends_error _ _ _
              | some operand leaves =>
                  refine extends_bind (join.continuation group tighter levels leaves) fun _ _ _ related => ?_
                  obtain ⟨deeper, leaves⟩ := related
                  exact extends_ok (.same _ leaves)

include juncture join in
theorem unary_join (within : tokens <:+ front) :
    Extends (SameIfSome (Leaves front semicolon back)) (unary endLine (fuel + 1) tokens)
      (unary otherLine (fuel + 1) (tokens ++ semicolon :: back)) := by
  have kind := juncture_kind juncture
  rw [unary, unary, acceptKind, acceptKind, accept_if_append _ fun _ => by simp [kind]]
  cases accepted : acceptIf (fun token => token.kind = .operator) tokens with
  | none => exact join.primary within
  | some taken =>
      obtain ⟨sign, rest⟩ := taken
      obtain ⟨rfl, -⟩ := accept_if_cons accepted
      simp only [Option.map_some]
      cases Operator.find? sign.text .unary with
      | none => exact extends_error _ _ _
      | some operator =>
          refine extends_bind (join.primary ((List.suffix_cons sign rest).trans within))
            fun _ _ _ related => ?_
          cases related with
          | none => exact extends_error _ _ _
          | some operand leaves => exact extends_ok (.some _ leaves)

include juncture in
theorem accept_join (text : String) (other : text ≠ ";") (tokens : List Token) :
    accept text (tokens ++ semicolon :: back) =
      (accept text tokens).map fun taken => (taken.1, taken.2 ++ semicolon :: back) := by
  have separates := juncture_text juncture
  exact accept_if_append _ fun _ => by simp [separates, other.symm]

include juncture in
theorem skip_join {left right : List Token} (leaves : Leaves front semicolon back left right) :
    LeavesEnded front semicolon back (skip ";" left) (skip ";" right) := by
  have separates := juncture_text juncture
  cases leaves with
  | taken alone =>
      simp only [skip, alone.notEnding]
      exact .taken
  | ahead within =>
      cases left with
      | nil =>
          rw [List.nil_append, skip_cons_pos back separates]
          exact .taken
      | cons token rest =>
          by_cases ends : token.text = ";"
          · have more := more_behind_semicolon juncture within ends
            rw [List.cons_append, skip_cons_pos _ ends, skip_cons_pos _ ends]
            exact .ahead ((List.suffix_cons token rest).trans within) more
          · rw [List.cons_append, skip_cons_neg _ ends, skip_cons_neg _ ends]
            exact .ahead within (List.cons_ne_nil token rest)

include juncture join in
theorem statement_join (within : tokens <:+ front) :
    Extends (SameUnlessEmpty front semicolon back tokens) (statement endLine (fuel + 1) tokens)
      (statement otherLine (fuel + 1) (tokens ++ semicolon :: back)) := by
  have separates := juncture_text juncture
  cases tokens with
  | nil =>
      intro answer answered
      have nothing : answer = none := by
        cases answer with
        | none => rfl
        | some read =>
            obtain ⟨taken, cut, derives⟩ := (rules_derive endLine (fuel + 1)).statement [] _ answered read rfl
            exact absurd (List.append_eq_nil_iff.mp cut.symm).1 (statement_not_empty derives)
      refine ⟨some (.empty semicolon.line, back), ?_, .inr ⟨rfl, nothing⟩⟩
      rw [statement, List.nil_append, accept_cons_pos back separates]
      rfl
  | cons token rest =>
      rw [statement, statement, List.cons_append]
      by_cases ends : token.text = ";"
      · have more := more_behind_semicolon juncture within ends
        rw [accept_cons_pos _ ends, accept_cons_pos _ ends]
        exact extends_ok (.inl (.some _ (.ahead ((List.suffix_cons token rest).trans within) more)))
      · rw [accept_cons_neg _ ends, accept_cons_neg _ ends]
        refine extends_bind (join.expression within) fun _ _ _ related => ?_
        cases related with
        | none => exact extends_ok (.inl .none)
        | some read leaves => exact extends_ok (.inl (.some read (skip_join juncture leaves)))

include juncture join in
theorem arguments_join (within : tokens <:+ front) :
    Extends (SameBehind (LeavesAhead front semicolon back)) (arguments endLine (fuel + 1) tokens)
      (arguments otherLine (fuel + 1) (tokens ++ semicolon :: back)) := by
  rw [arguments, arguments]
  refine extends_bind (join.expression within) fun _ _ _ related => ?_
  cases related with
  | none =>
      refine extends_bind (extends_expect endLine otherLine ")" (.ahead within)) fun _ _ _ related => ?_
      obtain ⟨closing, leaves⟩ := related
      exact extends_ok (.same [] leaves)
  | @some first rest _ leaves =>
      cases leaves with
      | taken alone => exact extends_error _ (.failed ⟨endLine, _⟩) _
      | ahead within =>
          simp only [accept_join juncture ")" (by decide)]
          cases accepted : accept ")" rest with
          | some taken =>
              obtain ⟨closing, rest⟩ := taken
              obtain ⟨rfl, -⟩ := accept_cons accepted
              exact extends_ok (.same [first] (.ahead ((List.suffix_cons closing rest).trans within)))
          | none =>
              refine extends_bind (extends_expect endLine otherLine "," (.ahead within))
                fun _ _ _ related => ?_
              obtain ⟨comma, ⟨within⟩⟩ := related
              refine extends_bind (join.arguments within) fun _ _ _ related => ?_
              obtain ⟨others, leaves⟩ := related
              exact extends_ok (.same (first :: others) leaves)

include juncture join in
theorem declaration_join (line : Nat) (within : tokens <:+ front) :
    Extends (SameBehind (Leaves front semicolon back)) (declaration endLine (fuel + 1) line tokens)
      (declaration otherLine (fuel + 1) line (tokens ++ semicolon :: back)) := by
  rw [declaration, declaration]
  refine extends_bind (extends_expect_kind endLine otherLine .identifier within) fun _ _ _ related => ?_
  cases related with
  | @same name rest _ leaves =>
      obtain ⟨within⟩ := leaves
      simp only [accept_join juncture "=" (by decide)]
      cases accepted : accept "=" rest with
      | none => exact extends_ok (.same _ (.ahead within))
      | some taken =>
          obtain ⟨equals, rest⟩ := taken
          obtain ⟨rfl, -⟩ := accept_cons accepted
          have behind : rest <:+ front := (List.suffix_cons equals rest).trans within
          refine extends_bind (join.expression behind) fun _ _ _ found => ?_
          refine extends_bind (extends_require endLine otherLine .expression _ _ (.inl found))
            fun _ _ _ related => ?_
          obtain ⟨initializer, leaves⟩ := related
          exact extends_ok (.same _ leaves)

include join in
theorem condition_join (within : tokens <:+ front) :
    Extends (SameBehind (LeavesAhead front semicolon back)) (condition endLine (fuel + 1) tokens)
      (condition otherLine (fuel + 1) (tokens ++ semicolon :: back)) := by
  rw [condition, condition]
  refine extends_bind (extends_expect endLine otherLine "(" (.ahead within)) fun _ _ _ related => ?_
  obtain ⟨opening, ⟨within⟩⟩ := related
  refine extends_bind (join.expression within) fun _ _ _ found => ?_
  refine extends_bind (extends_require endLine otherLine .testExpression _ _ (.inl found))
    fun _ _ _ related => ?_
  obtain ⟨test, leaves⟩ := related
  refine extends_bind (extends_expect endLine otherLine ")" leaves) fun _ _ _ related => ?_
  obtain ⟨closing, leaves⟩ := related
  exact extends_ok (.same test leaves)

theorem statement_required {what : Expectation} {found : Option (Expr × List Token)}
    {read : Expr × List Token} (answered : statement endLine fuel tokens = .ok found)
    (required : require endLine what tokens found = .ok read) : Taken .statement tokens read :=
  yields_require endLine what ((rules_derive endLine fuel).statement tokens found answered) read required

include juncture join in
theorem conditional_join {keyword : Token} (branches : keyword.text = "if")
    (within : keyword :: tokens <:+ front) :
    Extends (SameBehind (Leaves front semicolon back)) (conditional endLine (fuel + 1) keyword.line tokens)
      (conditional otherLine (fuel + 1) keyword.line (tokens ++ semicolon :: back)) := by
  have ends {expr : Expr} (derives : Derives (keyword :: tokens) (.primary expr)) : StandsAlone back :=
    juncture.alone ⟨keyword, tokens, expr, within, by simp [branches], derives⟩
  rw [conditional, conditional]
  have behind : tokens <:+ front := (List.suffix_cons keyword tokens).trans within
  refine extends_bind (join.condition behind) fun _ _ tested related => ?_
  obtain ⟨test, ⟨within⟩⟩ := related
  refine extends_bind (join.statement within) fun _ _ answered found => ?_
  refine extends_bind (extends_require endLine otherLine .statementAfterTest _ _ (found.imp_right And.right))
    fun _ _ required related => ?_
  obtain ⟨opening, closing, inner, opens, closes, rfl, condition⟩ :=
    (rules_derive endLine fuel).condition _ _ tested
  obtain ⟨thens, cut, read⟩ := statement_required answered required
  cases related with
  | @same thenBranch rest _ leaves =>
      cases leaves with
      | taken =>
          rw [List.append_nil] at cut
          subst cut
          have alone := ends (.branch keyword opening closing branches opens closes condition read)
          simp only [alone.notAlternative]
          exact extends_ok (.same _ (.taken alone))
      | ahead within more =>
          simp only [accept_join juncture "else" (by decide)]
          cases accepted : accept "else" rest with
          | none => exact extends_ok (.same _ (.ahead within))
          | some taken =>
              obtain ⟨separating, rest⟩ := taken
              obtain ⟨rfl, separates⟩ := accept_cons accepted
              refine extends_bind (join.statement ((List.suffix_cons separating rest).trans within))
                fun _ _ answered found => ?_
              refine extends_bind (extends_require endLine otherLine .statementAfterElse _ _
                (found.imp_right And.right)) fun _ _ required related => ?_
              obtain ⟨elses, cutElse, other⟩ := statement_required answered required
              cases related with
              | same elseBranch leaves =>
                  cases leaves with
                  | ahead within more => exact extends_ok (.same _ (.ahead within))
                  | taken =>
                      rw [List.append_nil] at cutElse
                      subst cutElse
                      have whole := Derives.alternative keyword opening closing separating branches opens
                        closes separates condition read other
                      subst cut
                      exact extends_ok (.same _ (.taken (ends (by simpa using whole))))

include juncture join in
theorem loop_join {keyword : Token} (loops : keyword.text = "while") (within : keyword :: tokens <:+ front) :
    Extends (SameBehind (Leaves front semicolon back)) (loop endLine (fuel + 1) keyword.line tokens)
      (loop otherLine (fuel + 1) keyword.line (tokens ++ semicolon :: back)) := by
  have ends {expr : Expr} (derives : Derives (keyword :: tokens) (.primary expr)) : StandsAlone back :=
    juncture.alone ⟨keyword, tokens, expr, within, by simp [loops], derives⟩
  rw [loop, loop]
  have behind : tokens <:+ front := (List.suffix_cons keyword tokens).trans within
  refine extends_bind (join.condition behind) fun _ _ tested related => ?_
  obtain ⟨test, ⟨within⟩⟩ := related
  refine extends_bind (join.statement within) fun _ _ answered found => ?_
  refine extends_bind (extends_require endLine otherLine .statementAfterTest _ _ (found.imp_right And.right))
    fun _ _ required related => ?_
  obtain ⟨opening, closing, inner, opens, closes, rfl, condition⟩ :=
    (rules_derive endLine fuel).condition _ _ tested
  obtain ⟨repeated, cut, read⟩ := statement_required answered required
  cases related with
  | same body leaves =>
      cases leaves with
      | ahead within more => exact extends_ok (.same _ (.ahead within))
      | taken =>
          rw [List.append_nil] at cut
          subst cut
          have alone := ends (.loop keyword opening closing loops opens closes condition read)
          exact extends_ok (.same _ (.taken alone))

theorem suffix_left {read : List Expr} {rest : List Token}
    (answered : statements endLine fuel tokens = .ok (read, rest)) : rest <:+ tokens := by
  obtain ⟨taken, cut, -⟩ := (rules_derive endLine fuel).statements tokens _ answered
  exact ⟨taken, cut.symm⟩

include join in
theorem statement_expression_join {first : Token} {rest : List Token} (within : first :: rest <:+ front) :
    Extends (SameIfSome (Leaves front semicolon back)) (statementExpression endLine fuel (first :: rest))
      (statementExpression otherLine fuel (first :: rest ++ semicolon :: back)) := by
  have behind : rest <:+ front := (List.suffix_cons first rest).trans within
  rw [List.cons_append, statementExpression, statementExpression]
  by_cases declares : first.text = "let"
  · rw [if_pos declares, if_pos declares]
    refine extends_bind (join.declaration first.line behind) fun _ _ _ related => ?_
    obtain ⟨read, leaves⟩ := related
    exact extends_ok (.some read leaves)
  rw [if_neg declares, if_neg declares]
  by_cases branches : first.text = "if"
  · rw [if_pos branches, if_pos branches]
    refine extends_bind (join.conditional branches within) fun _ _ _ related => ?_
    obtain ⟨read, leaves⟩ := related
    exact extends_ok (.some read leaves)
  rw [if_neg branches, if_neg branches]
  by_cases loops : first.text = "while"
  · rw [if_pos loops, if_pos loops]
    refine extends_bind (join.loop loops within) fun _ _ _ related => ?_
    obtain ⟨read, leaves⟩ := related
    exact extends_ok (.some read leaves)
  rw [if_neg loops, if_neg loops]
  by_cases brace : first.text = "\x7b"
  · rw [if_pos brace, if_pos brace]
    cases answered : statements endLine fuel rest with
    | error stop => exact extends_error _ stop _
    | ok answer =>
        obtain ⟨inner, last⟩ := answer
        cases last with
        | nil => exact extends_error _ (.failed ⟨endLine, _⟩) _
        | cons closing last =>
            have left := (suffix_left answered).trans behind
            rw [join.statements behind answered (List.cons_ne_nil closing last)]
            change Extends _ (expect endLine "\x7d" (closing :: last) >>= _)
              (expect otherLine "\x7d" (closing :: last ++ semicolon :: back) >>= _)
            refine extends_bind (extends_expect endLine otherLine "\x7d" (.ahead left))
              fun _ _ _ related => ?_
            obtain ⟨closing, ⟨within⟩⟩ := related
            exact extends_ok (.some _ (.ahead within))
  rw [if_neg brace, if_neg brace]
  exact extends_ok .none

include juncture join in
theorem primary_join (within : tokens <:+ front) :
    Extends (SameIfSome (Leaves front semicolon back)) (primary endLine (fuel + 1) tokens)
      (primary otherLine (fuel + 1) (tokens ++ semicolon :: back)) := by
  cases tokens with
  | nil =>
      have nothing : primary otherLine (fuel + 1) (semicolon :: back) = .ok none := by
        rw [primary]
        simp [juncture.separates]
        rfl
      rw [primary, List.nil_append, nothing]
      exact extends_ok .none
  | cons first rest =>
      have behind : rest <:+ front := (List.suffix_cons first rest).trans within
      rw [List.cons_append]
      by_cases identifier : first.kind = .identifier
      · rw [primary, primary, if_pos identifier, if_pos identifier]
        simp only [accept_join juncture "(" (by decide)]
        cases accepted : accept "(" rest with
        | none => exact extends_ok (.some _ (.ahead behind))
        | some taken =>
            obtain ⟨opening, rest⟩ := taken
            obtain ⟨rfl, -⟩ := accept_cons accepted
            refine extends_bind (join.arguments ((List.suffix_cons opening rest).trans behind))
              fun _ _ _ related => ?_
            obtain ⟨arguments, ⟨within⟩⟩ := related
            exact extends_ok (.some _ (.ahead within))
      by_cases parenthesis : first.text = "("
      · rw [primary, primary, if_neg identifier, if_neg identifier, if_pos parenthesis, if_pos parenthesis]
        refine extends_bind (join.expression behind) fun _ _ _ found => ?_
        refine extends_bind (extends_require endLine otherLine .expression _ _ (.inl found))
          fun _ _ _ related => ?_
        obtain ⟨inner, leaves⟩ := related
        refine extends_bind (extends_expect endLine otherLine ")" leaves) fun _ _ _ related => ?_
        obtain ⟨closing, ⟨within⟩⟩ := related
        exact extends_ok (.some inner (.ahead within))
      by_cases literal : first.kind = .literal
      · rw [primary, primary, if_neg identifier, if_neg identifier, if_neg parenthesis, if_neg parenthesis,
          if_pos literal, if_pos literal]
        exact extends_ok (.some _ (.ahead behind))
      rw [primary_last endLine fuel first rest identifier parenthesis literal,
        primary_last otherLine fuel first _ identifier parenthesis literal]
      exact statement_expression_join join within


theorem statements_cases {rest : List Token} {read : List Expr}
    (answered : statements endLine (fuel + 1) tokens = .ok (read, rest)) :
    (statement endLine fuel tokens = .ok none ∧ read = [] ∧ rest = tokens) ∨
      ∃ first behind others, statement endLine fuel tokens = .ok (some (first, behind)) ∧
        statements endLine fuel behind = .ok (others, rest) ∧ read = first :: others := by
  rw [statements] at answered
  cases found : statement endLine fuel tokens with
  | error stop =>
      rw [found] at answered
      cases answered
  | ok answer =>
      rw [found] at answered
      cases answer with
      | none =>
          cases answered
          exact .inl ⟨rfl, rfl, rfl⟩
      | some answer =>
          obtain ⟨first, behind⟩ := answer
          cases further : statements endLine fuel behind with
          | error stop => simp [further, bind, Except.bind] at answered
          | ok answer =>
              simp only [further, bind, Except.bind] at answered
              cases answered
              exact .inr ⟨first, behind, answer.1, rfl, further, rfl⟩

include join in
theorem statements_join {rest : List Token} {read : List Expr} (within : tokens <:+ front)
    (answered : statements endLine (fuel + 1) tokens = .ok (read, rest)) (more : rest ≠ []) :
    statements otherLine (fuel + 1) (tokens ++ semicolon :: back) =
      .ok (read, rest ++ semicolon :: back) := by
  rw [statements]
  rcases statements_cases answered with ⟨found, rfl, rfl⟩ | ⟨first, behind, others, found, further, rfl⟩
  · obtain ⟨_, other, related | ⟨empty, -⟩⟩ := join.statement within _ found
    · cases related with
      | none =>
          rw [other]
          rfl
    · exact absurd empty more
  · obtain ⟨_, other, related | ⟨-, ⟨⟩⟩⟩ := join.statement within _ found
    cases related with
    | some _ leaves =>
        cases leaves with
        | taken => exact absurd (List.suffix_nil.mp (suffix_left further)) more
        | ahead within _ =>
            rw [other]
            simp only [bind, Except.bind, join.statements within further more]
            rfl

include juncture join in
theorem rules_join_succ : RulesJoin front semicolon back endLine otherLine (fuel + 1) where
  statements := statements_join join
  statement := statement_join juncture join
  expression := expression_join join
  chain groups _ levels within := chain_join join groups levels within
  continuation group tighter _ _ levels leaves := continuation_join juncture join group tighter levels leaves
  unary := unary_join juncture join
  primary := primary_join juncture join
  arguments := arguments_join juncture join
  declaration line _ within := declaration_join juncture join line within
  conditional := conditional_join juncture join
  loop := loop_join juncture join
  condition := condition_join join

end Rules

theorem rules_join {front back : List Token} {semicolon : Token} (juncture : Juncture front semicolon back)
    (endLine otherLine fuel : Nat) : RulesJoin front semicolon back endLine otherLine fuel := by
  induction fuel with
  | zero => exact rules_join_zero front semicolon back endLine otherLine
  | succ fuel ih => exact rules_join_succ juncture ih

end Scriptlet.Grammar
