import Scriptlet.Grammar.Progress
import Scriptlet.Proofs.Expr.Lines

/-!
Two runs of the rules side by side.

What the runs of a rule have to do with one another is put together from what its steps have to do with one another.
`rules_compare` does the induction over the rules once: a relation between answers that every kind of step keeps
holds between the answers of every rule.
-/

set_option autoImplicit false

namespace Scriptlet.Grammar

-- No rule takes such a token of its own accord.
def IsCloser (token : Token) : Prop := token.kind = .separator ∧ token.text ∈ [")", "\x7d", ","]

theorem operator_not_closer {token : Token} (kind : token.kind = .operator) : ¬ IsCloser token := by
  rintro ⟨separates, -⟩
  cases kind.symm.trans separates

section Views

variable (view : Nat → Nat)

def SameToken (left right : Token) : Prop :=
  left.toLexeme = right.toLexeme ∧ view left.line = view right.line

def SameExpr (left right : Expr) : Prop := left.mapLines view = right.mapLines view

def SameExprs (left right : List Expr) : Prop := mapLinesOfAll view left = mapLinesOfAll view right

def SameChain (left right : Option OpenChain) : Prop :=
  left.map (OpenChain.mapLines view) = right.map (OpenChain.mapLines view)

end Views

def SameRead {α : Type} (same : α → α → Prop) (left right : α × List Token) : Prop := same left.1 right.1

def untaken (tokens : List Token) : Option (Expr × List Token) → List Token
  | none => tokens
  | some read => read.2

-- A relation between the answers of two runs. It is given what the results have in common, the tokens that they
-- leave, and the tokens from which the first run has started.
abbrev Relation := {α : Type} → (α → α → Prop) → (α → List Token) → (α → List Token) → List Token →
  Answer α → Answer α → Prop

abbrev HoldsBehind {α : Type} (holds : Relation) (same : α → α → Prop) (start : List Token)
    (answer other : Answer (α × List Token)) : Prop :=
  holds (SameRead same) Prod.snd Prod.snd start answer other

abbrev HoldsIfSome (holds : Relation) (view : Nat → Nat) (left right start : List Token)
    (answer other : Answer (Option (Expr × List Token))) : Prop :=
  holds (Option.Rel (SameRead (SameExpr view))) (untaken left) (untaken right) start answer other

structure Compares (view : Nat → Nat) (endLine otherLine : Nat) (meet : List Token → List Token → Prop)
    (holds : Relation) : Prop where
  head : ∀ {token other : Token} {left right : List Token}, meet (token :: left) (other :: right) →
    SameToken view token other
  tail : ∀ {token other : Token} {left right : List Token}, meet (token :: left) (other :: right) →
    meet left right
  notShorter : ∀ {token : Token} {left : List Token}, ¬ meet (token :: left) []
  ok : ∀ {α : Type} {same : α → α → Prop} (left right : α → List Token) (a b : α),
    meet (left a) (right b) → same a b → holds same left right (left a) (.ok a) (.ok b)
  exhausted : ∀ {α : Type} {same : α → α → Prop} {left right : α → List Token} {start : List Token}
    {other : Answer α}, holds same left right start (.error .outOfFuel) other
  bind : ∀ {α β : Type} {same : α → α → Prop} {left right : α → List Token} {further : β → β → Prop}
    {lefts rights : β → List Token} {start : List Token} {answer other : Answer α}
    {next nexts : α → Answer β}, holds same left right start answer other →
    (∀ a b, same a b → meet (left a) (right b) → holds further lefts rights (left a) (next a) (nexts b)) →
    holds further lefts rights start (answer >>= next) (other >>= nexts)
  taken : ∀ {α : Type} {same : α → α → Prop} {left right : α → List Token} (token : Token)
    {start : List Token} {answer other : Answer α}, holds same left right start answer other →
    holds same left right (token :: start) answer other
  -- Where the first text has ended, the second one may go on.
  ended : ∀ {α : Type} {same : α → α → Prop} {left right : α → List Token} {token : Token}
    {behind : List Token} {answer other : Answer α} (another : Answer α), meet [] (token :: behind) →
    (IsCloser token → ∃ error, answer = .error (.failed error)) → holds same left right [] answer other →
    holds same left right [] answer another
  expected : ∀ {α : Type} {same : α → α → Prop} {left right : α → List Token} (what : Expectation)
    {tokens others : List Token}, meet tokens others →
    holds same left right tokens (failExpected endLine what tokens) (failExpected otherLine what others)
  missingOperand : ∀ {α : Type} {same : α → α → Prop} {left right : α → List Token} {token other : Token}
    {tokens others start : List Token}, meet (token :: tokens) (other :: others) → token.kind = .operator →
    holds same left right start (fail token.line (.missingOperand token.text))
      (fail other.line (.missingOperand other.text))
  invalidSign : ∀ {α : Type} {same : α → α → Prop} {left right : α → List Token} {token other : Token}
    {tokens others : List Token}, meet (token :: tokens) (other :: others) → token.kind = .operator →
    Operator.find? token.text .unary = none →
    holds same left right (token :: tokens) (fail token.line (.invalidUnaryOperator token.text))
      (fail other.line (.invalidUnaryOperator other.text))

inductive Accepts (test : Token → Bool) : (left right : List Token) →
    Option (Token × List Token) → Option (Token × List Token) → Prop where
  | refused (left right : List Token) : Accepts test left right none none
  | taken (token other : Token) (left right : List Token) (passes : test token = true) :
      Accepts test (token :: left) (other :: right) (some (token, left)) (some (other, right))
  | ended (token : Token) (right : List Token) (passes : test token = true) :
      Accepts test [] (token :: right) none (some (token, right))

theorem statement_expression_closer (endLine fuel : Nat) (closer : Token) (rest : List Token)
    (closes : IsCloser closer) : statementExpression endLine fuel (closer :: rest) = .ok none := by
  have text := closes.2
  simp only [List.mem_cons, List.not_mem_nil, or_false] at text
  rw [statementExpression]
  rcases text with text | text | text <;> simp [text] <;> rfl

theorem primary_closer (endLine fuel : Nat) (closer : Token) (rest : List Token)
    (closes : IsCloser closer) : primary endLine (fuel + 1) (closer :: rest) = .ok none := by
  obtain ⟨kind, text⟩ := closes
  have opening : closer.text ≠ "(" := by
    rintro same
    simp [same] at text
  rw [primary_last endLine fuel closer rest (by simp [kind]) opening (by simp [kind])]
  exact statement_expression_closer endLine fuel closer rest ⟨kind, text⟩

section Steps

variable {view : Nat → Nat} {endLine otherLine : Nat} {meet : List Token → List Token → Prop}
  {holds : Relation} (compares : Compares view endLine otherLine meet holds) {left right : List Token}
include compares

theorem compares_read {α : Type} {same : α → α → Prop} {a b : α} (meets : meet left right)
    (alike : same a b) : HoldsBehind holds same left (.ok (a, left)) (.ok (b, right)) :=
  compares.ok Prod.snd Prod.snd (a, left) (b, right) meets alike

theorem compares_none (meets : meet left right) :
    HoldsIfSome holds view left right left (.ok none) (.ok none) :=
  compares.ok (untaken left) (untaken right) none none meets .none

theorem compares_some {tokens others : List Token} {first second : Expr} (meets : meet left right)
    (same : SameExpr view first second) :
    HoldsIfSome holds view tokens others left (.ok (some (first, left))) (.ok (some (second, right))) :=
  compares.ok (untaken tokens) (untaken others) (some (first, left)) (some (second, right)) meets (.some same)

theorem compares_ended {α : Type} {same : α → α → Prop} {lefts rights : α → List Token} {text : String}
    {token : Token} {behind : List Token} {answer other : Answer α} (another : Answer α)
    (meets : meet [] (token :: behind)) (names : token.text = text) (opens : text ∉ [")", "\x7d", ","])
    (compared : holds same lefts rights [] answer other) : holds same lefts rights [] answer another :=
  compares.ended another meets (fun closes => absurd (names ▸ closes.2) opens) compared

variable (meets : meet left right)
include meets

theorem accept_if_compared (test : Token → Bool)
    (lexical : ∀ first second : Token, first.toLexeme = second.toLexeme → test first = test second) :
    Accepts test left right (acceptIf test left) (acceptIf test right) := by
  cases left with
  | nil =>
      cases right with
      | nil => exact .refused _ _
      | cons other behind =>
          by_cases passes : test other = true
          · rw [accept_if_cons_pos behind passes]
            exact .ended other behind passes
          · rw [accept_if_cons_neg behind passes]
            exact .refused _ _
  | cons token rest =>
      cases right with
      | nil => exact absurd meets compares.notShorter
      | cons other behind =>
          have same := lexical token other (compares.head meets).1
          by_cases passes : test token = true
          · rw [accept_if_cons_pos rest passes, accept_if_cons_pos behind (same ▸ passes)]
            exact .taken token other rest behind passes
          · rw [accept_if_cons_neg rest passes, accept_if_cons_neg behind (same ▸ passes)]
            exact .refused _ _

theorem accept_compared (text : String) :
    Accepts (fun token => token.text = text) left right (accept text left) (accept text right) := by
  apply accept_if_compared compares meets
  intro first second same
  have texts : first.text = second.text := congrArg Lexeme.text same
  rw [texts]

theorem accept_kind_compared (kind : TokenKind) :
    Accepts (fun token => token.kind = kind) left right (acceptKind kind left) (acceptKind kind right) := by
  apply accept_if_compared compares meets
  intro first second same
  have kinds : first.kind = second.kind := congrArg Lexeme.kind same
  rw [kinds]

theorem compares_expect (text : String) :
    HoldsBehind holds (SameToken view) left (expect endLine text left) (expect otherLine text right) := by
  have failing : HoldsBehind holds (SameToken view) left (failExpected endLine (.lexeme text) left)
      (failExpected otherLine (.lexeme text) right) := compares.expected _ meets
  have accepted := accept_compared compares meets text
  unfold expect
  generalize accept text left = first, accept text right = second at accepted ⊢
  cases accepted with
  | refused => exact failing
  | taken token other rest behind =>
      exact compares.taken token (compares_read compares (compares.tail meets) (compares.head meets))
  | ended other behind => exact compares.ended _ meets (fun _ => ⟨_, rfl⟩) failing

theorem compares_expect_kind (kind : TokenKind) :
    HoldsBehind holds (SameToken view) left (expectKind endLine kind left) (expectKind otherLine kind right) := by
  have failing : HoldsBehind holds (SameToken view) left (failExpected endLine (.kind kind) left)
      (failExpected otherLine (.kind kind) right) := compares.expected _ meets
  have accepted := accept_kind_compared compares meets kind
  unfold expectKind
  generalize acceptKind kind left = first, acceptKind kind right = second at accepted ⊢
  cases accepted with
  | refused => exact failing
  | taken token other rest behind =>
      exact compares.taken token (compares_read compares (compares.tail meets) (compares.head meets))
  | ended other behind => exact compares.ended _ meets (fun _ => ⟨_, rfl⟩) failing

omit meets in
theorem compares_require (what : Expectation) {found other : Option (Expr × List Token)}
    (same : Option.Rel (SameRead (SameExpr view)) found other)
    (meets : meet (untaken left found) (untaken right other)) :
    HoldsBehind holds (SameExpr view) (untaken left found) (require endLine what left found)
      (require otherLine what right other) := by
  cases same with
  | none => exact compares.expected what meets
  | some same => exact compares_read compares meets same

end Steps

section Rules

variable (view : Nat → Nat) (endLine otherLine : Nat) (meet : List Token → List Token → Prop) (holds : Relation)

structure RulesCompare (fuel more : Nat) : Prop where
  statements : ∀ {left right : List Token}, meet left right →
    HoldsBehind holds (SameExprs view) left (statements endLine fuel left) (statements otherLine more right)
  statement : ∀ {left right : List Token}, meet left right →
    HoldsIfSome holds view left right left (statement endLine fuel left) (statement otherLine more right)
  expression : ∀ {left right : List Token}, meet left right →
    HoldsIfSome holds view left right left (expression endLine fuel left) (expression otherLine more right)
  chain : ∀ (groups : List OperatorGroup) {left right : List Token}, meet left right →
    HoldsIfSome holds view left right left (chain endLine fuel groups left) (chain otherLine more groups right)
  continuation : ∀ (group : OperatorGroup) (tighter : List OperatorGroup) {left right : List Token},
    meet left right →
    HoldsBehind holds (SameChain view) left (continuation endLine fuel group tighter left)
      (continuation otherLine more group tighter right)
  unary : ∀ {left right : List Token}, meet left right →
    HoldsIfSome holds view left right left (unary endLine fuel left) (unary otherLine more right)
  primary : ∀ {left right : List Token}, meet left right →
    HoldsIfSome holds view left right left (primary endLine fuel left) (primary otherLine more right)
  arguments : ∀ {left right : List Token}, meet left right →
    HoldsBehind holds (SameExprs view) left (arguments endLine fuel left) (arguments otherLine more right)
  declaration : ∀ {line other : Nat} {left right : List Token}, view line = view other → meet left right →
    HoldsBehind holds (SameExpr view) left (declaration endLine fuel line left)
      (declaration otherLine more other right)
  conditional : ∀ {line other : Nat} {left right : List Token}, view line = view other → meet left right →
    HoldsBehind holds (SameExpr view) left (conditional endLine fuel line left)
      (conditional otherLine more other right)
  loop : ∀ {line other : Nat} {left right : List Token}, view line = view other → meet left right →
    HoldsBehind holds (SameExpr view) left (loop endLine fuel line left) (loop otherLine more other right)
  condition : ∀ {left right : List Token}, meet left right →
    HoldsBehind holds (SameExpr view) left (condition endLine fuel left) (condition otherLine more right)

end Rules

section Step

variable {view : Nat → Nat} {endLine otherLine : Nat} {meet : List Token → List Token → Prop}
  {holds : Relation} (compares : Compares view endLine otherLine meet holds)

include compares in
theorem rules_compare_zero (more : Nat) : RulesCompare view endLine otherLine meet holds 0 more := by
  constructor <;> intros <;> exact compares.exhausted

variable {fuel more : Nat} (rules : RulesCompare view endLine otherLine meet holds fuel more)
  {left right : List Token} (meets : meet left right)
include compares rules meets

theorem statements_compare :
    HoldsBehind holds (SameExprs view) left (statements endLine (fuel + 1) left)
      (statements otherLine (more + 1) right) := by
  rw [statements, statements]
  refine compares.bind (rules.statement meets) fun found other same meets => ?_
  cases same with
  | none => exact compares_read compares meets rfl
  | some first =>
      refine compares.bind (rules.statements meets) fun others further rest meets => ?_
      refine compares_read compares meets ?_
      simp only [SameRead, SameExpr, SameExprs, mapLinesOfAll] at first rest ⊢
      rw [first, rest]

omit rules in
theorem skip_compare {tokens others : List Token} {first second : Expr} (same : SameExpr view first second) :
    HoldsIfSome holds view tokens others left (.ok (some (first, skip ";" left)))
      (.ok (some (second, skip ";" right))) := by
  have accepted := accept_compared compares meets ";"
  unfold skip
  generalize accept ";" left = ends, accept ";" right = another at accepted ⊢
  cases accepted with
  | refused => exact compares_some compares meets same
  | taken token other rest behind =>
      exact compares.taken token (compares_some compares (compares.tail meets) same)
  | ended other behind passes =>
      exact compares_ended compares _ meets (of_decide_eq_true passes) (by decide)
        (compares_some compares meets same)

theorem ended_expression_compare :
    HoldsIfSome holds view left right left
      (do match ← expression endLine fuel left with
          | none => return none
          | some (read, rest) => return some (read, skip ";" rest))
      (do match ← expression otherLine more right with
          | none => return none
          | some (read, rest) => return some (read, skip ";" rest)) := by
  refine compares.bind (rules.expression meets) fun found other same meets => ?_
  cases same with
  | none => exact compares_none compares meets
  | some same => exact skip_compare compares meets same

theorem statement_compare :
    HoldsIfSome holds view left right left (statement endLine (fuel + 1) left)
      (statement otherLine (more + 1) right) := by
  have unended := ended_expression_compare compares rules meets
  have accepted := accept_compared compares meets ";"
  rw [statement, statement]
  generalize accept ";" left = first, accept ";" right = second at accepted ⊢
  cases accepted with
  | refused => exact unended
  | taken semicolon other rest behind =>
      refine compares.taken semicolon (compares_some compares (compares.tail meets) ?_)
      simp only [SameExpr, Expr.mapLines, (compares.head meets).2]
  | ended other behind passes =>
      exact compares_ended compares _ meets (of_decide_eq_true passes) (by decide) unended

omit compares in
theorem expression_compare :
    HoldsIfSome holds view left right left (expression endLine (fuel + 1) left)
      (expression otherLine (more + 1) right) := by
  rw [expression, expression]
  exact rules.chain binaryGroups meets

theorem chain_compare (groups : List OperatorGroup) :
    HoldsIfSome holds view left right left (chain endLine (fuel + 1) groups left)
      (chain otherLine (more + 1) groups right) := by
  cases groups with
  | nil =>
      rw [chain, chain]
      exact rules.unary meets
  | cons group tighter =>
      rw [chain, chain]
      refine compares.bind (rules.chain tighter meets) fun found other same meets => ?_
      cases same with
      | none => exact compares_none compares meets
      | some operands =>
          refine compares.bind (rules.continuation group tighter meets) ?_
          rintro ⟨operations, rest⟩ ⟨others, behind⟩ chains meets
          cases operations <;> cases others <;> simp only [SameRead, SameChain, Option.map_none,
            Option.map_some, reduceCtorEq, Option.some.injEq] at chains
          · exact compares_some compares meets operands
          · refine compares_some compares meets ?_
            simp only [SameRead, SameExpr] at operands ⊢
            rw [map_lines_fill, map_lines_fill, chains, operands]

theorem continuation_compare (group : OperatorGroup) (tighter : List OperatorGroup) :
    HoldsBehind holds (SameChain view) left (continuation endLine (fuel + 1) group tighter left)
      (continuation otherLine (more + 1) group tighter right) := by
  have accepted := accept_if_compared compares meets
    (fun token : Token => token.kind = .operator && group.contains token.text)
    (fun first second same => by
      have kinds : first.kind = second.kind := congrArg Lexeme.kind same
      have texts : first.text = second.text := congrArg Lexeme.text same
      simp only [kinds, texts])
  have stops : HoldsBehind holds (SameChain view) left (.ok (none, left)) (.ok (none, right)) :=
    compares_read compares meets rfl
  rw [continuation, continuation]
  generalize acceptIf _ left = first, acceptIf _ right = second at accepted ⊢
  cases accepted with
  | refused => exact stops
  | ended other behind passes =>
      simp only [Bool.and_eq_true, decide_eq_true_eq] at passes
      exact compares.ended _ meets (fun closes => absurd closes (operator_not_closer passes.1)) stops
  | taken token other rest behind passes =>
      obtain ⟨lexemes, lines⟩ := compares.head meets
      have texts : token.text = other.text := congrArg Lexeme.text lexemes
      simp only [Bool.and_eq_true, decide_eq_true_eq] at passes
      obtain ⟨kind, contained⟩ := passes
      have missing : HoldsBehind holds (SameChain view) rest (fail token.line (.missingOperand token.text))
          (fail other.line (.missingOperand other.text)) := compares.missingOperand meets kind
      dsimp only
      rw [← texts] at missing ⊢
      obtain ⟨operator, found⟩ := Option.isSome_iff_exists.mp contained
      rw [found]
      apply compares.taken token
      refine compares.bind (rules.chain tighter (compares.tail meets)) fun found other same meets => ?_
      cases same with
      | none => exact missing
      | some operands =>
          refine compares.bind (rules.continuation group tighter meets) fun deeper others chains meets => ?_
          refine compares_read compares meets ?_
          simp only [SameRead, SameExpr, SameChain, Option.map_some] at operands chains ⊢
          rw [map_lines_extend, map_lines_extend, chains]
          simp only [Link.mapLines, operands, lines]

theorem unary_compare :
    HoldsIfSome holds view left right left (unary endLine (fuel + 1) left) (unary otherLine (more + 1) right) := by
  have accepted := accept_kind_compared compares meets .operator
  rw [unary, unary]
  generalize acceptKind .operator left = first, acceptKind .operator right = second at accepted ⊢
  cases accepted with
  | refused => exact rules.primary meets
  | ended other behind passes =>
      have kind : other.kind = .operator := of_decide_eq_true passes
      exact compares.ended _ meets (fun closes => absurd closes (operator_not_closer kind)) (rules.primary meets)
  | taken sign other rest behind passes =>
      obtain ⟨lexemes, lines⟩ := compares.head meets
      have texts : sign.text = other.text := congrArg Lexeme.text lexemes
      have kind : sign.kind = .operator := of_decide_eq_true passes
      have missing : HoldsIfSome holds view (sign :: rest) (other :: behind) rest
          (fail sign.line (.missingOperand sign.text)) (fail other.line (.missingOperand other.text)) :=
        compares.missingOperand meets kind
      dsimp only
      cases found : Operator.find? sign.text .unary with
      | none =>
          rw [← texts, found]
          have invalid : HoldsIfSome holds view (sign :: rest) (other :: behind) (sign :: rest)
              (fail sign.line (.invalidUnaryOperator sign.text))
              (fail other.line (.invalidUnaryOperator other.text)) := compares.invalidSign meets kind found
          rwa [← texts] at invalid
      | some operator =>
          rw [← texts] at missing ⊢
          rw [found]
          apply compares.taken sign
          refine compares.bind (rules.primary (compares.tail meets)) fun found other same meets => ?_
          cases same with
          | none => exact missing
          | some operands =>
              refine compares_some compares meets ?_
              simp only [SameRead, SameExpr, Expr.mapLines] at operands ⊢
              rw [operands, lines]

theorem further_arguments_compare {first second : Expr} (same : SameExpr view first second) :
    HoldsBehind holds (SameExprs view) left
      (do let (_, rest) ← expect endLine "," left
          let (others, rest) ← arguments endLine fuel rest
          return (first :: others, rest))
      (do let (_, rest) ← expect otherLine "," right
          let (others, rest) ← arguments otherLine more rest
          return (second :: others, rest)) := by
  refine compares.bind (compares_expect compares meets ",") fun comma other _ meets => ?_
  refine compares.bind (rules.arguments meets) fun others rest tails meets => ?_
  refine compares_read compares meets ?_
  simp only [SameRead, SameExpr, SameExprs, mapLinesOfAll] at same tails ⊢
  rw [same, tails]

theorem arguments_compare :
    HoldsBehind holds (SameExprs view) left (arguments endLine (fuel + 1) left)
      (arguments otherLine (more + 1) right) := by
  rw [arguments, arguments]
  refine compares.bind (rules.expression meets) fun found other same meets => ?_
  cases same with
  | none =>
      refine compares.bind (compares_expect compares meets ")") fun closing other _ meets => ?_
      exact compares_read compares meets rfl
  | @some first second same =>
      obtain ⟨first, rest⟩ := first
      obtain ⟨second, behind⟩ := second
      have further := further_arguments_compare compares rules meets same
      have accepted := accept_compared compares meets ")"
      dsimp only [untaken] at accepted further ⊢
      generalize accept ")" rest = closing, accept ")" behind = another at accepted ⊢
      cases accepted with
      | refused => exact further
      | taken closing other rest behind =>
          refine compares.taken closing (compares_read compares (compares.tail meets) ?_)
          simp only [SameRead, SameExpr, SameExprs, mapLinesOfAll] at same ⊢
          rw [same]
      | ended other behind => exact compares.ended _ meets (fun _ => ⟨_, rfl⟩) further

theorem declaration_compare {line other : Nat} (lines : view line = view other) :
    HoldsBehind holds (SameExpr view) left (declaration endLine (fuel + 1) line left)
      (declaration otherLine (more + 1) other right) := by
  rw [declaration, declaration]
  refine compares.bind (compares_expect_kind compares meets .identifier) ?_
  rintro ⟨name, rest⟩ ⟨otherName, behind⟩ ⟨lexemes, -⟩ meets
  have names : name.text = otherName.text := congrArg Lexeme.text lexemes
  have bare : HoldsBehind holds (SameExpr view) rest (.ok (.declare line name.text none, rest))
      (.ok (.declare other otherName.text none, behind)) := by
    refine compares_read compares meets ?_
    simp only [SameExpr, Expr.mapLines, lines, names]
  have accepted := accept_compared compares meets "="
  dsimp only at meets accepted ⊢
  generalize accept "=" rest = first, accept "=" behind = second at accepted ⊢
  cases accepted with
  | refused => exact bare
  | ended equals behind passes =>
      exact compares_ended compares _ meets (of_decide_eq_true passes) (by decide) bare
  | taken equals otherEquals rest behind =>
      apply compares.taken equals
      refine compares.bind (rules.expression (compares.tail meets)) fun found other same meets => ?_
      refine compares.bind (compares_require compares .expression same meets) ?_
      intro initializer other initializers meets
      refine compares_read compares meets ?_
      simp only [SameRead, SameExpr, Expr.mapLines] at initializers ⊢
      rw [lines, names, initializers]

theorem condition_compare :
    HoldsBehind holds (SameExpr view) left (condition endLine (fuel + 1) left)
      (condition otherLine (more + 1) right) := by
  rw [condition, condition]
  refine compares.bind (compares_expect compares meets "(") fun opening other _ meets => ?_
  refine compares.bind (rules.expression meets) fun found other same meets => ?_
  refine compares.bind (compares_require compares .testExpression same meets) fun test other tests meets => ?_
  refine compares.bind (compares_expect compares meets ")") fun closing other _ meets => ?_
  exact compares_read compares meets tests

theorem conditional_compare {line other : Nat} (lines : view line = view other) :
    HoldsBehind holds (SameExpr view) left (conditional endLine (fuel + 1) line left)
      (conditional otherLine (more + 1) other right) := by
  rw [conditional, conditional]
  refine compares.bind (rules.condition meets) fun test otherTest conditions meets => ?_
  refine compares.bind (rules.statement meets) fun found another same meets => ?_
  refine compares.bind (compares_require compares .statementAfterTest same meets) ?_
  rintro ⟨thenBranch, rest⟩ ⟨otherThen, behind⟩ thens meets
  simp only [SameRead, SameExpr] at conditions thens
  have bare : HoldsBehind holds (SameExpr view) rest (.ok (.branch line test.1 thenBranch none, rest))
      (.ok (.branch other otherTest.1 otherThen none, behind)) := by
    refine compares_read compares meets ?_
    simp only [SameExpr, Expr.mapLines, lines, conditions, thens]
  have accepted := accept_compared compares meets "else"
  dsimp only at meets accepted ⊢
  generalize accept "else" rest = first, accept "else" behind = second at accepted ⊢
  cases accepted with
  | refused => exact bare
  | ended keyword behind passes =>
      exact compares_ended compares _ meets (of_decide_eq_true passes) (by decide) bare
  | taken keyword otherKeyword rest behind =>
      apply compares.taken keyword
      refine compares.bind (rules.statement (compares.tail meets)) fun found another same meets => ?_
      refine compares.bind (compares_require compares .statementAfterElse same meets) ?_
      intro elseBranch otherElse elses meets
      refine compares_read compares meets ?_
      simp only [SameRead, SameExpr, Expr.mapLines] at elses ⊢
      rw [lines, conditions, thens, elses]

theorem loop_compare {line other : Nat} (lines : view line = view other) :
    HoldsBehind holds (SameExpr view) left (loop endLine (fuel + 1) line left)
      (loop otherLine (more + 1) other right) := by
  rw [loop, loop]
  refine compares.bind (rules.condition meets) fun test otherTest conditions meets => ?_
  refine compares.bind (rules.statement meets) fun found another same meets => ?_
  refine compares.bind (compares_require compares .statementAfterTest same meets) ?_
  intro body otherBody bodies meets
  refine compares_read compares meets ?_
  simp only [SameRead, SameExpr, Expr.mapLines] at conditions bodies ⊢
  rw [lines, conditions, bodies]

omit meets in
theorem call_compare {first other : Token} (meets : meet left right) (same : SameToken view first other)
    (tokens others : List Token) :
    HoldsIfSome holds view tokens others left
      (match accept "(" left with
        | none => return some (.identifier first.line first.text, left)
        | some (_, rest) => do
            let (arguments, rest) ← arguments endLine fuel rest
            return some (.call first.line first.text arguments, rest))
      (match accept "(" right with
        | none => return some (.identifier other.line other.text, right)
        | some (_, rest) => do
            let (arguments, rest) ← arguments otherLine more rest
            return some (.call other.line other.text arguments, rest)) := by
  obtain ⟨lexemes, lines⟩ := same
  have texts : first.text = other.text := congrArg Lexeme.text lexemes
  have bare : HoldsIfSome holds view tokens others left (.ok (some (.identifier first.line first.text, left)))
      (.ok (some (.identifier other.line other.text, right))) := by
    refine compares_some compares meets ?_
    simp only [SameExpr, Expr.mapLines, lines, texts]
  have accepted := accept_compared compares meets "("
  generalize accept "(" left = first, accept "(" right = second at accepted ⊢
  cases accepted with
  | refused => exact bare
  | ended opening behind passes =>
      exact compares_ended compares _ meets (of_decide_eq_true passes) (by decide) bare
  | taken opening otherOpening rest behind =>
      apply compares.taken opening
      refine compares.bind (rules.arguments (compares.tail meets)) fun listed another arguments meets => ?_
      refine compares_some compares meets ?_
      simp only [SameRead, SameExpr, SameExprs, Expr.mapLines] at arguments ⊢
      rw [lines, texts, arguments]

theorem statement_expression_compare :
    HoldsIfSome holds view left right left (statementExpression endLine fuel left)
      (statementExpression otherLine more right) := by
  have nothing : HoldsIfSome holds view left right left (.ok none) (.ok none) := compares_none compares meets
  cases left with
  | nil =>
      rw [statementExpression]
      cases right with
      | nil => exact nothing
      | cons other behind =>
          by_cases closes : IsCloser other
          · rw [statement_expression_closer otherLine more other behind closes]
            exact nothing
          · exact compares.ended _ meets (fun closing => absurd closing closes) nothing
  | cons token rest =>
      cases right with
      | nil => exact absurd meets compares.notShorter
      | cons other behind =>
          obtain ⟨lexemes, lines⟩ := compares.head meets
          have texts : token.text = other.text := congrArg Lexeme.text lexemes
          have meets := compares.tail meets
          rw [statementExpression, statementExpression]
          by_cases declares : other.text = "let"
          · rw [if_pos (texts.trans declares), if_pos declares]
            apply compares.taken token
            refine compares.bind (rules.declaration lines meets) fun read other same meets => ?_
            exact compares_some compares meets same
          rw [if_neg (texts ▸ declares), if_neg declares]
          by_cases branches : other.text = "if"
          · rw [if_pos (texts.trans branches), if_pos branches]
            apply compares.taken token
            refine compares.bind (rules.conditional lines meets) fun read other same meets => ?_
            exact compares_some compares meets same
          rw [if_neg (texts ▸ branches), if_neg branches]
          by_cases loops : other.text = "while"
          · rw [if_pos (texts.trans loops), if_pos loops]
            apply compares.taken token
            refine compares.bind (rules.loop lines meets) fun read other same meets => ?_
            exact compares_some compares meets same
          rw [if_neg (texts ▸ loops), if_neg loops]
          by_cases brace : other.text = "\x7b"
          · rw [if_pos (texts.trans brace), if_pos brace]
            apply compares.taken token
            refine compares.bind (rules.statements meets) fun inner other statements meets => ?_
            refine compares.bind (compares_expect compares meets "\x7d") fun closing other _ meets => ?_
            refine compares_some compares meets ?_
            simp only [SameRead, SameExpr, SameExprs, Expr.mapLines] at statements ⊢
            rw [lines, statements]
          rw [if_neg (texts ▸ brace), if_neg brace]
          exact nothing

theorem primary_compare :
    HoldsIfSome holds view left right left (primary endLine (fuel + 1) left)
      (primary otherLine (more + 1) right) := by
  have last := statement_expression_compare compares rules meets
  cases left with
  | nil =>
      rw [primary]
      cases right with
      | nil => exact last
      | cons other behind =>
          by_cases closes : IsCloser other
          · rw [primary_closer otherLine more other behind closes]
            exact compares_none compares meets
          · exact compares.ended _ meets (fun closing => absurd closing closes) last
  | cons token rest =>
      cases right with
      | nil => exact absurd meets compares.notShorter
      | cons other behind =>
          have same := compares.head meets
          have kinds : token.kind = other.kind := congrArg Lexeme.kind same.1
          have texts : token.text = other.text := congrArg Lexeme.text same.1
          have meets := compares.tail meets
          by_cases identifier : other.kind = .identifier
          · rw [primary, primary, if_pos (kinds.trans identifier), if_pos identifier]
            exact compares.taken token (call_compare compares rules meets same _ _)
          by_cases parenthesis : other.text = "("
          · rw [primary, primary, if_neg (kinds ▸ identifier), if_neg identifier,
              if_pos (texts.trans parenthesis), if_pos parenthesis]
            apply compares.taken token
            refine compares.bind (rules.expression meets) fun found other same meets => ?_
            refine compares.bind (compares_require compares .expression same meets) ?_
            intro inner other expressions meets
            refine compares.bind (compares_expect compares meets ")") fun closing other _ meets => ?_
            exact compares_some compares meets expressions
          by_cases literal : other.kind = .literal
          · rw [primary, primary, if_neg (kinds ▸ identifier), if_neg identifier, if_neg (texts ▸ parenthesis),
              if_neg parenthesis, if_pos (kinds.trans literal), if_pos literal]
            refine compares.taken token (compares_some compares meets ?_)
            simp only [SameExpr, Expr.mapLines, same.2, texts]
          rw [primary_last endLine fuel token rest (kinds ▸ identifier) (texts ▸ parenthesis) (kinds ▸ literal),
            primary_last otherLine more other behind identifier parenthesis literal]
          exact last

omit meets in
theorem rules_compare_succ : RulesCompare view endLine otherLine meet holds (fuel + 1) (more + 1) where
  statements meets := statements_compare compares rules meets
  statement meets := statement_compare compares rules meets
  expression meets := expression_compare rules meets
  chain groups _ _ meets := chain_compare compares rules meets groups
  continuation group tighter _ _ meets := continuation_compare compares rules meets group tighter
  unary meets := unary_compare compares rules meets
  primary meets := primary_compare compares rules meets
  arguments meets := arguments_compare compares rules meets
  declaration lines meets := declaration_compare compares rules meets lines
  conditional lines meets := conditional_compare compares rules meets lines
  loop lines meets := loop_compare compares rules meets lines
  condition meets := condition_compare compares rules meets

end Step

theorem rules_compare {view : Nat → Nat} {endLine otherLine fuel more : Nat}
    {meet : List Token → List Token → Prop} {holds : Relation}
    (compares : Compares view endLine otherLine meet holds) (enough : fuel ≤ more) :
    RulesCompare view endLine otherLine meet holds fuel more := by
  induction fuel generalizing more with
  | zero => exact rules_compare_zero compares more
  | succ fuel ih =>
      obtain ⟨more, rfl⟩ : ∃ least, more = least + 1 := ⟨more - 1, by omega⟩
      exact rules_compare_succ compares (ih (by omega))

end Scriptlet.Grammar
