import Scriptlet.Grammar

/-!
Every rule of the grammar takes a token or stands still, so reading ends.

The rules descend without taking a token through statements, expressions, the operator groups,
unary and primary expressions. A fuel of sixteen for each token covers that descent, and the main
statement `settles` says that a rule with so much fuel never runs out of it.
-/

set_option autoImplicit false

namespace Scriptlet.Grammar

def Settled {α : Type} (property : α → Prop) : Answer α → Prop
  | .ok answer => property answer
  | .error (.failed _) => True
  | .error .outOfFuel => False

def Shorter {α : Type} (tokens : List Token) (answer : α × List Token) : Prop :=
  answer.2.length < tokens.length

def NotLonger {α : Type} (tokens : List Token) (answer : α × List Token) : Prop :=
  answer.2.length ≤ tokens.length

def ShorterIfSome {α : Type} (tokens : List Token) (answer : Option (α × List Token)) : Prop :=
  ∀ read, answer = some read → Shorter tokens read

theorem settled_bind {α β : Type} {first : α → Prop} {second : β → Prop} {answer : Answer α}
    {next : α → Answer β} (settled : Settled first answer)
    (continues : ∀ a, first a → Settled second (next a)) : Settled second (answer >>= next) := by
  match answer, settled with
  | .ok a, holds => exact continues a holds
  | .error (.failed _), _ => trivial

theorem settled_fail {α : Type} (property : α → Prop) (line : Nat) (fault : SyntacticFault) :
    Settled property (fail line fault) := trivial

theorem settled_fail_expected {α : Type} (property : α → Prop) (endLine : Nat) (what : Expectation)
    (tokens : List Token) : Settled property (failExpected endLine what tokens) := by
  cases tokens <;> trivial

theorem settled_none {α : Type} (tokens : List Token) :
    Settled (ShorterIfSome tokens) (.ok (none : Option (α × List Token))) :=
  fun _ impossible => nomatch impossible

theorem settled_some {α : Type} (tokens : List Token) (read : α × List Token)
    (shorter : Shorter tokens read) : Settled (ShorterIfSome tokens) (.ok (some read)) :=
  fun _ same => Option.some.inj same ▸ shorter

theorem accept_if_shorter (test : Token → Bool) (tokens : List Token) (taken : Token × List Token)
    (accepted : acceptIf test tokens = some taken) : Shorter tokens taken := by
  cases tokens with
  | nil => cases accepted
  | cons token rest =>
      by_cases passes : test token = true
      · rw [accept_if_cons_pos rest passes] at accepted
        cases accepted
        exact Nat.lt_succ_self _
      · rw [accept_if_cons_neg rest passes] at accepted
        cases accepted

theorem accept_shorter (text : String) (tokens : List Token) (taken : Token × List Token)
    (accepted : accept text tokens = some taken) : Shorter tokens taken :=
  accept_if_shorter _ tokens taken accepted

theorem accept_kind_shorter (kind : TokenKind) (tokens : List Token) (taken : Token × List Token)
    (accepted : acceptKind kind tokens = some taken) : Shorter tokens taken :=
  accept_if_shorter _ tokens taken accepted

theorem skip_not_longer (text : String) (tokens : List Token) :
    (skip text tokens).length ≤ tokens.length := by
  unfold skip
  cases accepted : accept text tokens with
  | some taken => exact Nat.le_of_lt (accept_shorter text tokens taken accepted)
  | none => exact Nat.le_refl _

theorem settled_expect (endLine : Nat) (text : String) (tokens : List Token) :
    Settled (Shorter tokens) (expect endLine text tokens) := by
  unfold expect
  cases accepted : accept text tokens with
  | some taken => exact accept_shorter text tokens taken accepted
  | none => exact settled_fail_expected _ _ _ _

theorem settled_expect_kind (endLine : Nat) (kind : TokenKind) (tokens : List Token) :
    Settled (Shorter tokens) (expectKind endLine kind tokens) := by
  unfold expectKind
  cases accepted : acceptKind kind tokens with
  | some taken => exact accept_kind_shorter kind tokens taken accepted
  | none => exact settled_fail_expected _ _ _ _

theorem settled_require (endLine : Nat) (what : Expectation) (tokens : List Token)
    (read : Option (Expr × List Token)) (shorter : ShorterIfSome tokens read) :
    Settled (Shorter tokens) (require endLine what tokens read) := by
  cases read with
  | none => exact settled_fail_expected _ _ _ _
  | some read => exact shorter read rfl

structure Settles (endLine fuel : Nat) : Prop where
  statements : ∀ tokens : List Token, 16 * tokens.length + 12 < fuel →
    Settled (NotLonger tokens) (statements endLine fuel tokens)
  statement : ∀ tokens : List Token, 16 * tokens.length + 11 < fuel →
    Settled (ShorterIfSome tokens) (statement endLine fuel tokens)
  expression : ∀ tokens : List Token, 16 * tokens.length + 10 < fuel →
    Settled (ShorterIfSome tokens) (expression endLine fuel tokens)
  chain : ∀ (groups : List OperatorGroup) (tokens : List Token), groups.length ≤ 7 →
    16 * tokens.length + 2 + groups.length < fuel →
    Settled (ShorterIfSome tokens) (chain endLine fuel groups tokens)
  continuation : ∀ (group : OperatorGroup) (tighter : List OperatorGroup) (tokens : List Token),
    tighter.length ≤ 7 → 16 * tokens.length < fuel →
    Settled (NotLonger tokens) (continuation endLine fuel group tighter tokens)
  unary : ∀ tokens : List Token, 16 * tokens.length + 1 < fuel →
    Settled (ShorterIfSome tokens) (unary endLine fuel tokens)
  primary : ∀ tokens : List Token, 16 * tokens.length < fuel →
    Settled (ShorterIfSome tokens) (primary endLine fuel tokens)
  arguments : ∀ tokens : List Token, 16 * tokens.length + 11 < fuel →
    Settled (Shorter tokens) (arguments endLine fuel tokens)
  declaration : ∀ (line : Nat) (tokens : List Token), 16 * tokens.length < fuel →
    Settled (Shorter tokens) (declaration endLine fuel line tokens)
  conditional : ∀ (line : Nat) (tokens : List Token), 16 * tokens.length + 1 < fuel →
    Settled (Shorter tokens) (conditional endLine fuel line tokens)
  loop : ∀ (line : Nat) (tokens : List Token), 16 * tokens.length + 1 < fuel →
    Settled (Shorter tokens) (loop endLine fuel line tokens)
  condition : ∀ tokens : List Token, 16 * tokens.length < fuel →
    Settled (Shorter tokens) (condition endLine fuel tokens)

theorem settles_zero (endLine : Nat) : Settles endLine 0 := by
  constructor <;> intros <;> omega

section Step

variable {endLine fuel : Nat} (settles : Settles endLine fuel)
include settles

theorem statements_settles (tokens : List Token) (enough : 16 * tokens.length + 12 < fuel + 1) :
    Settled (NotLonger tokens) (statements endLine (fuel + 1) tokens) := by
  rw [statements]
  refine settled_bind (settles.statement tokens (by omega)) fun answer taken => ?_
  match answer with
  | none => exact Nat.le_refl _
  | some (first, rest) =>
      have shorter := taken _ rfl
      simp only [Shorter] at shorter
      refine settled_bind (settles.statements rest (by omega)) fun others kept => ?_
      simp only [NotLonger] at kept
      exact Nat.le_trans kept (Nat.le_of_lt shorter)

theorem statement_settles (tokens : List Token) (enough : 16 * tokens.length + 11 < fuel + 1) :
    Settled (ShorterIfSome tokens) (statement endLine (fuel + 1) tokens) := by
  rw [statement]
  cases accepted : accept ";" tokens with
  | some semicolon => exact settled_some tokens _ (accept_shorter _ _ semicolon accepted)
  | none =>
      refine settled_bind (settles.expression tokens (by omega)) fun answer taken => ?_
      match answer with
      | none => exact settled_none tokens
      | some (read, rest) =>
          exact settled_some tokens _ (Nat.lt_of_le_of_lt (skip_not_longer _ rest) (taken _ rfl))

theorem expression_settles (tokens : List Token) (enough : 16 * tokens.length + 10 < fuel + 1) :
    Settled (ShorterIfSome tokens) (expression endLine (fuel + 1) tokens) := by
  rw [expression]
  have groups : binaryGroups.length = 7 := by decide
  exact settles.chain binaryGroups tokens (by omega) (by omega)

theorem chain_settles (groups : List OperatorGroup) (tokens : List Token)
    (few : groups.length ≤ 7) (enough : 16 * tokens.length + 2 + groups.length < fuel + 1) :
    Settled (ShorterIfSome tokens) (chain endLine (fuel + 1) groups tokens) := by
  match groups with
  | [] =>
      rw [chain]
      simp only [List.length_nil] at enough
      exact settles.unary tokens (by omega)
  | group :: tighter =>
      rw [chain]
      simp only [List.length_cons] at few enough
      refine settled_bind (settles.chain tighter tokens (by omega) (by omega)) fun answer taken => ?_
      match answer with
      | none => exact settled_none tokens
      | some (operand, rest) =>
          have shorter := taken _ rfl
          simp only [Shorter] at shorter
          refine settled_bind (settles.continuation group tighter rest (by omega) (by omega))
            fun answer kept => ?_
          match answer with
          | (none, rest) => exact settled_some tokens _ (Nat.lt_of_le_of_lt kept shorter)
          | (some _, rest) => exact settled_some tokens _ (Nat.lt_of_le_of_lt kept shorter)

theorem continuation_settles (group : OperatorGroup) (tighter : List OperatorGroup)
    (tokens : List Token) (few : tighter.length ≤ 7) (enough : 16 * tokens.length < fuel + 1) :
    Settled (NotLonger tokens) (continuation endLine (fuel + 1) group tighter tokens) := by
  rw [continuation]
  cases accepted : acceptIf (fun token => token.kind = .operator && group.contains token.text) tokens with
  | none => exact Nat.le_refl _
  | some taken =>
      obtain ⟨token, rest⟩ := taken
      have shorter := accept_if_shorter _ _ _ accepted
      simp only [Shorter] at shorter
      dsimp only
      cases group.find? token.text with
      | none => exact settled_fail _ _ _
      | some operator =>
          refine settled_bind (settles.chain tighter rest few (by omega)) fun answer taken => ?_
          match answer with
          | none => exact settled_fail _ _ _
          | some (operand, behind) =>
              have further := taken _ rfl
              simp only [Shorter] at further
              refine settled_bind (settles.continuation group tighter behind few (by omega))
                fun answer kept => ?_
              simp only [NotLonger] at kept
              exact Nat.le_trans kept (by omega)

theorem unary_settles (tokens : List Token) (enough : 16 * tokens.length + 1 < fuel + 1) :
    Settled (ShorterIfSome tokens) (unary endLine (fuel + 1) tokens) := by
  rw [unary]
  cases accepted : acceptKind .operator tokens with
  | none => exact settles.primary tokens (by omega)
  | some taken =>
      obtain ⟨token, rest⟩ := taken
      have shorter := accept_kind_shorter _ _ _ accepted
      simp only [Shorter] at shorter
      dsimp only
      cases Operator.find? token.text .unary with
      | none => exact settled_fail _ _ _
      | some operator =>
          refine settled_bind (settles.primary rest (by omega)) fun answer taken => ?_
          match answer with
          | none => exact settled_fail _ _ _
          | some (operand, behind) =>
              have further := taken _ rfl
              exact settled_some tokens _ (Nat.lt_trans further shorter)

theorem arguments_settles (tokens : List Token) (enough : 16 * tokens.length + 11 < fuel + 1) :
    Settled (Shorter tokens) (arguments endLine (fuel + 1) tokens) := by
  rw [arguments]
  refine settled_bind (settles.expression tokens (by omega)) fun answer taken => ?_
  match answer with
  | none => exact settled_bind (settled_expect endLine ")" tokens) fun _ shorter => shorter
  | some (first, rest) =>
      have shorter := taken _ rfl
      simp only [Shorter] at shorter
      dsimp only
      cases accepted : accept ")" rest with
      | some closing => exact Nat.lt_trans (accept_shorter _ _ closing accepted) shorter
      | none =>
          refine settled_bind (settled_expect endLine "," rest) fun comma further => ?_
          simp only [Shorter] at further
          refine settled_bind (settles.arguments comma.2 (by omega)) fun others last => ?_
          simp only [Shorter] at last
          exact Nat.lt_trans last (Nat.lt_trans further shorter)

theorem declaration_settles (line : Nat) (tokens : List Token)
    (enough : 16 * tokens.length < fuel + 1) :
    Settled (Shorter tokens) (declaration endLine (fuel + 1) line tokens) := by
  rw [declaration]
  refine settled_bind (settled_expect_kind endLine .identifier tokens) fun name shorter => ?_
  simp only [Shorter] at shorter
  dsimp only
  cases accepted : accept "=" name.2 with
  | none => exact shorter
  | some equals =>
      have further := accept_shorter _ _ equals accepted
      simp only [Shorter] at further
      refine settled_bind (settles.expression equals.2 (by omega)) fun answer taken => ?_
      refine settled_bind (settled_require endLine .expression equals.2 answer taken) fun read last => ?_
      exact Nat.lt_trans last (Nat.lt_trans further shorter)

theorem conditional_settles (line : Nat) (tokens : List Token)
    (enough : 16 * tokens.length + 1 < fuel + 1) :
    Settled (Shorter tokens) (conditional endLine (fuel + 1) line tokens) := by
  rw [conditional]
  refine settled_bind (settles.condition tokens (by omega)) fun test shorter => ?_
  simp only [Shorter] at shorter
  refine settled_bind (settles.statement test.2 (by omega)) fun answer taken => ?_
  refine settled_bind (settled_require endLine _ test.2 answer taken) fun thenBranch further => ?_
  simp only [Shorter] at further
  dsimp only
  cases accepted : accept "else" thenBranch.2 with
  | none => exact Nat.lt_trans further shorter
  | some keyword =>
      have behind := accept_shorter _ _ keyword accepted
      simp only [Shorter] at behind
      refine settled_bind (settles.statement keyword.2 (by omega)) fun answer taken => ?_
      refine settled_bind (settled_require endLine _ keyword.2 answer taken) fun elseBranch last => ?_
      simp only [Shorter] at last
      exact Nat.lt_trans last (by omega)

theorem loop_settles (line : Nat) (tokens : List Token)
    (enough : 16 * tokens.length + 1 < fuel + 1) :
    Settled (Shorter tokens) (loop endLine (fuel + 1) line tokens) := by
  rw [loop]
  refine settled_bind (settles.condition tokens (by omega)) fun test shorter => ?_
  simp only [Shorter] at shorter
  refine settled_bind (settles.statement test.2 (by omega)) fun answer taken => ?_
  refine settled_bind (settled_require endLine _ test.2 answer taken) fun body further => ?_
  exact Nat.lt_trans further shorter

theorem condition_settles (tokens : List Token) (enough : 16 * tokens.length < fuel + 1) :
    Settled (Shorter tokens) (condition endLine (fuel + 1) tokens) := by
  rw [condition]
  refine settled_bind (settled_expect endLine "(" tokens) fun opening shorter => ?_
  simp only [Shorter] at shorter
  refine settled_bind (settles.expression opening.2 (by omega)) fun answer taken => ?_
  refine settled_bind (settled_require endLine _ opening.2 answer taken) fun test further => ?_
  refine settled_bind (settled_expect endLine ")" test.2) fun closing last => ?_
  exact Nat.lt_trans last (Nat.lt_trans further shorter)

theorem statement_expression_settles (tokens : List Token) (enough : 16 * tokens.length < fuel + 1) :
    Settled (ShorterIfSome tokens) (statementExpression endLine fuel tokens) := by
  match tokens with
  | [] => exact settled_none []
  | first :: rest =>
      have behind : rest.length < (first :: rest).length := Nat.lt_succ_self _
      simp only [List.length_cons] at enough
      rw [statementExpression]
      by_cases declares : first.text = "let"
      · rw [if_pos declares]
        refine settled_bind (settles.declaration first.line rest (by omega)) fun read shorter => ?_
        exact settled_some _ _ (Nat.lt_trans shorter behind)
      rw [if_neg declares]
      by_cases branches : first.text = "if"
      · rw [if_pos branches]
        refine settled_bind (settles.conditional first.line rest (by omega)) fun read shorter => ?_
        exact settled_some _ _ (Nat.lt_trans shorter behind)
      rw [if_neg branches]
      by_cases loops : first.text = "while"
      · rw [if_pos loops]
        refine settled_bind (settles.loop first.line rest (by omega)) fun read shorter => ?_
        exact settled_some _ _ (Nat.lt_trans shorter behind)
      rw [if_neg loops]
      by_cases brace : first.text = "\x7b"
      · rw [if_pos brace]
        refine settled_bind (settles.statements rest (by omega)) fun inner kept => ?_
        refine settled_bind (settled_expect endLine "\x7d" inner.2) fun closing further => ?_
        exact settled_some _ _ (Nat.lt_trans further (Nat.lt_of_le_of_lt kept behind))
      rw [if_neg brace]
      exact settled_none _

theorem primary_settles (tokens : List Token) (enough : 16 * tokens.length < fuel + 1) :
    Settled (ShorterIfSome tokens) (primary endLine (fuel + 1) tokens) := by
  match tokens with
  | [] =>
      rw [primary]
      exact settled_none []
  | first :: rest =>
      have behind : rest.length < (first :: rest).length := Nat.lt_succ_self _
      have last := statement_expression_settles settles (first :: rest) enough
      simp only [List.length_cons] at enough
      by_cases name : first.kind = .identifier
      · rw [primary, if_pos name]
        cases accepted : accept "(" rest with
        | none => exact settled_some _ _ behind
        | some opening =>
            have shorter := accept_shorter _ _ opening accepted
            simp only [Shorter] at shorter
            refine settled_bind (settles.arguments opening.2 (by omega)) fun arguments further => ?_
            exact settled_some _ _ (Nat.lt_trans further (Nat.lt_trans shorter behind))
      by_cases opening : first.text = "("
      · rw [primary, if_neg name, if_pos opening]
        refine settled_bind (settles.expression rest (by omega)) fun answer taken => ?_
        refine settled_bind (settled_require endLine _ rest answer taken) fun inner shorter => ?_
        refine settled_bind (settled_expect endLine ")" inner.2) fun closing further => ?_
        exact settled_some _ _ (Nat.lt_trans further (Nat.lt_trans shorter behind))
      by_cases literal : first.kind = .literal
      · rw [primary, if_neg name, if_neg opening, if_pos literal]
        exact settled_some _ _ behind
      rw [primary_last endLine fuel first rest name opening literal]
      exact last

theorem settles_succ : Settles endLine (fuel + 1) where
  statements := statements_settles settles
  statement := statement_settles settles
  expression := expression_settles settles
  chain := chain_settles settles
  continuation := continuation_settles settles
  unary := unary_settles settles
  primary := primary_settles settles
  arguments := arguments_settles settles
  declaration := declaration_settles settles
  conditional := conditional_settles settles
  loop := loop_settles settles
  condition := condition_settles settles

end Step

theorem settles (endLine fuel : Nat) : Settles endLine fuel := by
  induction fuel with
  | zero => exact settles_zero endLine
  | succ fuel ih => exact settles_succ ih

theorem program_settles (endLine : Nat) {fuel : Nat} (tokens : List Token)
    (enough : 16 * tokens.length + 12 < fuel) : Settled (fun _ => True) (program endLine fuel tokens) := by
  refine settled_bind ((settles endLine fuel).statements tokens enough) fun read _ => ?_
  obtain ⟨statements, rest⟩ := read
  cases rest with
  | nil => trivial
  | cons token rest => trivial

theorem settled_not_out_of_fuel {α : Type} {property : α → Prop} {answer : Answer α}
    (settled : Settled property answer) : answer ≠ .error .outOfFuel := by
  rintro rfl
  exact settled

end Scriptlet.Grammar
