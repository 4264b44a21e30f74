import Scriptlet.Proofs.Grammar.Grouping
import Scriptlet.Proofs.Grammar.Reading
import Scriptlet.Proofs.Operator.Table

/-!
Which trees tokens can stand for.

`Derives` gives the productions of the grammar with the tree of each, without a choice between them:
any grouping of a chain is allowed, and a conditional may leave an `else` to another one. The main
statement `rules_derive` says that a rule reads nothing else.
-/

set_option autoImplicit false

namespace Scriptlet.Grammar

inductive Phrase where
  | statements (read : List Expr)
  | statement (read : Expr)
  | expression (read : Expr)
  | primary (read : Expr)
  | arguments (read : List Expr)

@[simp] def Phrase.nodes : Phrase → List Expr
  | .statements read | .arguments read => nodesOfAll read
  | .statement read | .expression read | .primary read => read.nodes

-- Arguments include the closing parenthesis, but not the opening one.
inductive Derives : List Token → Phrase → Prop where
  | noStatements : Derives [] (.statements [])
  | moreStatements {front back : List Token} {first : Expr} {others : List Expr}
      (read : Derives front (.statement first)) (continues : Derives back (.statements others)) :
      Derives (front ++ back) (.statements (first :: others))
  | lone (semicolon : Token) (text : semicolon.text = ";") :
      Derives [semicolon] (.statement (.empty semicolon.line))
  | unended {tokens : List Token} {expr : Expr} (read : Derives tokens (.expression expr)) :
      Derives tokens (.statement expr)
  | ended {tokens : List Token} {expr : Expr} (read : Derives tokens (.expression expr))
      (semicolon : Token) (text : semicolon.text = ";") :
      Derives (tokens ++ [semicolon]) (.statement expr)
  | unsigned {tokens : List Token} {expr : Expr} (read : Derives tokens (.primary expr)) :
      Derives tokens (.expression expr)
  | signed {tokens : List Token} {expr : Expr} {operator : Operator} (sign : Token)
      (kind : sign.kind = .operator) (known : Operator.find? sign.text .unary = some operator)
      (read : Derives tokens (.primary expr)) :
      Derives (sign :: tokens) (.expression (.unary sign.line operator.lexeme expr))
  | joined {front back : List Token} {left right : Expr} {operator : Operator} (token : Token)
      (kind : token.kind = .operator) (known : Operator.find? token.text .binary = some operator)
      (before : Derives front (.expression left)) (behind : Derives back (.expression right)) :
      Derives (front ++ token :: back) (.expression (.binary token.line operator.lexeme left right))
  | name (token : Token) (kind : token.kind = .identifier) :
      Derives [token] (.primary (.identifier token.line token.text))
  | call {tokens : List Token} {arguments : List Expr} (token opening : Token)
      (kind : token.kind = .identifier) (opens : opening.text = "(")
      (read : Derives tokens (.arguments arguments)) :
      Derives (token :: opening :: tokens) (.primary (.call token.line token.text arguments))
  | parenthesized {tokens : List Token} {expr : Expr} (opening closing : Token)
      (opens : opening.text = "(") (closes : closing.text = ")")
      (read : Derives tokens (.expression expr)) :
      Derives (opening :: tokens ++ [closing]) (.primary expr)
  | literal (token : Token) (kind : token.kind = .literal) :
      Derives [token] (.primary (.literal token.line token.text))
  | declare (keyword name : Token) (declares : keyword.text = "let") (kind : name.kind = .identifier) :
      Derives [keyword, name] (.primary (.declare keyword.line name.text none))
  | initialized {tokens : List Token} {initializer : Expr} (keyword name equals : Token)
      (declares : keyword.text = "let") (kind : name.kind = .identifier) (gives : equals.text = "=")
      (read : Derives tokens (.expression initializer)) :
      Derives (keyword :: name :: equals :: tokens)
        (.primary (.declare keyword.line name.text (some initializer)))
  | branch {tested thens : List Token} {condition thenBranch : Expr} (keyword opening closing : Token)
      (branches : keyword.text = "if") (opens : opening.text = "(") (closes : closing.text = ")")
      (test : Derives tested (.expression condition)) (read : Derives thens (.statement thenBranch)) :
      Derives (keyword :: opening :: tested ++ closing :: thens)
        (.primary (.branch keyword.line condition thenBranch none))
  | alternative {tested thens elses : List Token} {condition thenBranch elseBranch : Expr}
      (keyword opening closing separating : Token) (branches : keyword.text = "if")
      (opens : opening.text = "(") (closes : closing.text = ")") (separates : separating.text = "else")
      (test : Derives tested (.expression condition)) (read : Derives thens (.statement thenBranch))
      (other : Derives elses (.statement elseBranch)) :
      Derives (keyword :: opening :: tested ++ closing :: thens ++ separating :: elses)
        (.primary (.branch keyword.line condition thenBranch (some elseBranch)))
  | loop {tested repeated : List Token} {condition body : Expr} (keyword opening closing : Token)
      (loops : keyword.text = "while") (opens : opening.text = "(") (closes : closing.text = ")")
      (test : Derives tested (.expression condition)) (read : Derives repeated (.statement body)) :
      Derives (keyword :: opening :: tested ++ closing :: repeated)
        (.primary (.loop keyword.line condition body))
  | block {tokens : List Token} {statements : List Expr} (opening closing : Token)
      (opens : opening.text = "\x7b") (closes : closing.text = "\x7d")
      (read : Derives tokens (.statements statements)) :
      Derives (opening :: tokens ++ [closing]) (.primary (.block opening.line statements))
  | noArguments (closing : Token) (closes : closing.text = ")") : Derives [closing] (.arguments [])
  | lastArgument {tokens : List Token} {expr : Expr} (closing : Token) (closes : closing.text = ")")
      (read : Derives tokens (.expression expr)) : Derives (tokens ++ [closing]) (.arguments [expr])
  | moreArguments {front back : List Token} {first : Expr} {others : List Expr} (comma : Token)
      (separates : comma.text = ",") (read : Derives front (.expression first))
      (continues : Derives back (.arguments others)) :
      Derives (front ++ comma :: back) (.arguments (first :: others))

theorem primary_not_empty {tokens : List Token} {expr : Expr} (derives : Derives tokens (.primary expr)) :
    tokens ≠ [] := by
  cases derives <;> simp

theorem expression_not_empty {tokens : List Token} {expr : Expr}
    (derives : Derives tokens (.expression expr)) : tokens ≠ [] := by
  cases derives with
  | unsigned read => exact primary_not_empty read
  | signed => simp
  | joined => simp

theorem statement_not_empty {tokens : List Token} {expr : Expr}
    (derives : Derives tokens (.statement expr)) : tokens ≠ [] := by
  cases derives with
  | lone => simp
  | unended read => exact expression_not_empty read
  | ended => simp

theorem no_statements {tokens : List Token} {read : List Expr} (derives : Derives tokens (.statements read))
    (empty : tokens = []) : read = [] := by
  cases derives with
  | noStatements => rfl
  | moreStatements first others =>
      exact absurd (List.append_eq_nil_iff.mp empty).1 (statement_not_empty first)

theorem derives_append {front back : List Token} {read others : List Expr}
    (first : Derives front (.statements read)) (second : Derives back (.statements others)) :
    Derives (front ++ back) (.statements (read ++ others)) := by
  induction read generalizing front with
  | nil =>
      cases first
      exact second
  | cons expr read ih =>
      cases first with
      | moreStatements start continues =>
          rw [List.append_assoc]
          exact .moreStatements start (ih continues)

def Yields {α : Type} (property : α → Prop) (answer : Answer α) : Prop :=
  ∀ result, answer = .ok result → property result

def Taken {α : Type} (phrase : α → Phrase) (tokens : List Token) (answer : α × List Token) : Prop :=
  ∃ front, tokens = front ++ answer.2 ∧ Derives front (phrase answer.1)

def TakenIfSome (phrase : Expr → Phrase) (tokens : List Token) (answer : Option (Expr × List Token)) :
    Prop :=
  ∀ read, answer = some read → Taken phrase tokens read

def TakenBehind (keyword : String) (line : Nat) (tokens : List Token) (answer : Expr × List Token) :
    Prop :=
  ∃ front, tokens = front ++ answer.2 ∧
    ∀ token : Token, token.text = keyword → token.line = line →
      Derives (token :: front) (.primary answer.1)

def Continues (tokens : List Token) (answer : Option OpenChain × List Token) : Prop :=
  ∃ behind, tokens = behind ++ answer.2 ∧
    ∀ (front : List Token) (left : Expr), Derives front (.expression left) →
      Derives (front ++ behind) (.expression (answer.1.elim left (OpenChain.fill left)))

def TakenTest (tokens : List Token) (answer : Expr × List Token) : Prop :=
  ∃ (opening closing : Token) (tested : List Token), opening.text = "(" ∧ closing.text = ")" ∧
    tokens = opening :: tested ++ closing :: answer.2 ∧ Derives tested (.expression answer.1)

theorem yields_ok {α : Type} {property : α → Prop} {result : α} (holds : property result) :
    Yields property (.ok result) := by
  rintro _ ⟨⟩
  exact holds

theorem yields_error {α : Type} (property : α → Prop) (stop : Stop SyntacticError) :
    Yields property (.error stop) := by
  rintro _ ⟨⟩

theorem yields_bind {α β : Type} {first : α → Prop} {second : β → Prop} {answer : Answer α}
    {next : α → Answer β} (yields : Yields first answer)
    (continues : ∀ a, first a → Yields second (next a)) : Yields second (answer >>= next) := by
  cases answer with
  | ok a => exact continues a (yields a rfl)
  | error stop => exact yields_error second stop

theorem yields_none (phrase : Expr → Phrase) (tokens : List Token) :
    Yields (TakenIfSome phrase tokens) (.ok none) :=
  yields_ok fun _ impossible => nomatch impossible

theorem yields_some {phrase : Expr → Phrase} {tokens : List Token} {read : Expr × List Token}
    (taken : Taken phrase tokens read) : Yields (TakenIfSome phrase tokens) (.ok (some read)) :=
  yields_ok fun _ same => Option.some.inj same ▸ taken

theorem yields_fail_expected {α : Type} (property : α → Prop) (endLine : Nat) (what : Expectation)
    (tokens : List Token) : Yields property (failExpected endLine what tokens) := by
  cases tokens <;> exact yields_error property _

theorem accept_if_cons {test : Token → Bool} {tokens rest : List Token} {token : Token}
    (accepted : acceptIf test tokens = some (token, rest)) :
    tokens = token :: rest ∧ test token = true := by
  cases tokens with
  | nil => cases accepted
  | cons first others =>
      by_cases passes : test first = true
      · rw [accept_if_cons_pos others passes] at accepted
        cases accepted
        exact ⟨rfl, passes⟩
      · rw [accept_if_cons_neg others passes] at accepted
        cases accepted

theorem accept_cons {text : String} {tokens rest : List Token} {token : Token}
    (accepted : accept text tokens = some (token, rest)) :
    tokens = token :: rest ∧ token.text = text := by
  obtain ⟨cut, same⟩ := accept_if_cons accepted
  exact ⟨cut, of_decide_eq_true same⟩

theorem accept_kind_cons {kind : TokenKind} {tokens rest : List Token} {token : Token}
    (accepted : acceptKind kind tokens = some (token, rest)) :
    tokens = token :: rest ∧ token.kind = kind := by
  obtain ⟨cut, same⟩ := accept_if_cons accepted
  exact ⟨cut, of_decide_eq_true same⟩

theorem yields_expect (endLine : Nat) (text : String) (tokens : List Token) :
    Yields (fun taken => tokens = taken.1 :: taken.2 ∧ taken.1.text = text)
      (expect endLine text tokens) := by
  unfold expect
  cases accepted : accept text tokens with
  | some taken => exact yields_ok (accept_cons accepted)
  | none => exact yields_fail_expected _ _ _ _

theorem yields_expect_kind (endLine : Nat) (kind : TokenKind) (tokens : List Token) :
    Yields (fun taken => tokens = taken.1 :: taken.2 ∧ taken.1.kind = kind)
      (expectKind endLine kind tokens) := by
  unfold expectKind
  cases accepted : acceptKind kind tokens with
  | some taken => exact yields_ok (accept_kind_cons accepted)
  | none => exact yields_fail_expected _ _ _ _

theorem yields_require (endLine : Nat) (what : Expectation) {phrase : Expr → Phrase}
    {tokens : List Token} {read : Option (Expr × List Token)} (taken : TakenIfSome phrase tokens read) :
    Yields (Taken phrase tokens) (require endLine what tokens read) := by
  cases read with
  | none => exact yields_fail_expected _ _ _ _
  | some read => exact yields_ok (taken read rfl)

structure RulesDerive (endLine fuel : Nat) : Prop where
  statements : ∀ tokens : List Token,
    Yields (Taken .statements tokens) (statements endLine fuel tokens)
  statement : ∀ tokens : List Token,
    Yields (TakenIfSome .statement tokens) (statement endLine fuel tokens)
  expression : ∀ tokens : List Token,
    Yields (TakenIfSome .expression tokens) (expression endLine fuel tokens)
  chain : ∀ (groups : List OperatorGroup) (tokens : List Token),
    (∀ group ∈ groups, group ∈ binaryGroups) →
    Yields (TakenIfSome .expression tokens) (chain endLine fuel groups tokens)
  continuation : ∀ (group : OperatorGroup) (tighter : List OperatorGroup) (tokens : List Token),
    (∀ level ∈ group :: tighter, level ∈ binaryGroups) →
    Yields (Continues tokens) (continuation endLine fuel group tighter tokens)
  unary : ∀ tokens : List Token,
    Yields (TakenIfSome .expression tokens) (unary endLine fuel tokens)
  primary : ∀ tokens : List Token,
    Yields (TakenIfSome .primary tokens) (primary endLine fuel tokens)
  arguments : ∀ tokens : List Token,
    Yields (Taken .arguments tokens) (arguments endLine fuel tokens)
  declaration : ∀ (line : Nat) (tokens : List Token),
    Yields (TakenBehind "let" line tokens) (declaration endLine fuel line tokens)
  conditional : ∀ (line : Nat) (tokens : List Token),
    Yields (TakenBehind "if" line tokens) (conditional endLine fuel line tokens)
  loop : ∀ (line : Nat) (tokens : List Token),
    Yields (TakenBehind "while" line tokens) (loop endLine fuel line tokens)
  condition : ∀ tokens : List Token, Yields (TakenTest tokens) (condition endLine fuel tokens)

theorem rules_derive_zero (endLine : Nat) : RulesDerive endLine 0 := by
  constructor <;> intros <;> exact yields_error _ .outOfFuel

section Step

variable {endLine fuel : Nat} (derive : RulesDerive endLine fuel)
include derive

theorem statements_derive (tokens : List Token) :
    Yields (Taken .statements tokens) (statements endLine (fuel + 1) tokens) := by
  rw [statements]
  refine yields_bind (derive.statement tokens) fun answer taken => ?_
  cases answer with
  | none => exact yields_ok ⟨[], rfl, .noStatements⟩
  | some answer =>
      obtain ⟨first, rest⟩ := answer
      obtain ⟨front, rfl, read⟩ := taken _ rfl
      refine yields_bind (derive.statements rest) fun others further => ?_
      obtain ⟨back, rfl, continues⟩ := further
      exact yields_ok ⟨front ++ back, by simp, .moreStatements read continues⟩

theorem statement_derive (tokens : List Token) :
    Yields (TakenIfSome .statement tokens) (statement endLine (fuel + 1) tokens) := by
  rw [statement]
  cases accepted : accept ";" tokens with
  | some taken =>
      obtain ⟨semicolon, rest⟩ := taken
      obtain ⟨rfl, text⟩ := accept_cons accepted
      exact yields_some ⟨[semicolon], rfl, .lone semicolon text⟩
  | none =>
      refine yields_bind (derive.expression tokens) fun answer taken => ?_
      cases answer with
      | none => exact yields_none _ tokens
      | some answer =>
          obtain ⟨expr, rest⟩ := answer
          obtain ⟨front, rfl, read⟩ := taken _ rfl
          dsimp only [skip]
          cases ended : accept ";" rest with
          | some taken =>
              obtain ⟨semicolon, behind⟩ := taken
              obtain ⟨rfl, text⟩ := accept_cons ended
              exact yields_some ⟨front ++ [semicolon], by simp, .ended read semicolon text⟩
          | none => exact yields_some ⟨front, rfl, .unended read⟩

theorem expression_derive (tokens : List Token) :
    Yields (TakenIfSome .expression tokens) (expression endLine (fuel + 1) tokens) := by
  rw [expression]
  exact derive.chain binaryGroups tokens fun _ member => member

theorem chain_derive (groups : List OperatorGroup) (tokens : List Token)
    (levels : ∀ group ∈ groups, group ∈ binaryGroups) :
    Yields (TakenIfSome .expression tokens) (chain endLine (fuel + 1) groups tokens) := by
  cases groups with
  | nil =>
      rw [chain]
      exact derive.unary tokens
  | cons group tighter =>
      rw [chain]
      refine yields_bind (derive.chain tighter tokens fun level member =>
        levels level (List.mem_cons_of_mem _ member)) fun answer taken => ?_
      cases answer with
      | none => exact yields_none _ tokens
      | some answer =>
          obtain ⟨operand, rest⟩ := answer
          obtain ⟨front, rfl, read⟩ := taken _ rfl
          refine yields_bind (derive.continuation group tighter rest levels) fun answer continues => ?_
          obtain ⟨operations, last⟩ := answer
          obtain ⟨behind, rfl, goesOn⟩ := continues
          have whole := goesOn front operand read
          cases operations with
          | none => exact yields_some ⟨front ++ behind, by simp, whole⟩
          | some operations => exact yields_some ⟨front ++ behind, by simp, whole⟩

omit derive in
-- An operator that leans right takes what follows it, one that leans left is taken by it.
theorem joined_continues {front back further : List Token} {left operand : Expr} {operator : Operator}
    (token : Token) (kind : token.kind = .operator) (known : Operator.find? token.text .binary = some operator)
    (read : Derives front (.expression left)) (right : Derives back (.expression operand))
    (deeper : Option OpenChain)
    (goesOn : ∀ (front : List Token) (left : Expr), Derives front (.expression left) →
      Derives (front ++ further) (.expression (deeper.elim left (OpenChain.fill left)))) :
    Derives (front ++ (token :: back ++ further))
      (.expression (OpenChain.fill left (.extend ⟨operator, token.line, operand⟩ deeper))) := by
  have one := Derives.joined token kind known read right
  have all := Derives.joined token kind known read (goesOn back operand right)
  cases deeper with
  | none => exact all
  | some deeper =>
      dsimp only [Option.elim] at all ⊢
      cases leans : operator.associativity with
      | rightToLeft =>
          rw [OpenChain.extend_right _ deeper leans]
          exact all
      | leftToRight =>
          have regrouped : front ++ token :: back ++ further = front ++ (token :: back ++ further) := by simp
          rw [OpenChain.extend_left _ deeper leans, OpenChain.fill_graft, ← regrouped]
          exact goesOn _ _ one

theorem continuation_derive (group : OperatorGroup) (tighter : List OperatorGroup)
    (tokens : List Token) (levels : ∀ level ∈ group :: tighter, level ∈ binaryGroups) :
    Yields (Continues tokens) (continuation endLine (fuel + 1) group tighter tokens) := by
  rw [continuation]
  cases accepted : acceptIf (fun token => token.kind = .operator && group.contains token.text) tokens with
  | none => exact yields_ok ⟨[], rfl, fun front left read => by simpa using read⟩
  | some taken =>
      obtain ⟨token, rest⟩ := taken
      obtain ⟨rfl, test⟩ := accept_if_cons accepted
      simp only [Bool.and_eq_true, decide_eq_true_eq] at test
      dsimp only
      cases found : group.find? token.text with
      | none => exact yields_error _ _
      | some operator =>
          have known := find_of_group (levels group List.mem_cons_self) found
          refine yields_bind (derive.chain tighter rest fun level member =>
            levels level (List.mem_cons_of_mem _ member)) fun answer taken => ?_
          cases answer with
          | none => exact yields_error _ _
          | some answer =>
              obtain ⟨operand, behind⟩ := answer
              obtain ⟨back, rfl, right⟩ := taken _ rfl
              refine yields_bind (derive.continuation group tighter behind levels) fun answer continues => ?_
              obtain ⟨deeper, last⟩ := answer
              obtain ⟨further, rfl, goesOn⟩ := continues
              refine yields_ok ⟨token :: back ++ further, by simp, fun front left read => ?_⟩
              exact joined_continues token test.1 known read right deeper goesOn

theorem unary_derive (tokens : List Token) :
    Yields (TakenIfSome .expression tokens) (unary endLine (fuel + 1) tokens) := by
  rw [unary]
  cases accepted : acceptKind .operator tokens with
  | none =>
      refine fun answer answered read same => ?_
      obtain ⟨front, cut, derives⟩ := derive.primary tokens answer answered read same
      exact ⟨front, cut, .unsigned derives⟩
  | some taken =>
      obtain ⟨sign, rest⟩ := taken
      obtain ⟨rfl, kind⟩ := accept_kind_cons accepted
      dsimp only
      cases known : Operator.find? sign.text .unary with
      | none => exact yields_error _ _
      | some operator =>
          refine yields_bind (derive.primary rest) fun answer taken => ?_
          cases answer with
          | none => exact yields_error _ _
          | some answer =>
              obtain ⟨operand, behind⟩ := answer
              obtain ⟨front, rfl, read⟩ := taken _ rfl
              exact yields_some ⟨sign :: front, rfl, .signed sign kind known read⟩

theorem arguments_derive (tokens : List Token) :
    Yields (Taken .arguments tokens) (arguments endLine (fuel + 1) tokens) := by
  rw [arguments]
  refine yields_bind (derive.expression tokens) fun answer taken => ?_
  cases answer with
  | none =>
      refine yields_bind (yields_expect endLine ")" tokens) fun closing closes => ?_
      obtain ⟨rfl, text⟩ := closes
      exact yields_ok ⟨[closing.1], rfl, .noArguments closing.1 text⟩
  | some answer =>
      obtain ⟨first, rest⟩ := answer
      obtain ⟨front, rfl, read⟩ := taken _ rfl
      dsimp only
      cases accepted : accept ")" rest with
      | some taken =>
          obtain ⟨closing, behind⟩ := taken
          obtain ⟨rfl, text⟩ := accept_cons accepted
          exact yields_ok ⟨front ++ [closing], by simp, .lastArgument closing text read⟩
      | none =>
          refine yields_bind (yields_expect endLine "," rest) fun comma separates => ?_
          obtain ⟨rfl, text⟩ := separates
          refine yields_bind (derive.arguments comma.2) fun others further => ?_
          obtain ⟨back, cut, continues⟩ := further
          exact yields_ok ⟨front ++ comma.1 :: back, by simp [cut], .moreArguments _ text read continues⟩

theorem declaration_derive (line : Nat) (tokens : List Token) :
    Yields (TakenBehind "let" line tokens) (declaration endLine (fuel + 1) line tokens) := by
  rw [declaration]
  refine yields_bind (yields_expect_kind endLine .identifier tokens) fun name named => ?_
  obtain ⟨name, behind⟩ := name
  obtain ⟨rfl, kind⟩ := named
  dsimp only
  cases accepted : accept "=" behind with
  | none =>
      refine yields_ok ⟨[name], rfl, ?_⟩
      rintro keyword declares rfl
      exact .declare keyword name declares kind
  | some taken =>
      obtain ⟨equals, rest⟩ := taken
      obtain ⟨rfl, gives⟩ := accept_cons accepted
      refine yields_bind (derive.expression rest) fun answer taken => ?_
      refine yields_bind (yields_require endLine .expression taken) fun initializer further => ?_
      obtain ⟨front, cut, read⟩ := further
      refine yields_ok ⟨name :: equals :: front, by simp [cut], ?_⟩
      rintro keyword declares rfl
      exact .initialized keyword name equals declares kind gives read

theorem condition_derive (tokens : List Token) :
    Yields (TakenTest tokens) (condition endLine (fuel + 1) tokens) := by
  rw [condition]
  refine yields_bind (yields_expect endLine "(" tokens) fun opening opens => ?_
  refine yields_bind (derive.expression opening.2) fun answer taken => ?_
  refine yields_bind (yields_require endLine .testExpression taken) fun test further => ?_
  obtain ⟨front, cut, read⟩ := further
  refine yields_bind (yields_expect endLine ")" test.2) fun closing closes => ?_
  refine yields_ok ⟨opening.1, closing.1, front, opens.2, closes.2, ?_, read⟩
  rw [opens.1, cut, closes.1]
  rfl

theorem conditional_derive (line : Nat) (tokens : List Token) :
    Yields (TakenBehind "if" line tokens) (conditional endLine (fuel + 1) line tokens) := by
  rw [conditional]
  refine yields_bind (derive.condition tokens) fun test tests => ?_
  obtain ⟨opening, closing, tested, opens, closes, rfl, condition⟩ := tests
  refine yields_bind (derive.statement test.2) fun answer taken => ?_
  refine yields_bind (yields_require endLine .statementAfterTest taken) fun thenBranch further => ?_
  obtain ⟨thens, cut, read⟩ := further
  dsimp only
  cases accepted : accept "else" thenBranch.2 with
  | none =>
      refine yields_ok ⟨opening :: tested ++ closing :: thens, by simp [cut], ?_⟩
      rintro keyword branches rfl
      exact .branch keyword opening closing branches opens closes condition read
  | some taken =>
      obtain ⟨separating, rest⟩ := taken
      obtain ⟨behind, separates⟩ := accept_cons accepted
      refine yields_bind (derive.statement rest) fun answer taken => ?_
      refine yields_bind (yields_require endLine .statementAfterElse taken) fun elseBranch last => ?_
      obtain ⟨elses, cutElse, other⟩ := last
      refine yields_ok ⟨opening :: tested ++ closing :: thens ++ separating :: elses,
        by simp [cut, behind, cutElse], ?_⟩
      rintro keyword branches rfl
      exact .alternative keyword opening closing separating branches opens closes separates condition
        read other

theorem loop_derive (line : Nat) (tokens : List Token) :
    Yields (TakenBehind "while" line tokens) (loop endLine (fuel + 1) line tokens) := by
  rw [loop]
  refine yields_bind (derive.condition tokens) fun test tests => ?_
  obtain ⟨opening, closing, tested, opens, closes, rfl, condition⟩ := tests
  refine yields_bind (derive.statement test.2) fun answer taken => ?_
  refine yields_bind (yields_require endLine .statementAfterTest taken) fun body further => ?_
  obtain ⟨repeated, cut, read⟩ := further
  refine yields_ok ⟨opening :: tested ++ closing :: repeated, by simp [cut], ?_⟩
  rintro keyword loops rfl
  exact .loop keyword opening closing loops opens closes condition read

omit derive in
theorem taken_keyword {keyword : String} {first : Token} {rest : List Token}
    {read : Expr × List Token} (text : first.text = keyword)
    (taken : TakenBehind keyword first.line rest read) : Taken .primary (first :: rest) read := by
  obtain ⟨front, rfl, derives⟩ := taken
  exact ⟨first :: front, rfl, derives first text rfl⟩

theorem statement_expression_derive (tokens : List Token) :
    Yields (TakenIfSome .primary tokens) (statementExpression endLine fuel tokens) := by
  cases tokens with
  | nil => exact yields_none _ []
  | cons first rest =>
      rw [statementExpression]
      by_cases declares : first.text = "let"
      · rw [if_pos declares]
        refine yields_bind (derive.declaration first.line rest) fun read taken => ?_
        exact yields_some (taken_keyword declares taken)
      rw [if_neg declares]
      by_cases branches : first.text = "if"
      · rw [if_pos branches]
        refine yields_bind (derive.conditional first.line rest) fun read taken => ?_
        exact yields_some (taken_keyword branches taken)
      rw [if_neg branches]
      by_cases loops : first.text = "while"
      · rw [if_pos loops]
        refine yields_bind (derive.loop first.line rest) fun read taken => ?_
        exact yields_some (taken_keyword loops taken)
      rw [if_neg loops]
      by_cases opens : first.text = "\x7b"
      · rw [if_pos opens]
        refine yields_bind (derive.statements rest) fun inner taken => ?_
        obtain ⟨front, cut, read⟩ := taken
        refine yields_bind (yields_expect endLine "\x7d" inner.2) fun closing closes => ?_
        exact yields_some ⟨first :: front ++ [closing.1], by simp [cut, ← closes.1],
          .block first closing.1 opens closes.2 read⟩
      rw [if_neg opens]
      exact yields_none _ _

theorem primary_derive (tokens : List Token) :
    Yields (TakenIfSome .primary tokens) (primary endLine (fuel + 1) tokens) := by
  cases tokens with
  | nil =>
      rw [primary]
      exact yields_none _ []
  | cons first rest =>
      by_cases kind : first.kind = .identifier
      · rw [primary, if_pos kind]
        cases accepted : accept "(" rest with
        | none => exact yields_some ⟨[first], rfl, .name first kind⟩
        | some taken =>
            obtain ⟨opening, inner⟩ := taken
            obtain ⟨rfl, opens⟩ := accept_cons accepted
            refine yields_bind (derive.arguments inner) fun arguments taken => ?_
            obtain ⟨front, cut, read⟩ := taken
            exact yields_some ⟨first :: opening :: front, by simp [cut], .call first opening kind opens read⟩
      by_cases opens : first.text = "("
      · rw [primary, if_neg kind, if_pos opens]
        refine yields_bind (derive.expression rest) fun answer taken => ?_
        refine yields_bind (yields_require endLine .expression taken) fun inner further => ?_
        obtain ⟨front, cut, read⟩ := further
        refine yields_bind (yields_expect endLine ")" inner.2) fun closing closes => ?_
        exact yields_some ⟨first :: front ++ [closing.1], by simp [cut, ← closes.1],
          .parenthesized first closing.1 opens closes.2 read⟩
      by_cases literal : first.kind = .literal
      · rw [primary, if_neg kind, if_neg opens, if_pos literal]
        exact yields_some ⟨[first], rfl, .literal first literal⟩
      rw [primary_last endLine fuel first rest kind opens literal]
      exact statement_expression_derive derive (first :: rest)

theorem rules_derive_succ : RulesDerive endLine (fuel + 1) where
  statements := statements_derive derive
  statement := statement_derive derive
  expression := expression_derive derive
  chain := chain_derive derive
  continuation := continuation_derive derive
  unary := unary_derive derive
  primary := primary_derive derive
  arguments := arguments_derive derive
  declaration := declaration_derive derive
  conditional := conditional_derive derive
  loop := loop_derive derive
  condition := condition_derive derive

end Step

theorem rules_derive (endLine fuel : Nat) : RulesDerive endLine fuel := by
  induction fuel with
  | zero => exact rules_derive_zero endLine
  | succ fuel ih => exact rules_derive_succ ih

theorem program_derives (tokens : List Token) (program : Program)
    (read : Program.ofTokens tokens = .ok program) :
    Derives (tokens.filter Token.isSignificant) (.statements program.statements) := by
  obtain ⟨front, cut, derives⟩ :=
    (rules_derive _ _).statements _ _ ((program_ok_iff tokens program).mp read)
  have whole : tokens.filter Token.isSignificant = front := cut.trans (List.append_nil front)
  rw [whole]
  exact derives

end Scriptlet.Grammar
