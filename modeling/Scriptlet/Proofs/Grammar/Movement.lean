import Mathlib.Data.List.Basic
import Scriptlet.Proofs.Grammar.Blame
import Scriptlet.Proofs.Grammar.RoundTrip

/-!
How the rules of the grammar move through the tokens.

A rule that may not apply looks at the next significant token to find out (`applies_iff_begins`). If it applies
it goes past that token at least, if not it stands still, and in either case it comes to an end (`rule_answers`).
A loop over such a rule then takes no more turns than there are tokens.
-/

set_option autoImplicit false

namespace Scriptlet

namespace Grammar

-- The rules that may not apply. Those for operators are numbered from the loosest level on.
inductive OptionalRule where
  | expression
  | binary (level : Nat)
  | unary
  | primary
  | statementExpression
  | statement

def OptionalRule.read (rule : OptionalRule) (endLine fuel : Nat) (tokens : List Token) :
    Answer (Option (Expr × List Token)) :=
  match rule with
  | .expression => Grammar.expression endLine fuel tokens
  | .binary level => chain endLine fuel (binaryGroups.drop level) tokens
  | .unary => Grammar.unary endLine fuel tokens
  | .primary => Grammar.primary endLine fuel tokens
  | .statementExpression => Grammar.statementExpression endLine fuel tokens
  | .statement => Grammar.statement endLine fuel tokens

def beginsConstruct (token : Token) : Bool := token.text ∈ ["let", "if", "while", "\x7b"]

def beginsPrimary (token : Token) : Bool :=
  token.kind = .identifier || token.text = "(" || token.kind = .literal || beginsConstruct token

def beginsExpression (token : Token) : Bool := token.kind = .operator || beginsPrimary token

def OptionalRule.begins (rule : OptionalRule) (token : Token) : Bool :=
  match rule with
  | .expression | .binary _ | .unary => beginsExpression token
  | .primary => beginsPrimary token
  | .statementExpression => beginsConstruct token
  | .statement => token.text = ";" || beginsExpression token

def StandsBefore (begins : Token → Bool) (tokens : List Token) : Prop :=
  ∀ token ∈ tokens.head?, begins token = false

theorem stands_before_nil (begins : Token → Bool) : StandsBefore begins [] := by
  intro token isHead
  cases isHead

theorem stands_before_cons {begins : Token → Bool} {first : Token} {rest : List Token} :
    StandsBefore begins (first :: rest) ↔ begins first = false := by
  simp [StandsBefore]

section Nothing

variable {endLine : Nat} {tokens : List Token}

theorem construct_reads_none (stands : StandsBefore beginsConstruct tokens) (fuel : Nat) :
    statementExpression endLine fuel tokens = .ok none := by
  cases tokens with
  | nil => rfl
  | cons first rest =>
      have other := stands_before_cons.mp stands
      simp only [beginsConstruct, decide_eq_false_iff_not, List.mem_cons, List.not_mem_nil, or_false,
        not_or] at other
      obtain ⟨declares, branches, loops, opens⟩ := other
      rw [statementExpression, if_neg declares, if_neg branches, if_neg loops, if_neg opens]
      rfl

theorem primary_reads_none (stands : StandsBefore beginsPrimary tokens) :
    Reads (primary endLine · tokens) none := by
  refine reads_succ ⟨0, fun fuel _ => ?_⟩
  cases tokens with
  | nil => rfl
  | cons first rest =>
      have other := stands_before_cons.mp stands
      simp only [beginsPrimary, Bool.or_eq_false_iff, decide_eq_false_iff_not] at other
      obtain ⟨⟨⟨name, opening⟩, literal⟩, construct⟩ := other
      change primary endLine (fuel + 1) (first :: rest) = .ok none
      rw [primary_last endLine fuel first rest name opening literal]
      exact construct_reads_none (stands_before_cons.mpr construct) fuel

theorem unary_reads_none (stands : StandsBefore beginsExpression tokens) :
    Reads (unary endLine · tokens) none := by
  have parts : acceptKind .operator tokens = none ∧ StandsBefore beginsPrimary tokens := by
    cases tokens with
    | nil => exact ⟨rfl, stands_before_nil _⟩
    | cons first rest =>
        have other := stands_before_cons.mp stands
        simp only [beginsExpression, Bool.or_eq_false_iff, decide_eq_false_iff_not] at other
        exact ⟨by simp [other.1], stands_before_cons.mpr other.2⟩
  apply reads_succ
  simpa only [unary, parts.1] using primary_reads_none parts.2

theorem expression_reads_none (stands : StandsBefore beginsExpression tokens) :
    Reads (expression endLine · tokens) none := by
  apply reads_succ
  simpa only [expression] using chain_of_nothing binaryGroups (unary_reads_none stands)

theorem rule_reads_none (rule : OptionalRule) (stands : StandsBefore rule.begins tokens) :
    Reads (rule.read endLine · tokens) none := by
  cases rule with
  | expression => exact expression_reads_none stands
  | binary level => exact chain_of_nothing _ (unary_reads_none stands)
  | unary => exact unary_reads_none stands
  | primary => exact primary_reads_none stands
  | statementExpression => exact ⟨0, fun fuel _ => construct_reads_none stands fuel⟩
  | statement =>
      have parts : accept ";" tokens = none ∧ StandsBefore beginsExpression tokens := by
        cases tokens with
        | nil => exact ⟨rfl, stands_before_nil _⟩
        | cons first rest =>
            have other := stands_before_cons.mp stands
            simp only [OptionalRule.begins, Bool.or_eq_false_iff, decide_eq_false_iff_not] at other
            exact ⟨by simp [other.1], stands_before_cons.mpr other.2⟩
      apply reads_succ
      simp only [OptionalRule.read, statement, parts.1]
      exact reads_bind (expression_reads_none parts.2) (reads_ok none)

end Nothing

def Begun (answer : Answer (Option (Expr × List Token))) : Prop := Yields (· ≠ none) answer

section Begun

variable {endLine fuel : Nat} {first : Token} {rest : List Token}

theorem begun_some (read : Expr × List Token) : Begun (.ok (some read)) := yields_ok nofun

theorem begun_bind {α : Type} {answer : Answer α} {next : α → Answer (Option (Expr × List Token))}
    (continues : ∀ a, Begun (next a)) : Begun (answer >>= next) := by
  have anything : Yields (fun _ => True) answer := fun _ _ => trivial
  exact yields_bind anything fun a _ => continues a

theorem construct_begun (begins : beginsConstruct first = true) :
    Begun (statementExpression endLine fuel (first :: rest)) := by
  simp only [beginsConstruct, decide_eq_true_eq, List.mem_cons, List.not_mem_nil, or_false] at begins
  rcases begins with declares | branches | repeats | opens
  · simp only [statementExpression, declares, String.reduceEq, if_true]
    exact begun_bind fun _ => begun_some _
  · simp only [statementExpression, branches, String.reduceEq, if_false, if_true]
    exact begun_bind fun _ => begun_some _
  · simp only [statementExpression, repeats, String.reduceEq, if_false, if_true]
    exact begun_bind fun _ => begun_some _
  · simp only [statementExpression, opens, String.reduceEq, if_false, if_true]
    exact begun_bind fun _ => begun_bind fun _ => begun_some _

theorem primary_begun (begins : beginsPrimary first = true) :
    Begun (primary endLine fuel (first :: rest)) := by
  cases fuel with
  | zero => exact yields_error _ _
  | succ fuel =>
      by_cases name : first.kind = .identifier
      · rw [primary, if_pos name]
        cases accept "(" rest with
        | none => exact begun_some _
        | some taken => exact begun_bind fun _ => begun_some _
      by_cases opening : first.text = "("
      · rw [primary, if_neg name, if_pos opening]
        exact begun_bind fun _ => begun_bind fun _ => begun_bind fun _ => begun_some _
      by_cases literal : first.kind = .literal
      · rw [primary, if_neg name, if_neg opening, if_pos literal]
        exact begun_some _
      · rw [primary_last endLine fuel first rest name opening literal]
        simp only [beginsPrimary, name, opening, literal, decide_false, Bool.false_or] at begins
        exact construct_begun begins

theorem unary_begun (begins : beginsExpression first = true) :
    Begun (unary endLine fuel (first :: rest)) := by
  cases fuel with
  | zero => exact yields_error _ _
  | succ fuel =>
      rw [unary]
      by_cases operator : first.kind = .operator
      · simp only [accept_kind_cons_pos rest operator]
        cases Operator.find? first.text .unary with
        | none => exact yields_error _ _
        | some operator =>
            refine begun_bind fun answer => ?_
            cases answer with
            | none => exact yields_error _ _
            | some read => exact begun_some _
      · rw [accept_kind_cons_neg rest operator]
        simp only [beginsExpression, operator, decide_false, Bool.false_or] at begins
        exact primary_begun begins

theorem chain_begun (begins : beginsExpression first = true) (groups : List OperatorGroup) :
    Begun (chain endLine fuel groups (first :: rest)) := by
  induction groups generalizing fuel with
  | nil =>
      cases fuel with
      | zero => exact yields_error _ _
      | succ fuel =>
          rw [chain]
          exact unary_begun begins
  | cons group tighter ih =>
      cases fuel with
      | zero => exact yields_error _ _
      | succ fuel =>
          rw [chain]
          refine yields_bind ih fun answer applied => ?_
          cases answer with
          | none => exact absurd rfl applied
          | some operand =>
              refine begun_bind fun further => ?_
              obtain ⟨operations, behind⟩ := further
              cases operations with
              | none => exact begun_some _
              | some operations => exact begun_some _

theorem expression_begun (begins : beginsExpression first = true) :
    Begun (expression endLine fuel (first :: rest)) := by
  cases fuel with
  | zero => exact yields_error _ _
  | succ fuel =>
      rw [expression]
      exact chain_begun begins binaryGroups

theorem rule_begun (rule : OptionalRule) (begins : rule.begins first = true) :
    Begun (rule.read endLine fuel (first :: rest)) := by
  cases rule with
  | expression => exact expression_begun begins
  | binary level => exact chain_begun begins _
  | unary => exact unary_begun begins
  | primary => exact primary_begun begins
  | statementExpression => exact construct_begun begins
  | statement =>
      cases fuel with
      | zero => exact yields_error _ _
      | succ fuel =>
          simp only [OptionalRule.read, statement]
          by_cases semicolon : first.text = ";"
          · rw [accept_cons_pos rest semicolon]
            exact begun_some _
          · rw [accept_cons_neg rest semicolon]
            simp only [OptionalRule.begins, semicolon, decide_false, Bool.false_or] at begins
            refine yields_bind (expression_begun begins) fun answer applied => ?_
            cases answer with
            | none => exact absurd rfl applied
            | some operand => exact begun_some _

end Begun

def Answers {α : Type} (cursor : Cursor) (rule : Nat → Nat → List Token → Answer α)
    (answer : Except SyntacticError α) : Prop :=
  ∀ fuel, cursor.fuel ≤ fuel → rule cursor.endLine fuel cursor.tokens = answer.mapError .failed

section Answers

variable {α : Type} {cursor : Cursor} {rule : Nat → Nat → List Token → Answer α}

theorem answers_of_settled {property : α → Prop} {same : α → α → Prop}
    (settled : Settled property (rule cursor.endLine cursor.fuel cursor.tokens))
    (follows : ∀ more, cursor.fuel ≤ more →
      Follows id [] same (rule cursor.endLine cursor.fuel cursor.tokens)
        (rule cursor.endLine more cursor.tokens))
    (exact : ∀ a b, same a b → a = b) : ∃ answer, Answers cursor rule answer := by
  match answer : rule cursor.endLine cursor.fuel cursor.tokens with
  | .ok result =>
      refine ⟨.ok result, fun fuel bound => ?_⟩
      have related := follows fuel bound
      rw [answer] at related
      obtain ⟨other, answered, alike⟩ := related
      rw [answered, exact _ _ alike]
      rfl
  | .error (.failed error) =>
      refine ⟨.error error, fun fuel bound => ?_⟩
      have related := follows fuel bound
      rw [answer] at related
      obtain ⟨⟨line, cause⟩, answered, rfl, rfl⟩ := related rfl
      exact answered
  | .error .outOfFuel => exact absurd answer (settled_not_out_of_fuel settled)

end Answers

section Rules

variable (cursor : Cursor)

theorem primary_answers : ∃ answer, Answers cursor primary answer :=
  answers_of_settled ((settles _ _).primary cursor.tokens (by unfold Cursor.fuel; omega))
    (fun _ bound => (rules_follow (fun _ => rfl) bound).primary (whole_refl _))
    fun _ _ alike => some_alike_whole alike

theorem statement_expression_answers : ∃ answer, Answers cursor statementExpression answer :=
  answers_of_settled
    (statement_expression_settles (settles _ _) cursor.tokens (by unfold Cursor.fuel; omega))
    (fun _ bound => statement_expression_compare (following_compares fun _ => rfl)
      (rules_follow (fun _ => rfl) bound) (whole_refl _))
    fun _ _ alike => some_alike_whole alike

theorem rule_answers (rule : OptionalRule) : ∃ answer, Answers cursor rule.read answer := by
  cases rule with
  | expression =>
      exact answers_of_settled ((settles _ _).expression cursor.tokens (by unfold Cursor.fuel; omega))
        (fun _ bound => (rules_follow (fun _ => rfl) bound).expression (whole_refl _))
        fun _ _ alike => some_alike_whole alike
  | binary level =>
      have few : (binaryGroups.drop level).length ≤ 7 := by
        have all : binaryGroups.length = 7 := by decide
        rw [List.length_drop]
        omega
      exact answers_of_settled ((settles _ _).chain _ cursor.tokens few (by unfold Cursor.fuel; omega))
        (fun _ bound => (rules_follow (fun _ => rfl) bound).chain _ (whole_refl _))
        fun _ _ alike => some_alike_whole alike
  | unary =>
      exact answers_of_settled ((settles _ _).unary cursor.tokens (by unfold Cursor.fuel; omega))
        (fun _ bound => (rules_follow (fun _ => rfl) bound).unary (whole_refl _))
        fun _ _ alike => some_alike_whole alike
  | primary => exact primary_answers cursor
  | statementExpression => exact statement_expression_answers cursor
  | statement =>
      exact answers_of_settled ((settles _ _).statement cursor.tokens (by unfold Cursor.fuel; omega))
        (fun _ bound => (rules_follow (fun _ => rfl) bound).statement (whole_refl _))
        fun _ _ alike => some_alike_whole alike

theorem statements_answer : ∃ answer, Answers cursor statements answer :=
  answers_of_settled ((settles _ _).statements cursor.tokens (by unfold Cursor.fuel; omega))
    (fun _ bound => (rules_follow (fun _ => rfl) bound).statements (whole_refl _))
    fun _ _ alike => Prod.ext (same_exprs_id alike.1) (alike_whole _ _ alike.2)

theorem program_answer : ∃ answer, Answers cursor program answer := by
  obtain ⟨answer, answers⟩ := statements_answer cursor
  match answer, answers with
  | .error error, answers => exact ⟨.error error, fun fuel bound => by rw [program, answers fuel bound]; rfl⟩
  | .ok (read, []), answers => exact ⟨.ok ⟨read⟩, fun fuel bound => by rw [program, answers fuel bound]; rfl⟩
  | .ok (read, token :: rest), answers =>
      exact ⟨.error ⟨token.line, .trailingInput token.toLexeme⟩, fun fuel bound => by
        rw [program, answers fuel bound]; rfl⟩

theorem arguments_answer : ∃ answer, Answers cursor arguments answer :=
  answers_of_settled ((settles _ _).arguments cursor.tokens (by unfold Cursor.fuel; omega))
    (fun _ bound => (rules_follow (fun _ => rfl) bound).arguments (whole_refl _))
    fun _ _ alike => Prod.ext (same_exprs_id alike.1) (alike_whole _ _ alike.2)

theorem applies_iff_begins (rule : OptionalRule) {found : Option (Expr × List Token)}
    (answers : Answers cursor rule.read (.ok found)) :
    found.isSome ↔ ∃ token ∈ cursor.tokens.head?, rule.begins token = true := by
  constructor
  · intro applied
    by_contra stands
    simp only [not_exists, not_and, Bool.not_eq_true] at stands
    have reads : Reads (rule.read cursor.endLine · cursor.tokens) found := ⟨_, answers⟩
    rw [reads_unique reads (rule_reads_none rule stands)] at applied
    cases applied
  · rintro ⟨token, isHead, begins⟩
    obtain ⟨rest, cut⟩ := List.head?_eq_some_iff.mp isHead
    have answered := answers cursor.fuel (Nat.le_refl _)
    rw [cut] at answered
    exact Option.isSome_iff_ne_none.mpr (rule_begun rule begins found answered)

end Rules

def Took (tokens : List Token) (found : Option (Expr × List Token)) : Prop :=
  ∃ taken, tokens = taken ++ untaken tokens found ∧ (found.isSome ↔ taken ≠ [])

section Taken

variable {endLine fuel : Nat} {tokens : List Token}

theorem took_of_taken {phrase : Expr → Phrase} {answer : Answer (Option (Expr × List Token))}
    (nonempty : ∀ {front : List Token} {expr : Expr}, Derives front (phrase expr) → front ≠ [])
    (yields : Yields (TakenIfSome phrase tokens) answer) : Yields (Took tokens) answer := by
  intro found answered
  cases found with
  | none => exact ⟨[], rfl, by simp⟩
  | some read =>
      obtain ⟨front, cut, derives⟩ := yields (some read) answered read rfl
      exact ⟨front, cut, by simp [nonempty derives]⟩

theorem rule_took (rule : OptionalRule) : Yields (Took tokens) (rule.read endLine fuel tokens) := by
  have derive := rules_derive endLine fuel
  cases rule with
  | expression => exact took_of_taken expression_not_empty (derive.expression tokens)
  | binary level =>
      exact took_of_taken expression_not_empty
        (derive.chain _ tokens fun _ member => List.mem_of_mem_drop member)
  | unary => exact took_of_taken expression_not_empty (derive.unary tokens)
  | primary => exact took_of_taken primary_not_empty (derive.primary tokens)
  | statementExpression => exact took_of_taken primary_not_empty (statement_expression_derive derive tokens)
  | statement => exact took_of_taken statement_not_empty (derive.statement tokens)

theorem statements_count {read : List Expr} (derives : Derives tokens (.statements read)) :
    read.length ≤ tokens.length := by
  induction read generalizing tokens with
  | nil => exact Nat.zero_le _
  | cons first others ih =>
      cases derives with
      | moreStatements statement continues =>
          have some := List.length_pos_iff.mpr (statement_not_empty statement)
          have further := ih continues
          rw [List.length_append, List.length_cons]
          omega

theorem arguments_count {read : List Expr} (derives : Derives tokens (.arguments read)) :
    read.length ≤ tokens.length := by
  induction read generalizing tokens with
  | nil => exact Nat.zero_le _
  | cons first others ih =>
      cases derives with
      | lastArgument closing closes argument => simp
      | moreArguments comma separates argument continues =>
          have further := ih continues
          rw [List.length_append, List.length_cons, List.length_cons]
          omega

end Taken

theorem rule_blame (rule : OptionalRule) (endLine fuel : Nat) (tokens : List Token) :
    Blamed endLine tokens (untaken tokens) (rule.read endLine fuel tokens) := by
  have blame := rules_blame endLine fuel tokens
  have whole : tokens = tokens ∧ tokens ⊆ tokens := ⟨rfl, List.Subset.refl tokens⟩
  cases rule with
  | expression => exact (blame.expression whole).2
  | binary level => exact (blame.chain _ whole).2
  | unary => exact (blame.unary whole).2
  | primary => exact (blame.primary whole).2
  | statementExpression =>
      exact (statement_expression_compare (blaming_compares endLine endLine tokens) blame whole).2
  | statement => exact (blame.statement whole).2

end Grammar

open Grammar

def Cursor.atPosition (tokens : List Token) (position : Nat) : Cursor :=
  ⟨ahead tokens position, lastLine tokens⟩

def significantBetween (tokens : List Token) (position later : Nat) : List Token :=
  ((tokens.take later).drop position).filter Token.isSignificant

theorem ahead_split {tokens : List Token} {position later : Nat} (forward : position ≤ later) :
    ahead tokens position = significantBetween tokens position later ++ ahead tokens later := by
  rw [ahead, significantBetween, ahead, ← List.filter_append]
  congr 1
  conv_lhs => rw [← List.take_append_drop later tokens, List.drop_append]
  by_cases within : later ≤ tokens.length
  · rw [List.length_take_of_le within, Nat.sub_eq_zero_of_le forward, List.drop_zero]
  · rw [List.drop_eq_nil_of_le (Nat.le_of_not_le within), List.drop_nil]

theorem between_of_taken {tokens taken : List Token} {position later : Nat} (forward : position ≤ later)
    (cut : ahead tokens position = taken ++ ahead tokens later) :
    significantBetween tokens position later = taken :=
  List.append_cancel_right ((ahead_split forward).symm.trans cut)

namespace Parse

def ended {α : Type} : Except SyntacticError α → Parser → EStateM.Result (Stop SyntacticError) Parser α
  | .ok read, after => .ok read after
  | .error error, after => .error (.failed error) after

-- With enough fuel the parser comes to an end, and always to the same outcome. It has not gone back then, nor
-- beyond the last token.
def Ends {α : Type} (parse : Nat → Parse α) (tokens : List Token) (position : Nat)
    (meets : Except SyntacticError α → Nat → Prop) : Prop :=
  ∃ outcome, ∀ fuel, 16 * (tokens.length + 1) ≤ fuel → ∃ later,
    parse fuel ⟨tokens, position⟩ = ended outcome ⟨tokens, later⟩ ∧
      position ≤ later ∧ later ≤ tokens.length ∧ meets outcome later

end Parse

namespace Grammar

def OptionalRule.parse (rule : OptionalRule) (fuel : Nat) : Parse (Option Expr) :=
  match rule with
  | .expression => Parse.expression fuel
  | .binary level => Parse.binary fuel level
  | .unary => Parse.unary fuel
  | .primary => Parse.primary fuel
  | .statementExpression => Parse.statementExpression fuel
  | .statement => Parse.statement fuel

-- A rule that does not apply leaves all significant tokens where they are, one that applies takes some. The next
-- one decides whether it applies.
inductive OptionalRule.Moves (rule : OptionalRule) (tokens : List Token) (position : Nat) :
    Except SyntacticError (Option Expr) → Nat → Prop where
  | stands {later : Nat} (same : ahead tokens later = ahead tokens position)
      (other : StandsBefore rule.begins (ahead tokens position)) :
      OptionalRule.Moves rule tokens position (.ok none) later
  | passes {read : Expr} {later : Nat} (taken : significantBetween tokens position later ≠ [])
      (begins : ∃ token ∈ (ahead tokens position).head?, rule.begins token = true) :
      OptionalRule.Moves rule tokens position (.ok (some read)) later
  | fails {error : SyntacticError} {later : Nat}
      (blames : Blames (lastLine tokens) (ahead tokens position) error) :
      OptionalRule.Moves rule tokens position (.error error) later

inductive LoopMoves (tokens : List Token) (position : Nat) : Except SyntacticError (List Expr) → Nat → Prop where
  | passes {read : List Expr} {later : Nat}
      (turns : read.length ≤ (significantBetween tokens position later).length) :
      LoopMoves tokens position (.ok read) later
  | fails {error : SyntacticError} {later : Nat}
      (blames : Blames (lastLine tokens) (ahead tokens position) error) :
      LoopMoves tokens position (.error error) later

section Moves

variable {tokens : List Token} {position : Nat} (within : position ≤ tokens.length)

theorem position_fuel {fuel : Nat} (enough : 16 * (tokens.length + 1) ≤ fuel) :
    (Cursor.atPosition tokens position).fuel ≤ fuel := by
  have fewer : (ahead tokens position).length ≤ tokens.length :=
    Nat.le_trans (List.length_filter_le _ _) (by rw [List.length_drop]; omega)
  simp only [Cursor.fuel, Cursor.atPosition]
  omega

theorem optional_agrees (rule : OptionalRule) (fuel : Nat) :
    Parse.RefinesIfSome tokens (rule.parse fuel) (rule.read (lastLine tokens) fuel) := by
  have agree := Parse.rules_agree tokens fuel
  cases rule with
  | expression => exact agree.expression
  | binary level => exact agree.binary level
  | unary => exact agree.unary
  | primary => exact agree.primary
  | statementExpression => exact Parse.statement_expression_agree agree
  | statement => exact agree.statement

include within

theorem ends_of_answers {α β : Type} {parse : Nat → Parse α} {rule : Nat → Nat → List Token → Answer β}
    {same : α → List Token → β → Prop} {answer : Except SyntacticError β}
    {meets : Except SyntacticError α → Nat → Prop} (value : β → α)
    (answers : Answers (.atPosition tokens position) rule answer)
    (agrees : ∀ fuel, Parse.Agrees tokens same position (parse fuel ⟨tokens, position⟩)
      (rule (lastLine tokens) fuel (ahead tokens position)))
    (shows : ∀ a left read, same a left read → value read = a)
    (reads : ∀ read later, answer = .ok read → same (value read) (ahead tokens later) read →
      position ≤ later → meets (.ok (value read)) later)
    (fails : ∀ error later, answer = .error error → meets (.error error) later) :
    Parse.Ends parse tokens position meets := by
  refine ⟨answer.map value, fun fuel enough => ?_⟩
  have answered : rule (lastLine tokens) fuel (ahead tokens position) = answer.mapError .failed :=
    answers fuel (position_fuel enough)
  have agrees := agrees fuel
  rw [answered] at agrees
  generalize parse fuel ⟨tokens, position⟩ = result at agrees ⊢
  cases answer with
  | error error =>
      cases agrees with
      | stopped moves => exact ⟨_, rfl, moves.forward, moves.within within, fails error _ rfl⟩
  | ok read =>
      cases agrees with
      | @read a _ later moves alike =>
          obtain rfl := shows a _ read alike
          exact ⟨later, rfl, moves.forward, moves.within within, reads read later rfl alike moves.forward⟩

theorem rule_ends (rule : OptionalRule) :
    Parse.Ends rule.parse tokens position (rule.Moves tokens position) := by
  obtain ⟨answer, answers⟩ := rule_answers (.atPosition tokens position) rule
  have answered := answers _ (Nat.le_refl _)
  refine ends_of_answers within (Option.map Prod.fst) answers
    (fun fuel => optional_agrees rule fuel position) ?_ ?_ ?_
  · intro a left read alike
    cases alike with
    | none stays => rfl
    | some expr left => rfl
  · rintro found later rfl alike forward
    have applies := applies_iff_begins _ rule answers
    cases found with
    | none =>
        cases alike with
        | none stays =>
            refine .stands stays fun token isHead => ?_
            by_contra begins
            exact absurd (applies.mpr ⟨token, isHead, by simpa using begins⟩) (by simp)
    | some read =>
        obtain ⟨expr, rest⟩ := read
        cases alike with
        | some =>
            obtain ⟨taken, cut, some⟩ := rule_took rule _ answered
            refine .passes ?_ (applies.mp rfl)
            rw [between_of_taken forward cut]
            exact some.mp rfl
  · rintro error later rfl
    have blamed := rule_blame rule (lastLine tokens) (Cursor.atPosition tokens position).fuel
      (ahead tokens position)
    rw [show rule.read (lastLine tokens) _ (ahead tokens position) = _ from answered] at blamed
    exact .fails blamed

theorem loop_ends {parse : Nat → Parse (List Expr)}
    {rule : Nat → Nat → List Token → Answer (List Expr × List Token)} {phrase : List Expr → Phrase}
    {answer : Except SyntacticError (List Expr × List Token)}
    (answers : Answers (.atPosition tokens position) rule answer)
    (refines : ∀ fuel, Parse.Refines tokens (parse fuel) (rule (lastLine tokens) fuel))
    (blame : ∀ endLine fuel left, Blamed endLine left Prod.snd (rule endLine fuel left))
    (derive : ∀ endLine fuel left, Yields (Taken phrase left) (rule endLine fuel left))
    (count : ∀ {front : List Token} {read : List Expr}, Derives front (phrase read) →
      read.length ≤ front.length) :
    Parse.Ends parse tokens position (LoopMoves tokens position) := by
  have answered := answers _ (Nat.le_refl _)
  refine ends_of_answers within Prod.fst answers (fun fuel => refines fuel position) ?_ ?_ ?_
  · rintro a left read rfl
    rfl
  · rintro ⟨read, left⟩ later rfl alike forward
    obtain rfl : left = ahead tokens later := congrArg Prod.snd alike
    obtain ⟨front, cut, derives⟩ := derive _ _ _ _ answered
    refine .passes ?_
    rw [between_of_taken forward cut]
    exact count derives
  · rintro error later rfl
    have blamed := blame (lastLine tokens) (Cursor.atPosition tokens position).fuel (ahead tokens position)
    rw [show rule (lastLine tokens) _ (ahead tokens position) = _ from answered] at blamed
    exact .fails blamed

end Moves

end Grammar

theorem program_ends (tokens : List Token) :
    Parse.Ends Parse.program tokens 0 fun outcome _ => Program.ofTokens tokens = outcome := by
  obtain ⟨answer, answers⟩ := program_answer (.ofTokens tokens)
  have answered := answers _ (Nat.le_refl _)
  refine ends_of_answers (Nat.zero_le _) id answers (fun fuel => Parse.program_agrees tokens fuel 0) ?_ ?_ ?_
  · intro program left other same
    exact same.symm
  · rintro program later rfl - -
    rw [program_of_tokens]
    exact (settle_eq_ok _ _ _).mpr answered
  · rintro error later rfl
    rw [program_of_tokens]
    exact (settle_eq_error _ _ _).mpr answered

/-- At every position of every token list, a rule that may not apply comes to an end. If it applies, it goes past a
significant token, and if not, it leaves all of them where they are; the next one decides. A parser never goes back
or beyond the end, and what an error blames is ahead of it. So the loops over statements and arguments end as well,
with one token at least for every turn, and so does the reading of a program. -/
theorem rules_move_or_stand_still (tokens : List Token) (position : Nat) (within : position ≤ tokens.length) :
    (∀ rule : OptionalRule, Parse.Ends rule.parse tokens position (rule.Moves tokens position)) ∧
    Parse.Ends Parse.statements tokens position (LoopMoves tokens position) ∧
    Parse.Ends Parse.arguments tokens position (LoopMoves tokens position) ∧
    Parse.Ends Parse.program tokens 0 fun outcome _ => Program.ofTokens tokens = outcome := by
  refine ⟨fun rule => rule_ends within rule, ?_, ?_, program_ends tokens⟩
  · obtain ⟨answer, answers⟩ := statements_answer (.atPosition tokens position)
    exact loop_ends within answers (fun fuel => (Parse.rules_agree tokens fuel).statements)
      (fun _ _ _ => ((rules_blame _ _ _).statements ⟨rfl, List.Subset.refl _⟩).2)
      (fun _ _ => (rules_derive _ _).statements) statements_count
  · obtain ⟨answer, answers⟩ := arguments_answer (.atPosition tokens position)
    exact loop_ends within answers (fun fuel => (Parse.rules_agree tokens fuel).arguments)
      (fun _ _ _ => ((rules_blame _ _ _).arguments ⟨rfl, List.Subset.refl _⟩).2)
      (fun _ _ => (rules_derive _ _).arguments) arguments_count

-- Tokens whose kinds and texts do not agree.
def mislabelledTokens : List Token :=
  [⟨⟨.operator, "let"⟩, 1⟩, ⟨⟨.whitespace, "-"⟩, 1⟩, ⟨⟨.identifier, "if"⟩, 2⟩, ⟨⟨.comment, "("⟩, 2⟩,
    ⟨⟨.keyword, ")"⟩, 3⟩]

-- The name `if` is passed as an expression, and at the comment behind it there is no statement. In both cases the
-- parser stops in front of the last token.
theorem mislabelled_name_passed :
    (Parse.expression 96 ⟨mislabelledTokens, 1⟩ = .ok (some (.identifier 2 "if")) ⟨mislabelledTokens, 4⟩ ∧
      significantBetween mislabelledTokens 1 4 ≠ []) ∧
    Parse.statement 96 ⟨mislabelledTokens, 3⟩ = .ok none ⟨mislabelledTokens, 4⟩ ∧
      ahead mislabelledTokens 4 = ahead mislabelledTokens 3 := by
  have read : Parse.expression 96 ⟨mislabelledTokens, 1⟩ =
      .ok (some (.identifier 2 "if")) ⟨mislabelledTokens, 4⟩ := rfl
  have nothing : Parse.statement 96 ⟨mislabelledTokens, 3⟩ = .ok none ⟨mislabelledTokens, 4⟩ := rfl
  refine ⟨⟨read, ?_⟩, nothing, ?_⟩
  · obtain ⟨outcome, ends⟩ := (rules_move_or_stand_still mislabelledTokens 1 (by decide)).1 .expression
    obtain ⟨later, ended, -, -, moves⟩ := ends 96 (by decide)
    cases moves with
    | passes taken begins =>
        cases read.symm.trans ended
        exact taken
    | stands same other => cases read.symm.trans ended
    | fails blames => cases read.symm.trans ended
  · obtain ⟨outcome, ends⟩ := (rules_move_or_stand_still mislabelledTokens 3 (by decide)).1 .statement
    obtain ⟨later, ended, -, -, moves⟩ := ends 96 (by decide)
    cases moves with
    | passes taken begins => cases nothing.symm.trans ended
    | stands same other =>
        cases nothing.symm.trans ended
        exact same
    | fails blames => cases nothing.symm.trans ended

end Scriptlet
