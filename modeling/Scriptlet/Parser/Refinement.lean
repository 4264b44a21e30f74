import Scriptlet.Grammar
import Scriptlet.Parser

/-!
The parser follows the grammar.

A parser moves through the tokens of a text, the grammar takes the significant ones from a list. From every
position, and with the same fuel, a rule of the parser has the outcome that the rule of the grammar has on the
significant tokens ahead, and these are also what it leaves (`rules_agree`).
-/

set_option autoImplicit false

namespace Scriptlet

def ahead (tokens : List Token) (position : Nat) : List Token :=
  (tokens.drop position).filter Token.isSignificant

def lastLine (tokens : List Token) : Nat := (tokens.getLast?.map Token.line).getD 1

namespace Parse

section Movement

variable (tokens : List Token)

structure Moves (position later : Nat) : Prop where
  forward : position ≤ later
  within : position ≤ tokens.length → later ≤ tokens.length

variable {tokens} {position later last : Nat}

theorem moves_refl : Moves tokens position position := ⟨Nat.le_refl _, id⟩

theorem moves_trans (first : Moves tokens position later) (second : Moves tokens later last) :
    Moves tokens position last :=
  ⟨Nat.le_trans first.forward second.forward, fun within => second.within (first.within within)⟩

end Movement

section Agreement

variable {α β γ δ : Type} (tokens : List Token)

inductive Agrees (same : α → List Token → β → Prop) (position : Nat) :
    EStateM.Result (Stop SyntacticError) Parser α → Grammar.Answer β → Prop where
  | read {a : α} {b : β} {later : Nat} (moves : Moves tokens position later)
      (alike : same a (ahead tokens later) b) : Agrees same position (.ok a ⟨tokens, later⟩) (.ok b)
  | stopped {stop : Stop SyntacticError} {later : Nat} (moves : Moves tokens position later) :
      Agrees same position (.error stop ⟨tokens, later⟩) (.error stop)

def Behind (a : α) (left : List Token) (read : α × List Token) : Prop := read = (a, left)

inductive BehindIfSome (given : List Token) :
    Option Expr → List Token → Option (Expr × List Token) → Prop where
  | none {left : List Token} (stays : left = given) : BehindIfSome given none left none
  | some (read : Expr) (left : List Token) : BehindIfSome given (some read) left (some (read, left))

def BehindSome (a : Option Expr) (left : List Token) (read : Option (Expr × List Token)) : Prop :=
  ∃ expr, a = some expr ∧ read = some (expr, left)

def Refines (parse : Parse α) (rule : List Token → Grammar.Answer (α × List Token)) : Prop :=
  ∀ position, Agrees tokens Behind position (parse ⟨tokens, position⟩) (rule (ahead tokens position))

def RefinesIfSome (parse : Parse (Option Expr))
    (rule : List Token → Grammar.Answer (Option (Expr × List Token))) : Prop :=
  ∀ position, Agrees tokens (BehindIfSome (ahead tokens position)) position (parse ⟨tokens, position⟩)
    (rule (ahead tokens position))

variable {tokens} {same : α → List Token → β → Prop} {further : γ → List Token → δ → Prop}
  {position later : Nat}

theorem agrees_moved {result : EStateM.Result (Stop SyntacticError) Parser α} {answer : Grammar.Answer β}
    (moves : Moves tokens position later) (agrees : Agrees tokens same later result answer) :
    Agrees tokens same position result answer := by
  cases agrees with
  | read onward alike => exact .read (moves_trans moves onward) alike
  | stopped onward => exact .stopped (moves_trans moves onward)

theorem bind_of_read {parse : Parse α} {next : α → Parse γ} {parser after : Parser} {a : α}
    (ran : parse parser = .ok a after) : (parse >>= next) parser = next a after := by
  change EStateM.bind parse next parser = _
  rw [EStateM.bind, ran]

theorem agrees_bind {parse : Parse α} {next : α → Parse γ} {answer : Grammar.Answer β}
    {nexts : β → Grammar.Answer δ} (agrees : Agrees tokens same position (parse ⟨tokens, position⟩) answer)
    (continues : ∀ a b later, same a (ahead tokens later) b →
      Agrees tokens further later (next a ⟨tokens, later⟩) (nexts b)) :
    Agrees tokens further position ((parse >>= next) ⟨tokens, position⟩) (answer >>= nexts) := by
  change Agrees tokens further position (EStateM.bind parse next ⟨tokens, position⟩) _
  rw [EStateM.bind]
  generalize parse ⟨tokens, position⟩ = result at agrees
  cases agrees with
  | read moves alike => exact agrees_moved moves (continues _ _ _ alike)
  | stopped moves => exact .stopped moves

end Agreement

section Tokens

theorem trivia_skipped (list : List Token) : ∃ trivia,
    (list.takeWhile fun token => !token.isSignificant).length = trivia ∧ trivia ≤ list.length ∧
    list[trivia]? = (list.filter Token.isSignificant).head? ∧
    (list.drop trivia).filter Token.isSignificant = list.filter Token.isSignificant ∧
    ∀ token rest, list.filter Token.isSignificant = token :: rest →
      trivia < list.length ∧ (list.drop (trivia + 1)).filter Token.isSignificant = rest := by
  induction list with
  | nil => exact ⟨0, rfl, Nat.le_refl _, rfl, rfl, fun _ _ impossible => nomatch impossible⟩
  | cons first others ih =>
      by_cases significant : first.isSignificant = true
      · refine ⟨0, ?_, Nat.zero_le _, ?_, rfl, fun token rest found => ⟨Nat.zero_lt_succ _, ?_⟩⟩
        · rw [List.takeWhile_cons_of_neg (by simp [significant])]
          rfl
        · rw [List.filter_cons_of_pos significant]
          rfl
        · rw [List.filter_cons_of_pos significant] at found
          exact (List.cons.inj found).2
      · obtain ⟨trivia, count, within, finds, kept, behind⟩ := ih
        refine ⟨trivia + 1, ?_, Nat.succ_le_succ within, ?_, ?_, fun token rest found => ?_⟩
        · rw [List.takeWhile_cons_of_pos (by simp [significant]), List.length_cons, count]
        · rw [List.filter_cons_of_neg significant, List.getElem?_cons_succ, finds]
        · rw [List.filter_cons_of_neg significant, List.drop_succ_cons, kept]
        · rw [List.filter_cons_of_neg significant] at found
          obtain ⟨further, rest⟩ := behind token rest found
          exact ⟨Nat.succ_lt_succ further, rest⟩

variable {tokens : List Token} {position : Nat}

theorem peek_finds : ∃ later, peek ⟨tokens, position⟩ = .ok (ahead tokens position).head? ⟨tokens, later⟩ ∧
    Moves tokens position later ∧ ahead tokens later = ahead tokens position ∧
    ∀ token rest, ahead tokens position = token :: rest →
      Moves tokens later (later + 1) ∧ ahead tokens (later + 1) = rest := by
  obtain ⟨trivia, count, within, finds, kept, behind⟩ := trivia_skipped (tokens.drop position)
  rw [List.length_drop] at within
  refine ⟨position + trivia, ?_, ⟨by omega, by omega⟩, ?_, fun token rest found => ?_⟩
  · have skipped : Parser.skipTrivia ⟨tokens, position⟩ = ⟨tokens, position + trivia⟩ := by
      rw [Parser.skipTrivia, count]
    rw [List.getElem?_drop] at finds
    change EStateM.Result.ok ((Parser.skipTrivia ⟨tokens, position⟩).tokens[_]?) _ = _
    rw [skipped, finds, ahead]
  · rw [ahead, ← List.drop_drop, kept, ahead]
  · obtain ⟨further, left⟩ := behind token rest found
    rw [List.length_drop] at further
    refine ⟨⟨by omega, by omega⟩, ?_⟩
    rw [ahead, Nat.add_assoc, ← List.drop_drop, left]

theorem accept_if_taken {test : Token → Bool} {token : Token} {rest : List Token}
    (accepted : Grammar.acceptIf test (ahead tokens position) = some (token, rest)) :
    ∃ later, acceptIf test ⟨tokens, position⟩ = .ok (some token) ⟨tokens, later⟩ ∧
      Moves tokens position later ∧ ahead tokens later = rest := by
  obtain ⟨found, peeked, moves, -, behind⟩ := @peek_finds tokens position
  cases left : ahead tokens position with
  | nil =>
      rw [left] at accepted
      cases accepted
  | cons first others =>
      rw [left, Grammar.acceptIf] at accepted
      by_cases passes : test first = true
      · rw [if_pos passes] at accepted
        cases accepted
        obtain ⟨onward, rest⟩ := behind token rest left
        refine ⟨found + 1, ?_, moves_trans moves onward, rest⟩
        rw [acceptIf, bind_of_read peeked, left, List.head?_cons]
        dsimp only
        rw [if_pos passes]
        rfl
      · rw [if_neg passes] at accepted
        cases accepted

theorem accept_if_refused {test : Token → Bool}
    (refused : Grammar.acceptIf test (ahead tokens position) = none) :
    ∃ later, acceptIf test ⟨tokens, position⟩ = .ok none ⟨tokens, later⟩ ∧
      Moves tokens position later ∧ ahead tokens later = ahead tokens position := by
  obtain ⟨found, peeked, moves, same, -⟩ := @peek_finds tokens position
  refine ⟨found, ?_, moves, same⟩
  rw [acceptIf, bind_of_read peeked]
  cases left : ahead tokens position with
  | nil => rfl
  | cons first others =>
      rw [left, Grammar.acceptIf] at refused
      by_cases passes : test first = true
      · rw [if_pos passes] at refused
        cases refused
      · rw [List.head?_cons]
        dsimp only
        rw [if_neg passes]
        rfl

section Choice

variable {α β : Type} {same : α → List Token → β → Prop} {test : Token → Bool} {next : Option Token → Parse α}
  {given : List Token} {answer : Grammar.Answer β}

theorem agrees_taken {token : Token} {rest : List Token} (left : ahead tokens position = given)
    (accepted : Grammar.acceptIf test given = some (token, rest))
    (continues : ∀ later, ahead tokens later = rest →
      Agrees tokens same later (next (some token) ⟨tokens, later⟩) answer) :
    Agrees tokens same position ((acceptIf test >>= next) ⟨tokens, position⟩) answer := by
  rw [← left] at accepted
  obtain ⟨later, took, moves, behind⟩ := accept_if_taken accepted
  rw [bind_of_read took]
  exact agrees_moved moves (continues later behind)

theorem agrees_refused (left : ahead tokens position = given)
    (refused : Grammar.acceptIf test given = none)
    (continues : ∀ later, ahead tokens later = given →
      Agrees tokens same later (next none ⟨tokens, later⟩) answer) :
    Agrees tokens same position ((acceptIf test >>= next) ⟨tokens, position⟩) answer := by
  rw [← left] at refused
  obtain ⟨later, passed, moves, kept⟩ := accept_if_refused refused
  rw [bind_of_read passed]
  exact agrees_moved moves (continues later (kept.trans left))

end Choice

theorem line_found : ∃ later, line ⟨tokens, position⟩ =
      .ok (((ahead tokens position).head?.map Token.line).getD (lastLine tokens)) ⟨tokens, later⟩ ∧
    Moves tokens position later ∧ ahead tokens later = ahead tokens position := by
  obtain ⟨later, peeked, moves, kept, -⟩ := @peek_finds tokens position
  refine ⟨later, ?_, moves, kept⟩
  rw [line, bind_of_read peeked]
  cases ahead tokens position with
  | nil => rfl
  | cons token rest => rfl

theorem expected_agrees {α β : Type} {same : α → List Token → β → Prop} (what : Expectation) :
    Agrees tokens same position (expected what ⟨tokens, position⟩)
      (Grammar.failExpected (lastLine tokens) what (ahead tokens position)) := by
  obtain ⟨found, located, moves, kept⟩ := @line_found tokens position
  obtain ⟨later, peeked, onward, -, -⟩ := @peek_finds tokens found
  rw [kept] at peeked
  rw [expected, bind_of_read located, bind_of_read peeked]
  cases ahead tokens position with
  | nil => exact .stopped (moves_trans moves onward)
  | cons token rest => exact .stopped (moves_trans moves onward)

theorem expect_refines (text : String) :
    Refines tokens (expect text) (Grammar.expect (lastLine tokens) text) := by
  intro position
  rw [expect, Grammar.expect]
  cases accepted : Grammar.accept text (ahead tokens position) with
  | some taken =>
      refine agrees_taken rfl accepted fun later left => ?_
      exact .read moves_refl (by rw [Behind, left])
  | none =>
      refine agrees_refused rfl accepted fun later left => ?_
      rw [← left]
      exact expected_agrees _

theorem expect_kind_refines (kind : TokenKind) :
    Refines tokens (expectKind kind) (Grammar.expectKind (lastLine tokens) kind) := by
  intro position
  rw [expectKind, Grammar.expectKind]
  cases accepted : Grammar.acceptKind kind (ahead tokens position) with
  | some taken =>
      refine agrees_taken rfl accepted fun later left => ?_
      exact .read moves_refl (by rw [Behind, left])
  | none =>
      refine agrees_refused rfl accepted fun later left => ?_
      rw [← left]
      exact expected_agrees _

theorem require_agrees (what : Expectation) {given : List Token} {read : Option Expr}
    {found : Option (Expr × List Token)} (alike : BehindIfSome given read (ahead tokens position) found) :
    Agrees tokens Behind position (require what read ⟨tokens, position⟩)
      (Grammar.require (lastLine tokens) what given found) := by
  cases alike with
  | none stays =>
      rw [← stays]
      exact expected_agrees what
  | some read left => exact .read moves_refl rfl

section Constructs

variable {word : String} {behind : Nat → Parse Expr} {second : Parse (Option Expr)} {given : List Token}
  {answer : Grammar.Answer (Option (Expr × List Token))}

theorem construct_taken {token : Token} {rest : List Token}
    {rule : List Token → Grammar.Answer (Expr × List Token)} (left : ahead tokens position = token :: rest)
    (accepted : token.text = word) (refines : Refines tokens (behind token.line) rule) :
    Agrees tokens BehindSome position (construct word behind ⟨tokens, position⟩)
      (do let (read, rest) ← rule rest
          return some (read, rest)) := by
  rw [construct]
  refine agrees_taken left (Grammar.accept_cons_pos rest accepted) fun later left => ?_
  rw [← left]
  refine agrees_bind (refines later) fun read _ last alike => ?_
  cases alike
  exact .read moves_refl ⟨read, rfl, rfl⟩

theorem construct_refused (left : ahead tokens position = given) (refused : Grammar.accept word given = none) :
    Agrees tokens (BehindIfSome given) position (construct word behind ⟨tokens, position⟩) (.ok none) := by
  rw [construct]
  exact agrees_refused left refused fun later left => .read moves_refl (.none left)

theorem otherwise_taken {first : Parse (Option Expr)}
    (agrees : Agrees tokens BehindSome position (first ⟨tokens, position⟩) answer) :
    Agrees tokens (BehindIfSome given) position (otherwise first second ⟨tokens, position⟩) answer := by
  rw [otherwise, ← bind_pure answer]
  refine agrees_bind agrees fun _ _ later alike => ?_
  obtain ⟨read, rfl, rfl⟩ := alike
  exact .read moves_refl (.some read _)

theorem otherwise_refused (left : ahead tokens position = given) (refused : Grammar.accept word given = none)
    (continues : ∀ later, ahead tokens later = given →
      Agrees tokens (BehindIfSome given) later (second ⟨tokens, later⟩) answer) :
    Agrees tokens (BehindIfSome given) position
      (otherwise (construct word behind) second ⟨tokens, position⟩) answer := by
  rw [← left] at refused
  obtain ⟨later, passed, moves, kept⟩ := accept_if_refused refused
  have nothing : construct word behind ⟨tokens, position⟩ = .ok none ⟨tokens, later⟩ := by
    rw [construct, accept, bind_of_read passed]
    rfl
  rw [otherwise, bind_of_read nothing]
  exact agrees_moved moves (continues later (kept.trans left))

theorem behind_some_weaken {result : EStateM.Result (Stop SyntacticError) Parser (Option Expr)}
    (agrees : Agrees tokens BehindSome position result answer) :
    Agrees tokens (BehindIfSome given) position result answer := by
  cases agrees with
  | read moves alike =>
      obtain ⟨read, rfl, rfl⟩ := alike
      exact .read moves (.some read _)
  | stopped moves => exact .stopped moves

end Constructs

end Tokens

structure RulesAgree (tokens : List Token) (fuel : Nat) : Prop where
  statements : Refines tokens (statements fuel) (Grammar.statements (lastLine tokens) fuel)
  statement : RefinesIfSome tokens (statement fuel) (Grammar.statement (lastLine tokens) fuel)
  expression : RefinesIfSome tokens (expression fuel) (Grammar.expression (lastLine tokens) fuel)
  binary : ∀ level, RefinesIfSome tokens (binary fuel level)
    (Grammar.chain (lastLine tokens) fuel (binaryGroups.drop level))
  continuation : ∀ group level, Refines tokens (continuation fuel group level)
    (Grammar.continuation (lastLine tokens) fuel group (binaryGroups.drop (level + 1)))
  unary : RefinesIfSome tokens (unary fuel) (Grammar.unary (lastLine tokens) fuel)
  primary : RefinesIfSome tokens (primary fuel) (Grammar.primary (lastLine tokens) fuel)
  arguments : Refines tokens (arguments fuel) (Grammar.arguments (lastLine tokens) fuel)
  declaration : ∀ line, Refines tokens (declaration fuel line)
    (Grammar.declaration (lastLine tokens) fuel line)
  conditional : ∀ line, Refines tokens (conditional fuel line)
    (Grammar.conditional (lastLine tokens) fuel line)
  loop : ∀ line, Refines tokens (loop fuel line) (Grammar.loop (lastLine tokens) fuel line)
  condition : Refines tokens (condition fuel) (Grammar.condition (lastLine tokens) fuel)

theorem rules_agree_zero (tokens : List Token) : RulesAgree tokens 0 := by
  constructor <;> intros <;> intro position <;> exact .stopped moves_refl

section Step

variable {tokens : List Token} {fuel : Nat} (agree : RulesAgree tokens fuel)
include agree

theorem statements_agree :
    Refines tokens (statements (fuel + 1)) (Grammar.statements (lastLine tokens) (fuel + 1)) := by
  intro position
  rw [statements, Grammar.statements]
  refine agrees_bind (agree.statement position) fun _ _ later alike => ?_
  cases alike with
  | none stays => exact .read moves_refl (by rw [Behind, stays])
  | some first left =>
      refine agrees_bind (agree.statements later) fun others _ last alike => ?_
      cases alike
      exact .read moves_refl rfl

-- Where no expression was found there is no semicolon either: it would have been taken before.
theorem statement_agree :
    RefinesIfSome tokens (statement (fuel + 1)) (Grammar.statement (lastLine tokens) (fuel + 1)) := by
  intro position
  rw [statement, Grammar.statement]
  cases accepted : Grammar.accept ";" (ahead tokens position) with
  | some taken =>
      obtain ⟨token, rest⟩ := taken
      refine agrees_taken rfl accepted fun later left => ?_
      subst left
      exact .read moves_refl (.some _ _)
  | none =>
      refine agrees_refused rfl accepted fun later left => ?_
      rw [← left] at accepted ⊢
      refine agrees_bind (agree.expression later) fun _ _ behind alike => ?_
      cases alike with
      | none stays => exact agrees_refused stays accepted fun last left => .read moves_refl (.none left)
      | some read left =>
          dsimp only [Grammar.skip]
          cases accepted : Grammar.accept ";" (ahead tokens behind) with
          | some taken =>
              obtain ⟨token, rest⟩ := taken
              refine agrees_taken rfl accepted fun last left => ?_
              subst left
              exact .read moves_refl (.some _ _)
          | none =>
              refine agrees_refused rfl accepted fun last left => ?_
              rw [← left]
              exact .read moves_refl (.some _ _)

theorem expression_agree :
    RefinesIfSome tokens (expression (fuel + 1)) (Grammar.expression (lastLine tokens) (fuel + 1)) := by
  intro position
  rw [expression, Grammar.expression]
  exact agree.binary 0 position

theorem binary_agree (level : Nat) : RefinesIfSome tokens (binary (fuel + 1) level)
    (Grammar.chain (lastLine tokens) (fuel + 1) (binaryGroups.drop level)) := by
  intro position
  rw [binary]
  cases found : binaryGroups[level]? with
  | none =>
      rw [List.drop_eq_nil_of_le (List.getElem?_eq_none_iff.mp found), Grammar.chain]
      exact agree.unary position
  | some group =>
      obtain ⟨within, here⟩ := List.getElem?_eq_some_iff.mp found
      rw [List.drop_eq_getElem_cons within, here, Grammar.chain]
      refine agrees_bind (agree.binary (level + 1) position) fun _ _ later alike => ?_
      cases alike with
      | none stays => exact .read moves_refl (.none stays)
      | some operand left =>
          refine agrees_bind (agree.continuation group level later) fun operations _ last alike => ?_
          cases alike
          cases operations with
          | none => exact .read moves_refl (.some _ _)
          | some operations => exact .read moves_refl (.some _ _)

theorem continuation_agree (group : OperatorGroup) (level : Nat) :
    Refines tokens (continuation (fuel + 1) group level)
      (Grammar.continuation (lastLine tokens) (fuel + 1) group (binaryGroups.drop (level + 1))) := by
  intro position
  rw [continuation, Grammar.continuation]
  cases accepted : Grammar.acceptIf (fun token => token.kind = .operator && group.contains token.text)
      (ahead tokens position) with
  | none =>
      exact agrees_refused rfl accepted fun later left => .read moves_refl (by rw [Behind, left])
  | some taken =>
      obtain ⟨token, rest⟩ := taken
      refine agrees_taken rfl accepted fun later left => ?_
      subst left
      dsimp only
      cases group.find? token.text with
      | none => exact .stopped moves_refl
      | some operator =>
          refine agrees_bind (agree.binary (level + 1) later) fun _ _ last alike => ?_
          cases alike with
          | none stays => exact .stopped moves_refl
          | some operand left =>
              refine agrees_bind (agree.continuation group level last) fun deeper _ _ alike => ?_
              cases alike
              exact .read moves_refl rfl

theorem unary_agree :
    RefinesIfSome tokens (unary (fuel + 1)) (Grammar.unary (lastLine tokens) (fuel + 1)) := by
  intro position
  rw [unary, Grammar.unary]
  cases accepted : Grammar.acceptKind .operator (ahead tokens position) with
  | none =>
      refine agrees_refused rfl accepted fun later left => ?_
      rw [← left]
      exact agree.primary later
  | some taken =>
      obtain ⟨sign, rest⟩ := taken
      refine agrees_taken rfl accepted fun later left => ?_
      subst left
      dsimp only
      cases Operator.find? sign.text .unary with
      | none => exact .stopped moves_refl
      | some operator =>
          refine agrees_bind (agree.primary later) fun _ _ last alike => ?_
          cases alike with
          | none stays => exact .stopped moves_refl
          | some operand left => exact .read moves_refl (.some _ _)

theorem arguments_agree :
    Refines tokens (arguments (fuel + 1)) (Grammar.arguments (lastLine tokens) (fuel + 1)) := by
  intro position
  rw [arguments, Grammar.arguments]
  refine agrees_bind (agree.expression position) fun _ _ later alike => ?_
  cases alike with
  | none stays =>
      rw [← stays]
      refine agrees_bind (expect_refines ")" later) fun closing _ last alike => ?_
      cases alike
      exact .read moves_refl rfl
  | some first left =>
      dsimp only
      cases accepted : Grammar.accept ")" (ahead tokens later) with
      | some taken =>
          refine agrees_taken rfl accepted fun last left => ?_
          exact .read moves_refl (by rw [Behind, left])
      | none =>
          refine agrees_refused rfl accepted fun last left => ?_
          rw [← left]
          refine agrees_bind (expect_refines "," last) fun comma _ behind alike => ?_
          cases alike
          refine agrees_bind (agree.arguments behind) fun others _ _ alike => ?_
          cases alike
          exact .read moves_refl rfl

theorem declaration_agree (line : Nat) : Refines tokens (declaration (fuel + 1) line)
    (Grammar.declaration (lastLine tokens) (fuel + 1) line) := by
  intro position
  rw [declaration, Grammar.declaration]
  refine agrees_bind (expect_kind_refines .identifier position) fun name _ later alike => ?_
  cases alike
  dsimp only
  cases accepted : Grammar.accept "=" (ahead tokens later) with
  | none =>
      exact agrees_refused rfl accepted fun last left => .read moves_refl (by rw [Behind, left])
  | some taken =>
      obtain ⟨token, rest⟩ := taken
      refine agrees_taken rfl accepted fun last left => ?_
      subst left
      refine agrees_bind (agree.expression last) fun _ _ behind alike => ?_
      refine agrees_bind (require_agrees .expression alike) fun initializer _ _ alike => ?_
      cases alike
      exact .read moves_refl rfl

theorem conditional_agree (line : Nat) : Refines tokens (conditional (fuel + 1) line)
    (Grammar.conditional (lastLine tokens) (fuel + 1) line) := by
  intro position
  rw [conditional, Grammar.conditional]
  refine agrees_bind (agree.condition position) fun test _ later alike => ?_
  cases alike
  refine agrees_bind (agree.statement later) fun _ _ behind alike => ?_
  refine agrees_bind (require_agrees .statementAfterTest alike) fun thenBranch _ later alike => ?_
  cases alike
  dsimp only
  cases accepted : Grammar.accept "else" (ahead tokens later) with
  | none =>
      exact agrees_refused rfl accepted fun last left => .read moves_refl (by rw [Behind, left])
  | some taken =>
      obtain ⟨token, rest⟩ := taken
      refine agrees_taken rfl accepted fun last left => ?_
      subst left
      refine agrees_bind (agree.statement last) fun _ _ behind alike => ?_
      refine agrees_bind (require_agrees .statementAfterElse alike) fun elseBranch _ _ alike => ?_
      cases alike
      exact .read moves_refl rfl

theorem loop_agree (line : Nat) :
    Refines tokens (loop (fuel + 1) line) (Grammar.loop (lastLine tokens) (fuel + 1) line) := by
  intro position
  rw [loop, Grammar.loop]
  refine agrees_bind (agree.condition position) fun test _ later alike => ?_
  cases alike
  refine agrees_bind (agree.statement later) fun _ _ behind alike => ?_
  refine agrees_bind (require_agrees .statementAfterTest alike) fun body _ _ alike => ?_
  cases alike
  exact .read moves_refl rfl

theorem condition_agree :
    Refines tokens (condition (fuel + 1)) (Grammar.condition (lastLine tokens) (fuel + 1)) := by
  intro position
  rw [condition, Grammar.condition]
  refine agrees_bind (expect_refines "(" position) fun opening _ later alike => ?_
  cases alike
  refine agrees_bind (agree.expression later) fun _ _ behind alike => ?_
  refine agrees_bind (require_agrees .testExpression alike) fun test _ later alike => ?_
  cases alike
  refine agrees_bind (expect_refines ")" later) fun closing _ _ alike => ?_
  cases alike
  exact .read moves_refl rfl

theorem block_refines (line : Nat) : Refines tokens (blockOf (statements fuel) line) fun rest => do
    let (inner, rest) ← Grammar.statements (lastLine tokens) fuel rest
    let (_, rest) ← Grammar.expect (lastLine tokens) "\x7d" rest
    return (.block line inner, rest) := by
  intro position
  rw [blockOf]
  refine agrees_bind (agree.statements position) fun inner _ later alike => ?_
  cases alike
  refine agrees_bind (expect_refines "\x7d" later) fun closing _ _ alike => ?_
  cases alike
  exact .read moves_refl rfl

theorem statement_expression_agree : RefinesIfSome tokens (statementExpression fuel)
    (Grammar.statementExpression (lastLine tokens) fuel) := by
  intro position
  rw [statementExpression, constructs]
  generalize left : ahead tokens position = given
  cases given with
  | nil =>
      refine otherwise_refused left rfl fun second left => ?_
      refine otherwise_refused left rfl fun third left => ?_
      refine otherwise_refused left rfl fun last left => ?_
      exact construct_refused left rfl
  | cons token rest =>
      rw [Grammar.statementExpression]
      by_cases declares : token.text = "let"
      · rw [if_pos declares]
        exact otherwise_taken (construct_taken left declares (agree.declaration token.line))
      rw [if_neg declares]
      refine otherwise_refused left (Grammar.accept_cons_neg rest declares) fun second left => ?_
      by_cases branches : token.text = "if"
      · rw [if_pos branches]
        exact otherwise_taken (construct_taken left branches (agree.conditional token.line))
      rw [if_neg branches]
      refine otherwise_refused left (Grammar.accept_cons_neg rest branches) fun third left => ?_
      by_cases loops : token.text = "while"
      · rw [if_pos loops]
        exact otherwise_taken (construct_taken left loops (agree.loop token.line))
      rw [if_neg loops]
      refine otherwise_refused left (Grammar.accept_cons_neg rest loops) fun last left => ?_
      by_cases opens : token.text = "\x7b"
      · rw [if_pos opens]
        have taken := construct_taken left opens (block_refines agree token.line)
        simp only [bind_assoc, pure_bind] at taken
        exact behind_some_weaken taken
      · rw [if_neg opens]
        exact construct_refused left (Grammar.accept_cons_neg rest opens)

theorem call_agrees (first : Token) {position : Nat} {rest given : List Token}
    (left : ahead tokens position = rest) :
    Agrees tokens (BehindIfSome given) position
      ((accept "(" >>= fun
        | none => return some (.identifier first.line first.text)
        | some _ => do
            let arguments ← arguments fuel
            return some (.call first.line first.text arguments)) ⟨tokens, position⟩)
      (match Grammar.accept "(" rest with
        | none => return some (.identifier first.line first.text, rest)
        | some (_, rest) => do
            let (arguments, rest) ← Grammar.arguments (lastLine tokens) fuel rest
            return some (.call first.line first.text arguments, rest)) := by
  cases accepted : Grammar.accept "(" rest with
  | none =>
      refine agrees_refused left accepted fun later left => ?_
      subst left
      exact .read moves_refl (.some _ _)
  | some taken =>
      obtain ⟨token, rest⟩ := taken
      refine agrees_taken left accepted fun later left => ?_
      subst left
      refine agrees_bind (agree.arguments later) fun arguments _ last alike => ?_
      cases alike
      exact .read moves_refl (.some _ _)

theorem primary_agree :
    RefinesIfSome tokens (primary (fuel + 1)) (Grammar.primary (lastLine tokens) (fuel + 1)) := by
  intro position
  have constructs := statement_expression_agree agree
  rw [primary]
  generalize left : ahead tokens position = given
  cases given with
  | nil =>
      rw [Grammar.primary]
      refine agrees_refused left rfl fun second left => ?_
      refine agrees_refused left rfl fun third left => ?_
      refine agrees_refused left rfl fun last left => ?_
      have nothing := constructs last
      rw [left] at nothing
      exact nothing
  | cons first rest =>
      by_cases name : first.kind = .identifier
      · rw [Grammar.primary, if_pos name]
        refine agrees_taken left (Grammar.accept_kind_cons_pos rest name) fun later left => ?_
        exact call_agrees agree first left
      refine agrees_refused left (Grammar.accept_kind_cons_neg rest name) fun second left => ?_
      by_cases opening : first.text = "("
      · rw [Grammar.primary, if_neg name, if_pos opening]
        refine agrees_taken left (Grammar.accept_cons_pos rest opening) fun later left => ?_
        subst left
        refine agrees_bind (agree.expression later) fun _ _ behind alike => ?_
        refine agrees_bind (require_agrees .expression alike) fun inner _ later alike => ?_
        cases alike
        refine agrees_bind (expect_refines ")" later) fun closing _ last alike => ?_
        cases alike
        exact .read moves_refl (.some _ _)
      refine agrees_refused left (Grammar.accept_cons_neg rest opening) fun third left => ?_
      by_cases literal : first.kind = .literal
      · rw [Grammar.primary, if_neg name, if_neg opening, if_pos literal]
        refine agrees_taken left (Grammar.accept_kind_cons_pos rest literal) fun later left => ?_
        subst left
        exact .read moves_refl (.some _ _)
      refine agrees_refused left (Grammar.accept_kind_cons_neg rest literal) fun last left => ?_
      rw [Grammar.primary_last _ _ _ _ name opening literal, ← left]
      exact constructs last

theorem rules_agree_succ : RulesAgree tokens (fuel + 1) where
  statements := statements_agree agree
  statement := statement_agree agree
  expression := expression_agree agree
  binary := binary_agree agree
  continuation := continuation_agree agree
  unary := unary_agree agree
  primary := primary_agree agree
  arguments := arguments_agree agree
  declaration := declaration_agree agree
  conditional := conditional_agree agree
  loop := loop_agree agree
  condition := condition_agree agree

end Step

theorem rules_agree (tokens : List Token) (fuel : Nat) : RulesAgree tokens fuel := by
  induction fuel with
  | zero => exact rules_agree_zero tokens
  | succ fuel ih => exact rules_agree_succ ih

end Parse

end Scriptlet
