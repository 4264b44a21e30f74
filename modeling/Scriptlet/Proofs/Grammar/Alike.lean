import Scriptlet.Proofs.Grammar.Comparison

/-!
Readings that cannot be told apart.

The grammar looks at nothing but lexemes, hands lines on without looking at them, and treats a closing separator
like the end of the text. By `rules_follow`, on tokens that are alike, and with at least as much fuel, a rule gives
answers that are alike.
-/

set_option autoImplicit false

namespace Scriptlet.Grammar

variable (view : Nat → Nat) (suffix : List Token)

inductive Alike : List Token → List Token → Prop where
  | ended (whole : suffix = []) : Alike [] []
  | closed (closer : Token) (rest : List Token) (part : suffix = closer :: rest)
      (closes : IsCloser closer) : Alike [] (closer :: rest)
  | taken (left right : Token) (lefts rights : List Token) (same : SameToken view left right)
      (alike : Alike lefts rights) : Alike (left :: lefts) (right :: rights)

def Follows {α : Type} (same : α → α → Prop) : Answer α → Answer α → Prop
  | .ok left, right => ∃ result, right = .ok result ∧ same left result
  | .error (.failed error), right => suffix = [] →
      ∃ other, right = .error (.failed other) ∧ view error.line = view other.line ∧
        error.cause = other.cause
  | .error .outOfFuel, _ => True

def Following : Relation := fun same left right _ answer other =>
  Follows view suffix (fun a b => same a b ∧ Alike view suffix (left a) (right b)) answer other

abbrev RulesFollow (endLine otherLine fuel more : Nat) : Prop :=
  RulesCompare view endLine otherLine (Alike view suffix) (Following view suffix) fuel more

variable {view suffix}

theorem alike_of_map_eq (whole : suffix = []) (left right : List Token)
    (same : left.map (fun token => (token.toLexeme, view token.line)) =
      right.map (fun token => (token.toLexeme, view token.line))) : Alike view suffix left right := by
  induction left generalizing right with
  | nil =>
      obtain rfl : right = [] := by simpa using same.symm
      exact .ended whole
  | cons first others ih =>
      cases right with
      | nil => cases same
      | cons second rest =>
          simp only [List.map_cons, List.cons.injEq, Prod.mk.injEq] at same
          exact .taken _ _ _ _ same.1 (ih rest same.2)

theorem alike_append (tokens : List Token) (stops : Alike view suffix [] suffix) :
    Alike view suffix tokens (tokens ++ suffix) := by
  induction tokens with
  | nil => exact stops
  | cons token tokens ih => exact .taken _ _ _ _ ⟨rfl, rfl⟩ ih

theorem alike_nil {rest : List Token} (alike : Alike view suffix [] rest) : rest = suffix := by
  cases alike with
  | ended whole => exact whole.symm
  | closed closer rest part closes => exact part.symm

theorem follows_bind {α β : Type} {first : α → α → Prop} {second : β → β → Prop}
    {left right : Answer α} {lefts rights : α → Answer β}
    (follows : Follows view suffix first left right)
    (continues : ∀ a b, first a b → Follows view suffix second (lefts a) (rights b)) :
    Follows view suffix second (left >>= lefts) (right >>= rights) := by
  match left, follows with
  | .ok a, ⟨b, answered, alike⟩ =>
      subst answered
      exact continues a b alike
  | .error (.failed error), follows =>
      intro whole
      obtain ⟨other, answered, lines, causes⟩ := follows whole
      subst answered
      exact ⟨other, rfl, lines, causes⟩
  | .error .outOfFuel, _ => trivial

theorem alike_head {token other : Token} {left right : List Token}
    (alike : Alike view suffix (token :: left) (other :: right)) : SameToken view token other := by
  cases alike with
  | taken _ _ _ _ same _ => exact same

theorem alike_tail {token other : Token} {left right : List Token}
    (alike : Alike view suffix (token :: left) (other :: right)) : Alike view suffix left right := by
  cases alike with
  | taken _ _ _ _ _ alike => exact alike

theorem follows_fail {α : Type} {same : α → α → Prop} {token other : Token} (alike : SameToken view token other)
    (fault : String → SyntacticFault) :
    Follows view suffix same (fail token.line (fault token.text)) (fail other.line (fault other.text)) := by
  have texts : token.text = other.text := congrArg Lexeme.text alike.1
  rw [texts]
  exact fun _ => ⟨_, rfl, alike.2, rfl⟩

theorem follows_fail_expected {α : Type} {same : α → α → Prop} {endLine otherLine : Nat}
    (ends : suffix = [] → view endLine = view otherLine) {left right : List Token} (what : Expectation)
    (alike : Alike view suffix left right) :
    Follows view suffix same (failExpected endLine what left) (failExpected otherLine what right) := by
  cases alike with
  | ended whole => exact fun _ => ⟨⟨otherLine, _⟩, rfl, ends whole, rfl⟩
  | closed closer rest part closes => exact fun whole => nomatch whole.symm.trans part
  | taken first second lefts rights same alike =>
      rw [failExpected, failExpected, same.1]
      exact fun _ => ⟨_, rfl, same.2, rfl⟩

-- Behind the end of the first text stands a closer, and what has failed there has not been read.
theorem follows_ended {α : Type} {same : α → α → Prop} {token : Token} {behind : List Token}
    {answer : Answer α} (another : Answer α) (alike : Alike view suffix [] (token :: behind))
    (fails : IsCloser token → ∃ error, answer = .error (.failed error)) :
    Follows view suffix same answer another := by
  cases alike with
  | closed _ _ part closes =>
      obtain ⟨error, rfl⟩ := fails closes
      exact fun whole => nomatch whole.symm.trans part

theorem following_compares {endLine otherLine : Nat} (ends : suffix = [] → view endLine = view otherLine) :
    Compares view endLine otherLine (Alike view suffix) (Following view suffix) where
  head := alike_head
  tail := alike_tail
  notShorter := nofun
  ok _ _ _ b alike same := ⟨b, rfl, same, alike⟩
  exhausted := trivial
  bind follows continues := follows_bind follows fun a b alike => continues a b alike.1 alike.2
  taken _ _ _ _ follows := follows
  ended another alike fails _ := follows_ended another alike fails
  expected what _ _ alike := follows_fail_expected ends what alike
  missingOperand alike _ := follows_fail (alike_head alike) .missingOperand
  invalidSign alike _ _ := follows_fail (alike_head alike) .invalidUnaryOperator

theorem rules_follow {view : Nat → Nat} {suffix : List Token} {endLine otherLine fuel more : Nat}
    (ends : suffix = [] → view endLine = view otherLine) (enough : fuel ≤ more) :
    RulesFollow view suffix endLine otherLine fuel more :=
  rules_compare (following_compares ends) enough

end Scriptlet.Grammar
