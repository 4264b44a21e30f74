import Scriptlet.Proofs.Grammar.Reading

set_option autoImplicit false

namespace Scriptlet.Grammar

inductive Blames (endLine : Nat) (tokens : List Token) : SyntacticError → Prop where
  | ended (what : Expectation) : Blames endLine tokens ⟨endLine, .expected what none⟩
  | expected (what : Expectation) (token : Token) (member : token ∈ tokens) :
      Blames endLine tokens ⟨token.line, .expected what (some token.toLexeme)⟩
  | operand (token : Token) (member : token ∈ tokens) (kind : token.kind = .operator) :
      Blames endLine tokens ⟨token.line, .missingOperand token.text⟩
  | sign (token : Token) (member : token ∈ tokens) (kind : token.kind = .operator)
      (unknown : Operator.find? token.text .unary = none) :
      Blames endLine tokens ⟨token.line, .invalidUnaryOperator token.text⟩
  | trailing (token : Token) (member : token ∈ tokens) :
      Blames endLine tokens ⟨token.line, .trailingInput token.toLexeme⟩

def Blamed {α : Type} (endLine : Nat) (tokens : List Token) (left : α → List Token) : Answer α → Prop
  | .ok answer => left answer ⊆ tokens
  | .error (.failed error) => Blames endLine tokens error
  | .error .outOfFuel => True

def Blaming (endLine : Nat) (tokens : List Token) : Relation := fun same left right _ answer _ =>
  (∀ a, answer = .ok a → ∃ b, same a b ∧ right b = left a) ∧ Blamed endLine tokens left answer

section Composition

variable {α β : Type} {endLine : Nat} {tokens : List Token} {same : α → α → Prop} {left right : α → List Token}
  {start : List Token} {answer other : Answer α}

theorem blaming_ok {a b : α} (alike : same a b) (meets : right b = left a ∧ left a ⊆ tokens) :
    Blaming endLine tokens same left right start (.ok a) other := by
  refine ⟨?_, meets.2⟩
  rintro _ ⟨⟩
  exact ⟨b, alike, meets.1⟩

theorem blaming_failed {error : SyntacticError} (blames : Blames endLine tokens error) :
    Blaming endLine tokens same left right start (.error (.failed error)) other :=
  ⟨nofun, blames⟩

theorem blaming_exhausted : Blaming endLine tokens same left right start (.error .outOfFuel) other :=
  ⟨nofun, trivial⟩

theorem blaming_bind {further : β → β → Prop} {lefts rights : β → List Token} {next nexts : α → Answer β}
    (blaming : Blaming endLine tokens same left right start answer other)
    (continues : ∀ a b, same a b → right b = left a ∧ left a ⊆ tokens →
      Blaming endLine tokens further lefts rights (left a) (next a) (nexts b)) :
    Blaming endLine tokens further lefts rights start (answer >>= next) (other >>= nexts) := by
  obtain ⟨alike, blamed⟩ := blaming
  match answer, blamed with
  | .ok a, taken =>
      obtain ⟨b, same, behind⟩ := alike a rfl
      exact continues a b same ⟨behind, taken⟩
  | .error (.failed error), blames => exact blaming_failed blames
  | .error .outOfFuel, _ => exact blaming_exhausted

theorem blaming_expected (what : Expectation) (within : start ⊆ tokens) :
    Blaming endLine tokens same left right start (failExpected endLine what start) other := by
  cases start with
  | nil => exact blaming_failed (.ended what)
  | cons token rest => exact blaming_failed (.expected what token (within List.mem_cons_self))

end Composition

theorem blaming_compares (endLine otherLine : Nat) (tokens : List Token) :
    Compares id endLine otherLine (fun left right => right = left ∧ left ⊆ tokens) (Blaming endLine tokens) where
  head meets := by
    cases meets.1
    exact ⟨rfl, rfl⟩
  tail meets := ⟨(List.cons.inj meets.1).2, List.Subset.trans (List.subset_cons_self _ _) meets.2⟩
  notShorter meets := nomatch meets.1
  ok _ _ _ _ meets same := blaming_ok same meets
  exhausted := blaming_exhausted
  bind := blaming_bind
  taken _ _ _ _ blaming := blaming
  ended _ _ _ blaming := blaming
  expected what _ _ meets := blaming_expected what meets.2
  missingOperand meets kind := blaming_failed (.operand _ (meets.2 List.mem_cons_self) kind)
  invalidSign meets kind unknown := blaming_failed (.sign _ (meets.2 List.mem_cons_self) kind unknown)

theorem rules_blame (endLine fuel : Nat) (tokens : List Token) :
    RulesCompare id endLine endLine (fun left right => right = left ∧ left ⊆ tokens) (Blaming endLine tokens)
      fuel fuel :=
  rules_compare (blaming_compares endLine endLine tokens) (Nat.le_refl fuel)

theorem program_blames (tokens : List Token) (error : SyntacticError)
    (failed : Program.ofTokens tokens = .error error) :
    Blames (Cursor.ofTokens tokens).endLine (tokens.filter Token.isSignificant) error := by
  have blamed := ((rules_blame (Cursor.ofTokens tokens).endLine (Cursor.ofTokens tokens).fuel
    (Cursor.ofTokens tokens).tokens).statements ⟨rfl, List.Subset.refl _⟩).2
  rcases (program_error_iff tokens error).mp failed with stopped | ⟨read, token, rest, answer, rfl⟩
  · rw [stopped] at blamed
    exact blamed
  · rw [answer] at blamed
    exact .trailing token (blamed List.mem_cons_self)

end Scriptlet.Grammar
