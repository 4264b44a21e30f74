import Scriptlet.Proofs.Grammar.Reading

set_option autoImplicit false

namespace Scriptlet

def SyntacticFault.isFinal : SyntacticFault → Bool
  | expected _ found => found.isSome
  | missingOperand _ => false
  | invalidUnaryOperator _ => true
  | unknownBinaryOperator _ => false
  | trailingInput _ => true

namespace Grammar

def Decided {α : Type} (left : α → List Token) : Answer α → Prop
  | .ok answer => left answer ≠ []
  | .error (.failed error) => error.cause.isFinal = true
  | .error .outOfFuel => False

inductive Longer {α : Type} (suffix : List Token) (same : α → α → Prop) (left right : α → List Token) :
    Answer α → Answer α → Prop where
  | ok {a b : α} (alike : same a b) (behind : right b = left a ++ suffix) :
      Longer suffix same left right (.ok a) (.ok b)
  | error (stop : Stop SyntacticError) : Longer suffix same left right (.error stop) (.error stop)

def Persisting (suffix : List Token) : Relation := fun same left right start answer other =>
  ∃ longer, Longer suffix same left right answer longer ∧ (Decided left answer → start ≠ [] ∧ other = longer)

theorem persisting_bind {α β : Type} {suffix : List Token} {same : α → α → Prop} {left right : α → List Token}
    {further : β → β → Prop} {lefts rights : β → List Token} {start : List Token} {answer other : Answer α}
    {next nexts : α → Answer β} (persists : Persisting suffix same left right start answer other)
    (continues : ∀ a b, same a b → right b = left a ++ suffix →
      Persisting suffix further lefts rights (left a) (next a) (nexts b)) :
    Persisting suffix further lefts rights start (answer >>= next) (other >>= nexts) := by
  obtain ⟨longer, related, persists⟩ := persists
  cases related with
  | ok alike behind =>
      obtain ⟨longer, related, continues⟩ := continues _ _ alike behind
      refine ⟨longer, related, fun decided => ?_⟩
      obtain ⟨ahead, same⟩ := continues decided
      obtain ⟨started, rfl⟩ := persists ahead
      exact ⟨started, same⟩
  | error stop =>
      refine ⟨.error stop, .error stop, fun decided => ?_⟩
      have first : Decided left (.error stop) := by
        cases stop with
        | failed error => exact decided
        | outOfFuel => exact decided
      obtain ⟨started, rfl⟩ := persists first
      exact ⟨started, rfl⟩

theorem persisting_expected {α : Type} {suffix : List Token} {same : α → α → Prop} {left right : α → List Token}
    (endLine otherLine : Nat) (what : Expectation) (tokens : List Token) :
    Persisting suffix same left right tokens (failExpected endLine what tokens)
      (failExpected otherLine what (tokens ++ suffix)) := by
  cases tokens with
  | nil => exact ⟨_, .error _, fun final => nomatch final⟩
  | cons token rest => exact ⟨_, .error _, fun _ => ⟨List.cons_ne_nil token rest, rfl⟩⟩

theorem persisting_compares (suffix : List Token) (endLine otherLine : Nat) :
    Compares id endLine otherLine (fun left right => right = left ++ suffix) (Persisting suffix) where
  head meets := by
    cases meets
    exact ⟨rfl, rfl⟩
  tail meets := (List.cons.inj meets).2
  notShorter := nofun
  ok _ _ _ b meets same := ⟨.ok b, .ok same meets, fun ahead => ⟨ahead, rfl⟩⟩
  exhausted := ⟨_, .error _, False.elim⟩
  bind := persisting_bind
  taken token _ _ _ persists := by
    obtain ⟨longer, related, persists⟩ := persists
    exact ⟨longer, related, fun decided => ⟨List.cons_ne_nil token _, (persists decided).2⟩⟩
  ended _ _ _ persists := by
    obtain ⟨longer, related, persists⟩ := persists
    exact ⟨longer, related, fun decided => absurd rfl (persists decided).1⟩
  expected what tokens _ meets := by
    rw [meets]
    exact persisting_expected endLine otherLine what tokens
  missingOperand _ _ := ⟨_, .error _, fun final => nomatch final⟩
  invalidSign meets _ _ := by
    cases meets
    exact ⟨_, .error _, fun _ => ⟨List.cons_ne_nil _ _, rfl⟩⟩

theorem program_persists (tokens more : List Token) :
    HoldsBehind (Persisting (more.filter Token.isSignificant)) (SameExprs id) (Cursor.ofTokens tokens).tokens
      (statements (Cursor.ofTokens tokens).endLine (Cursor.ofTokens tokens).fuel (Cursor.ofTokens tokens).tokens)
      (statements (Cursor.ofTokens (tokens ++ more)).endLine (Cursor.ofTokens (tokens ++ more)).fuel
        (Cursor.ofTokens (tokens ++ more)).tokens) := by
  have joined : (Cursor.ofTokens (tokens ++ more)).tokens =
      (Cursor.ofTokens tokens).tokens ++ more.filter Token.isSignificant := List.filter_append tokens more
  have enough : (Cursor.ofTokens tokens).fuel ≤ (Cursor.ofTokens (tokens ++ more)).fuel := by
    simp only [Cursor.fuel, joined, List.length_append]
    omega
  exact (rules_compare (persisting_compares _ _ _) enough).statements joined

end Grammar

open Grammar

/-- Further tokens do not mend a text that is refused for a token in it: they leave the error and its line as they
are, whatever the kinds and the texts of the tokens. -/
theorem first_syntax_error_final (tokens more : List Token) (error : SyntacticError)
    (final : error.cause.isFinal = true) (failed : Program.ofTokens tokens = .error error) :
    Program.ofTokens (tokens ++ more) = .error error := by
  have persists := program_persists tokens more
  apply (program_error_iff (tokens ++ more) error).mpr
  rcases (program_error_iff tokens error).mp failed with stopped | ⟨read, token, rest, answer, rfl⟩
  · rw [stopped] at persists
    obtain ⟨longer, related, persists⟩ := persists
    cases related with
    | error stop => exact .inl (persists final).2
  · rw [answer] at persists
    obtain ⟨longer, related, persists⟩ := persists
    cases related with
    | @ok _ other same behind =>
        obtain ⟨others, left⟩ := other
        obtain rfl : left = token :: rest ++ more.filter Token.isSignificant := behind
        exact .inr ⟨others, token, _, (persists (List.cons_ne_nil token rest)).2, rfl⟩

theorem errors_at_tokens_final :
    Program.ofTokens ([⟨⟨.identifier, "f"⟩, 1⟩, ⟨⟨.separator, "("⟩, 1⟩, ⟨⟨.literal, "1"⟩, 2⟩,
        ⟨⟨.literal, "2"⟩, 3⟩] ++ [⟨⟨.separator, ")"⟩, 3⟩]) =
      .error ⟨3, .expected (.lexeme ",") (some ⟨.literal, "2"⟩)⟩ ∧
    Program.ofTokens ([⟨⟨.operator, "let"⟩, 4⟩] ++ [⟨⟨.identifier, "a"⟩, 5⟩]) =
      .error ⟨4, .invalidUnaryOperator "let"⟩ ∧
    Program.ofTokens ([⟨⟨.separator, ")"⟩, 6⟩] ++ [⟨⟨.separator, "("⟩, 7⟩]) =
      .error ⟨6, .trailingInput ⟨.separator, ")"⟩⟩ :=
  ⟨first_syntax_error_final _ _ _ rfl rfl, first_syntax_error_final _ _ _ rfl rfl,
    first_syntax_error_final _ _ _ rfl rfl⟩

end Scriptlet
