import Scriptlet.Analysis
import Scriptlet.Proofs.Evaluation.Outcome
import Scriptlet.Proofs.Evaluation.ValueFault

set_option autoImplicit false

namespace Scriptlet

open Eval

section Values

variable {left right operand value : Value} {operator text : String}

theorem on_numbers_returns {α : Type} {operation : Float → Float → Except RuntimeFault α} {wrap : α → Value}
    {kind : ValueKind} (same : ∀ result, (wrap result).kind = kind)
    (returned : (do let (x, y) ← numbers left right
                    return wrap (← operation x y)) = .ok value) : value.kind = kind := by
  obtain ⟨⟨x, y⟩, -, returned⟩ := except_bind_ok returned
  obtain ⟨result, -, ⟨⟩⟩ := except_bind_ok returned
  exact same result

theorem on_booleans_returns {operation : Bool → Bool → Bool}
    (returned : (do let (a, b) ← booleans left right
                    return Value.boolean (operation a b)) = .ok value) : value.kind = .boolean := by
  obtain ⟨operands, -, ⟨⟩⟩ := except_bind_ok returned
  rfl

def resultKind (operator : String) : ValueKind := if operator ∈ booleanOperators then .boolean else .number

theorem binary_returns (returned : applyBinary operator left right = .ok value) :
    value.kind = resultKind operator := by
  unfold applyBinary at returned
  split at returned
  · exact on_numbers_returns (fun _ => rfl) returned
  · exact on_numbers_returns (fun _ => rfl) returned
  · exact on_numbers_returns (fun _ => rfl) returned
  · exact on_numbers_returns (fun _ => rfl) returned
  · exact on_numbers_returns (fun _ => rfl) returned
  · exact on_numbers_returns (fun _ => rfl) returned
  · exact on_numbers_returns (fun _ => rfl) returned
  · exact on_numbers_returns (fun _ => rfl) returned
  · exact on_numbers_returns (fun _ => rfl) returned
  · cases returned
    rfl
  · cases returned
    rfl
  · exact on_booleans_returns returned
  · exact on_booleans_returns returned
  · cases returned

theorem unary_returns (returned : applyUnary operator operand = .ok value) :
    value.kind = resultKind operator := by
  unfold applyUnary at returned
  split at returned
  · cases number : operand.asNumber <;> rw [number] at returned <;> cases returned
    rfl
  · cases number : operand.asNumber <;> rw [number] at returned <;> cases returned
    rfl
  · cases boolean : operand.asBoolean <;> rw [boolean] at returned <;> cases returned
    rfl
  · cases returned

theorem literal_returns (notTrue : text ≠ "true") (notFalse : text ≠ "false")
    (returned : Value.ofLiteral text = .ok value) : value.kind ≠ .boolean := by
  unfold Value.ofLiteral at returned
  rw [if_neg notTrue, if_neg notFalse] at returned
  split at returned
  · cases returned
    nofun
  split at returned
  · cases returned
    nofun
  split at returned
  · cases returned
    nofun
  · cases returned

theorem not_boolean_of_operator (other : operator ∉ booleanOperators) (kind : value.kind = resultKind operator) :
    value.kind ≠ .boolean := by
  rw [kind, resultKind, if_neg other]
  nofun

theorem as_boolean_fails (other : value.kind ≠ .boolean) {b : Bool} : value.asBoolean ≠ .ok b := by
  intro returned
  cases value <;> cases returned
  exact other rfl

end Values

section Tests

variable {condition : Expr} {context : Context} {line fuel : Nat}

theorem never_boolean_returns (never : condition.isNeverBoolean = true) :
    Returns (fun value => value.kind ≠ .boolean) (condition.eval fuel) context := by
  cases condition with
  | literal line text =>
      simp only [Expr.isNeverBoolean, Bool.and_eq_true, decide_eq_true_eq] at never
      apply returns_behind
      intro _ after
      exact meets_on_line (fun _ => literal_returns never.1 never.2) fun _ _ => trivial
  | binary line operator left right =>
      simp only [Expr.isNeverBoolean, Bool.and_eq_true, decide_eq_true_eq] at never
      apply returns_behind
      intro _ begun
      apply returns_behind
      intro operands after
      dsimp only
      rw [if_neg never.1]
      exact meets_on_line (fun _ returned => not_boolean_of_operator never.2 (binary_returns returned))
        fun _ _ => trivial
  | unary line operator operand =>
      simp only [Expr.isNeverBoolean, decide_eq_true_eq] at never
      apply returns_behind
      intro _ begun
      apply returns_behind
      intro value after
      exact meets_on_line (fun _ returned => not_boolean_of_operator never (unary_returns returned))
        fun _ _ => trivial
  | _ => cases never

theorem as_boolean_never_returns {value : Value} (other : value.kind ≠ .boolean) :
    Returns (fun _ => False) (onLine line value.asBoolean) context :=
  meets_on_line (fun _ => as_boolean_fails other) fun _ _ => trivial

theorem branch_never_returns (thenBranch : Expr) (elseBranch : Option Expr)
    (other : ∀ context, Returns (fun value => value.kind ≠ .boolean) (condition.eval fuel) context) :
    Returns (fun _ => False) ((Expr.branch line condition thenBranch elseBranch).eval fuel) context := by
  simp only [Expr.eval]
  apply returns_behind
  intro _ begun
  apply meets_bind (other begun)
  intro value tested kind
  apply meets_bind (as_boolean_never_returns kind)
  exact fun _ _ => False.elim

theorem loop_never_returns (body : Expr)
    (other : ∀ context, Returns (fun value => value.kind ≠ .boolean) (condition.eval fuel) context) :
    Returns (fun _ => False) ((Expr.loop line condition body).eval fuel) context := by
  have test : ∀ context, Returns (fun _ => False) (do onLine line (← condition.eval fuel).asBoolean) context := by
    intro context
    apply meets_bind (other context)
    exact fun value after kind => as_boolean_never_returns kind
  have loops : ∀ context, Returns (fun _ => False)
      (repeatWhile (do onLine line (← condition.eval fuel).asBoolean) (body.eval fuel) fuel .none) context := by
    intro context
    refine meets_repeat (fun _ => True) (fun _ => False) (fun context _ => ?_) (fun _ => False.elim)
      (fun _ _ => trivial) fuel .none context trivial
    exact meets_mono (test context) (fun _ _ => False.elim) fun _ _ stopped => stopped
  simp only [Expr.eval]
  apply returns_behind
  intro _ begun
  apply meets_bind (loops begun)
  exact fun _ _ => False.elim

end Tests

/-- A condition that the check refuses never has a boolean value, and a branch or a loop with such a condition
never returns. -/
theorem refused_condition_never_holds (condition : Expr) (never : condition.isNeverBoolean = true) (fuel : Nat)
    (context : Context) :
    (∀ b after, condition.eval fuel context ≠ .ok (.boolean b) after) ∧
    (∀ line thenBranch elseBranch value after,
      (Expr.branch line condition thenBranch elseBranch).eval fuel context ≠ .ok value after) ∧
    ∀ line body value after, (Expr.loop line condition body).eval fuel context ≠ .ok value after := by
  have other : ∀ context, Returns (fun value => value.kind ≠ .boolean) (condition.eval fuel) context :=
    fun context => never_boolean_returns never
  refine ⟨fun b after returned => ?_, fun line thenBranch elseBranch value after returned => ?_,
    fun line body value after returned => ?_⟩
  · exact returns_result (other context) returned rfl
  · exact returns_result (branch_never_returns thenBranch elseBranch other) returned
  · exact returns_result (loop_never_returns body other) returned

-- The condition `(x = true) ?? "true"`, whose operator no table has.
def unknownOperation : Expr :=
  .binary 1 "??" (.binary 1 "=" (.identifier 1 "x") (.literal 1 "true")) (.literal 1 "\"true\"")

theorem unknown_operation_never_holds : unknownOperation.isNeverBoolean = true ∧
    ∀ value after, (Expr.loop 1 unknownOperation (.empty 1)).eval 2
      ((Context.enterScope {}).declare "x" .none) ≠ .ok value after :=
  ⟨rfl, (refused_condition_never_holds unknownOperation rfl 2 _).2.2 1 (.empty 1)⟩

end Scriptlet
