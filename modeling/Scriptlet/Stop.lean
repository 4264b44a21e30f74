set_option autoImplicit false

namespace Scriptlet

inductive Stop (ε : Type) where
  | failed (error : ε)
  | outOfFuel
deriving DecidableEq, Repr

def Stop.settle {ε α : Type} : (answer : Except (Stop ε) α) → answer ≠ .error .outOfFuel → Except ε α
  | .ok a, _ => .ok a
  | .error (.failed error), _ => .error error
  | .error .outOfFuel, enough => absurd rfl enough

theorem settle_eq_ok {ε α : Type} (answer : Except (Stop ε) α)
    (enough : answer ≠ .error .outOfFuel) (a : α) :
    Stop.settle answer enough = .ok a ↔ answer = .ok a := by
  match answer, enough with
  | .ok _, _ => simp [Stop.settle]
  | .error (.failed _), _ => simp [Stop.settle]
  | .error .outOfFuel, enough => exact absurd rfl enough

theorem settle_eq_error {ε α : Type} (answer : Except (Stop ε) α)
    (enough : answer ≠ .error .outOfFuel) (error : ε) :
    Stop.settle answer enough = .error error ↔ answer = .error (.failed error) := by
  match answer, enough with
  | .ok _, _ => simp [Stop.settle]
  | .error (.failed _), _ => simp [Stop.settle]
  | .error .outOfFuel, enough => exact absurd rfl enough

end Scriptlet
