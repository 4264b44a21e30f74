import Mathlib.Logic.Function.Basic
import Scriptlet.Expr
import Scriptlet.Fault
import Scriptlet.Record

set_option autoImplicit false

namespace Scriptlet

mutual

@[simp] def Expr.rename (newName : String → String) : Expr → Expr
  | .block line statements => .block line (renameAll newName statements)
  | .declare line name none => .declare line (newName name) none
  | .declare line name (some initializer) =>
      .declare line (newName name) (some (initializer.rename newName))
  | .branch line condition thenBranch none =>
      .branch line (condition.rename newName) (thenBranch.rename newName) none
  | .branch line condition thenBranch (some elseBranch) =>
      .branch line (condition.rename newName) (thenBranch.rename newName)
        (some (elseBranch.rename newName))
  | .loop line condition body => .loop line (condition.rename newName) (body.rename newName)
  | .binary line operator left right =>
      .binary line operator (left.rename newName) (right.rename newName)
  | .unary line operator operand => .unary line operator (operand.rename newName)
  | .literal line text => .literal line text
  | .identifier line name => .identifier line (newName name)
  | .call line name arguments => .call line name (renameAll newName arguments)
  | .empty line => .empty line

@[simp] def renameAll (newName : String → String) : List Expr → List Expr
  | [] => []
  | first :: others => first.rename newName :: renameAll newName others

end

def Program.rename (newName : String → String) (program : Program) : Program :=
  ⟨renameAll newName program.statements⟩

def SemanticFault.rename (newName : String → String) : SemanticFault → SemanticFault
  | .redeclaration name => .redeclaration (newName name)
  | .undefinedVariable name => .undefinedVariable (newName name)
  | fault => fault

def RuntimeFault.rename (newName : String → String) : RuntimeFault → RuntimeFault
  | .undefinedSymbol name => .undefinedSymbol (newName name)
  | fault => fault

def Located.mapCause {κ : Type} (change : κ → κ) (error : Located κ) : Located κ :=
  ⟨error.line, change error.cause⟩

def Event.rename (newName : String → String) : Event → Event
  | .declaration name value => .declaration (newName name) value
  | .identifier name value => .identifier (newName name) value
  | event => event

def Record.rename (newName : String → String) : Record → Record
  | .released names => .released (names.map newName)
  | .step depth event => .step depth (event.rename newName)
  | entry => entry

-- An answer with its error and the state it leaves renamed.
def echoed {ε σ α : Type} (ofError : ε → ε) (ofState : σ → σ) :
    EStateM.Result ε σ α → EStateM.Result ε σ α
  | .ok result after => .ok result (ofState after)
  | .error error after => .error (ofError error) (ofState after)

def Echoes {ε σ α : Type} (ofError : ε → ε) (ofState : σ → σ) (action other : EStateM ε σ α) : Prop :=
  ∀ state, other (ofState state) = echoed ofError ofState (action state)

section Actions

variable {ε σ α β : Type} {ofError : ε → ε} {ofState : σ → σ}

theorem echoes_pure (result : α) : Echoes ofError ofState (pure result) (pure result) := fun _ => rfl

theorem echoes_modify {change other : σ → σ}
    (commutes : ∀ state, other (ofState state) = ofState (change state)) :
    Echoes ofError ofState (modify change) (modify other) :=
  fun state => congrArg (EStateM.Result.ok PUnit.unit) (commutes state)

theorem echoes_bind {action other : EStateM ε σ α} {next further : α → EStateM ε σ β}
    (begins : Echoes ofError ofState action other)
    (continues : ∀ result, Echoes ofError ofState (next result) (further result)) :
    Echoes ofError ofState (action >>= next) (other >>= further) := by
  intro state
  change EStateM.bind other further (ofState state) = echoed ofError ofState (EStateM.bind action next state)
  rw [EStateM.bind, EStateM.bind, begins state]
  cases action state with
  | ok result after => exact continues result after
  | error error after => rfl

end Actions

end Scriptlet
