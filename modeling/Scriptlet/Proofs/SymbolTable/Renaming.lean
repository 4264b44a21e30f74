import Mathlib.Logic.Function.Basic
import Scriptlet.SymbolTable

set_option autoImplicit false

namespace Scriptlet

def Scope.rename (newName : String → String) (scope : Scope) : Scope :=
  { scope with names := scope.names.map (Prod.map newName id) }

def Variable.rename (newName : String → String) (cell : Variable) : Variable :=
  { cell with name := newName cell.name }

namespace SymbolTable

def rename (newName : String → String) (table : SymbolTable) : SymbolTable :=
  ⟨table.cells.map (Variable.rename newName), table.scopes.map (Scope.rename newName)⟩

variable {newName : String → String}

@[simp] theorem rename_enter (table : SymbolTable) : (table.rename newName).enter = table.enter.rename newName := by
  simp [rename, enter, Scope.rename]

@[simp] theorem rename_leave (table : SymbolTable) :
    (table.rename newName).leave? = table.leave?.map (Prod.map (List.map newName) (rename newName)) := by
  obtain ⟨cells, scopes⟩ := table
  cases scopes with
  | nil => rfl
  | cons scope outer =>
      have names : Variable.name ∘ Variable.rename newName = newName ∘ Variable.name := rfl
      simp [rename, leave?, Scope.rename, names]

theorem rename_assign (table : SymbolTable) (handle : Handle) (value : Value) :
    (table.rename newName).assign handle value = (table.assign handle value).rename newName := by
  simp only [rename, assign, SymbolTable.mk.injEq, and_true]
  apply List.ext_getElem?
  intro index
  simp only [List.getElem?_modify, List.getElem?_map]
  cases table.cells[index]? with
  | none => rfl
  | some cell =>
      by_cases here : handle = index
      · simp only [if_pos here]
        rfl
      · simp only [if_neg here]
        rfl

@[simp] theorem rename_get (table : SymbolTable) (handle : Handle) :
    (table.rename newName).get? handle = table.get? handle := by
  have values : Variable.value ∘ Variable.rename newName = Variable.value := rfl
  simp [rename, get?, values]

theorem rename_set (table : SymbolTable) (handle : Handle) (value : Value) :
    (table.rename newName).set? handle value = (table.set? handle value).map (rename newName) := by
  have cells : (table.rename newName).cells.length = table.cells.length := List.length_map _
  rw [set?, set?, cells, rename_assign]
  by_cases inside : handle < table.cells.length
  · rw [if_pos inside, if_pos inside, Option.map_some]
  · rw [if_neg inside, if_neg inside, Option.map_none]

variable (injective : Function.Injective newName)
include injective

theorem rename_find (scope : Scope) (name : String) :
    (scope.rename newName).find? (newName name) = scope.find? name := by
  obtain ⟨base, names⟩ := scope
  change (names.map (Prod.map newName id)).lookup (newName name) = names.lookup name
  induction names with
  | nil => rfl
  | cons entry names ih =>
      obtain ⟨own, handle⟩ := entry
      have same : (newName name == newName own) = (name == own) := injective.beq_eq
      simp only [List.map_cons, Prod.map_apply, id_eq, List.lookup_cons, ih, same]

theorem rename_lookup (table : SymbolTable) (name : String) :
    (table.rename newName).lookup (newName name) = table.lookup name := by
  simp only [rename, lookup, List.findSome?_map]
  congr 1
  funext scope
  exact rename_find injective scope name

theorem rename_declared_here (table : SymbolTable) (name : String) :
    (table.rename newName).isDeclaredHere (newName name) = table.isDeclaredHere name := by
  obtain ⟨cells, scopes⟩ := table
  cases scopes with
  | nil => rfl
  | cons scope outer => exact congrArg Option.isSome (rename_find injective scope name)

theorem rename_declare (table : SymbolTable) (name : String) (value : Value) :
    (table.rename newName).declare (newName name) value =
      (table.declare name value).map (Prod.map id (rename newName)) := by
  obtain ⟨cells, scopes⟩ := table
  cases scopes with
  | nil => rfl
  | cons scope outer =>
      simp only [rename, declare, List.map_cons, rename_find injective]
      cases scope.find? name with
      | none => simp [rename, Scope.rename, Variable.rename]
      | some handle =>
          have assigned : (rename newName ⟨cells, scope :: outer⟩).assign handle value = _ :=
            rename_assign _ handle value
          exact congrArg (fun later => some (handle, later)) assigned

end SymbolTable

end Scriptlet
