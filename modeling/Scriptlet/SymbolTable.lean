import Scriptlet.Value

/-!
Variables in nested scopes. All live variables stand in one row of cells; a scope owns the cells
from its base on and maps names to them.
-/

set_option autoImplicit false

namespace Scriptlet

structure Variable where
  name : String
  value : Value

-- The index of a cell. It is not tied to the scope that declared the variable.
abbrev Handle := Nat

structure Scope where
  base : Nat
  names : List (String × Handle) := []
deriving DecidableEq, Repr

def Scope.find? (scope : Scope) (name : String) : Option Handle := scope.names.lookup name

structure SymbolTable where
  cells : List Variable := []
  scopes : List Scope := []

namespace SymbolTable

def depth (table : SymbolTable) : Nat := table.scopes.length

def enter (table : SymbolTable) : SymbolTable :=
  { table with scopes := ⟨table.cells.length, []⟩ :: table.scopes }

def leave? (table : SymbolTable) : Option (List String × SymbolTable) :=
  match table.scopes with
  | [] => none
  | scope :: outer =>
      some ((table.cells.drop scope.base).map Variable.name, ⟨table.cells.take scope.base, outer⟩)

def assign (table : SymbolTable) (handle : Handle) (value : Value) : SymbolTable :=
  { table with cells := table.cells.modify handle fun cell => { cell with value } }

def declare (table : SymbolTable) (name : String) (value : Value) :
    Option (Handle × SymbolTable) :=
  match table.scopes with
  | [] => none
  | scope :: outer =>
      match scope.find? name with
      | some handle => some (handle, table.assign handle value)
      | none =>
          let handle := table.cells.length
          some (handle, ⟨table.cells ++ [⟨name, value⟩],
            { scope with names := (name, handle) :: scope.names } :: outer⟩)

def lookup (table : SymbolTable) (name : String) : Option Handle :=
  table.scopes.findSome? fun scope => scope.find? name

def isDeclaredHere (table : SymbolTable) (name : String) : Bool :=
  match table.scopes with
  | [] => false
  | scope :: _ => (scope.find? name).isSome

def get? (table : SymbolTable) (handle : Handle) : Option Value :=
  table.cells[handle]?.map Variable.value

def set? (table : SymbolTable) (handle : Handle) (value : Value) : Option SymbolTable :=
  if handle < table.cells.length then some (table.assign handle value) else none

end SymbolTable

end Scriptlet
