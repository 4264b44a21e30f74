import Mathlib.Data.Finmap
import Mathlib.Data.List.Forall2
import Scriptlet.Proofs.SymbolTable.Valid

set_option autoImplicit false

namespace Scriptlet

abbrev Bindings := Finmap fun _ : String => Value

abbrev MapStack := List Bindings

inductive TableOperation where
  | enter
  | leave
  | declare (name : String) (value : Value)
  | read (name : String)
  | write (name : String) (value : Value)
  | isDeclaredHere (name : String)
  | depth

inductive TableAnswer where
  | done
  | declared (succeeded : Bool)
  | read (found : Option (Option Value))
  | written (found : Option Bool)
  | isDeclaredHere (declared : Bool)
  | depth (count : Nat)

def replay {σ : Type} (perform : σ → TableOperation → TableAnswer × σ) :
    List TableOperation → σ → List TableAnswer × σ
  | [], state => ([], state)
  | operation :: others, state =>
      let (answer, next) := perform state operation
      let (answers, last) := replay perform others next
      (answer :: answers, last)

namespace SymbolTable

def perform (table : SymbolTable) : TableOperation → TableAnswer × SymbolTable
  | .enter => (.done, table.enter)
  | .leave =>
      match table.leave? with
      | none => (.done, table)
      | some (_, after) => (.done, after)
  | .declare name value =>
      match table.declare name value with
      | none => (.declared false, table)
      | some (_, after) => (.declared true, after)
  | .read name => (.read ((table.lookup name).map table.get?), table)
  | .write name value =>
      match table.lookup name with
      | none => (.written none, table)
      | some handle =>
          match table.set? handle value with
          | none => (.written (some false), table)
          | some after => (.written (some true), after)
  | .isDeclaredHere name => (.isDeclaredHere (table.isDeclaredHere name), table)
  | .depth => (.depth table.depth, table)

-- Every cell that the operation refers to is there. Leaving a scope refers to all cells from its base on,
-- and a declaration to the cell that its scope has for the name.
def InRange (table : SymbolTable) : TableOperation → Prop
  | .leave => ∀ scope ∈ table.scopes.head?, scope.base ≤ table.cells.length
  | .declare name _ => ∀ scope ∈ table.scopes.head?, ∀ handle ∈ scope.find? name,
      handle < table.cells.length
  | _ => True

end SymbolTable

namespace MapStack

def lookup (stack : MapStack) (name : String) : Option Value :=
  stack.findSome? fun map => map.lookup name

def update (name : String) (value : Value) : MapStack → MapStack
  | [] => []
  | map :: outer =>
      if name ∈ map then map.insert name value :: outer else map :: update name value outer

def perform (stack : MapStack) : TableOperation → TableAnswer × MapStack
  | .enter => (.done, ∅ :: stack)
  | .leave => (.done, stack.tail)
  | .declare name value =>
      match stack with
      | [] => (.declared false, [])
      | map :: outer => (.declared true, map.insert name value :: outer)
  | .read name => (.read ((stack.lookup name).map some), stack)
  | .write name value =>
      match stack.lookup name with
      | none => (.written none, stack)
      | some _ => (.written (some true), stack.update name value)
  | .isDeclaredHere name => (.isDeclaredHere (stack.head?.any fun map => name ∈ map), stack)
  | .depth => (.depth stack.length, stack)

end MapStack

def Holds (cell : Handle → Option Value) (scope : Scope) (map : Bindings) : Prop :=
  ∀ name, map.lookup name = (scope.find? name).bind cell

structure Represents (table : SymbolTable) (stack : MapStack) : Prop where
  valid : table.Valid
  maps : List.Forall₂ (Holds table.get?) table.scopes stack

section Scopes

open SymbolTable

variable {names : List String} {scope : Scope} {scopes outer : List Scope} {stack : MapStack}
  {map : Bindings} {cell later : Handle → Option Value} {name : String} {handle : Handle} {value : Value}

theorem found_cell (rooted : Rooted names (scope :: outer)) (found : scope.find? name = some handle) :
    scope.base ≤ handle ∧ names[handle]? = some name :=
  (mem_names scope names name handle rooted.2.1).mp (mem_of_find scope name handle found)

theorem found_in_range (rooted : Rooted names (scope :: outer)) (found : scope.find? name = some handle) :
    handle < names.length :=
  (List.getElem?_eq_some_iff.mp (found_cell rooted found).2).1

theorem holds_agree (rooted : Rooted names scopes)
    (agree : ∀ handle, handle < names.length → cell handle = later handle)
    (maps : List.Forall₂ (Holds cell) scopes stack) : List.Forall₂ (Holds later) scopes stack := by
  induction maps generalizing names with
  | nil => exact .nil
  | @cons scope map outer inner holds further ih =>
      refine .cons (fun name => ?_) (ih rooted.2.2.2 fun handle inside => agree handle ?_)
      · rw [holds name]
        cases found : scope.find? name with
        | none => rfl
        | some handle => exact agree handle (found_in_range rooted found)
      · exact Nat.lt_of_lt_of_le inside (List.length_take_le' _ _)

theorem holds_mem (rooted : Rooted names (scope :: outer))
    (live : ∀ handle, handle < names.length → (cell handle).isSome) (holds : Holds cell scope map) :
    name ∈ map ↔ (scope.find? name).isSome := by
  rw [← Finmap.lookup_isSome, holds name]
  cases found : scope.find? name with
  | none => rfl
  | some handle => simp [live handle (found_in_range rooted found)]

theorem holds_insert (rooted : Rooted names (scope :: outer)) (holds : Holds cell scope map)
    (found : scope.find? name = some handle) (here : later handle = some value)
    (elsewhere : ∀ other, other ≠ handle → later other = cell other) :
    Holds later scope (map.insert name value) := by
  intro other
  by_cases same : other = name
  · subst same
    rw [Finmap.lookup_insert, found, Option.bind_some, here]
  · rw [Finmap.lookup_insert_of_ne map same, holds other]
    cases known : scope.find? other with
    | none => rfl
    | some index =>
        have different : index ≠ handle := by
          rintro rfl
          have names := (found_cell rooted known).2
          rw [(found_cell rooted found).2] at names
          exact same (Option.some.inj names).symm
        exact (elsewhere index different).symm

theorem holds_new (rooted : Rooted names (scope :: outer)) (holds : Holds cell scope map)
    (here : later handle = some value)
    (kept : ∀ index, index < names.length → cell index = later index) :
    Holds later { scope with names := (name, handle) :: scope.names } (map.insert name value) := by
  intro other
  by_cases same : other = name
  · subst same
    rw [Finmap.lookup_insert]
    simp [Scope.find?, here]
  · have further : Scope.find? { scope with names := (name, handle) :: scope.names } other =
        scope.find? other := by
      rw [Scope.find?, List.lookup_cons, beq_false_of_ne same, Scope.find?]
    rw [Finmap.lookup_insert_of_ne map same, holds other, further]
    cases known : scope.find? other with
    | none => rfl
    | some index => exact kept index (found_in_range rooted known)

theorem holds_overwrite {inner : MapStack} (rooted : Rooted names (scope :: outer))
    (holds : Holds cell scope map) (further : List.Forall₂ (Holds cell) outer inner)
    (found : scope.find? name = some handle) (here : later handle = some value)
    (elsewhere : ∀ other, other ≠ handle → later other = cell other) :
    List.Forall₂ (Holds later) (scope :: outer) (map.insert name value :: inner) := by
  refine .cons (holds_insert rooted holds found here elsewhere) ?_
  refine holds_agree rooted.2.2.2 (fun other inside => (elsewhere other ?_).symm) further
  have below : other < scope.base := Nat.lt_of_lt_of_le inside (List.length_take_le _ _)
  exact Nat.ne_of_lt (Nat.lt_of_lt_of_le below (found_cell rooted found).1)

theorem holds_lookup (rooted : Rooted names scopes)
    (live : ∀ handle, handle < names.length → (cell handle).isSome)
    (maps : List.Forall₂ (Holds cell) scopes stack) :
    stack.lookup name = (scopes.findSome? fun scope => scope.find? name).bind cell := by
  induction maps generalizing names with
  | nil => rfl
  | @cons scope map outer inner holds further ih =>
      rw [MapStack.lookup, List.findSome?_cons, List.findSome?_cons, holds name]
      cases found : scope.find? name with
      | none =>
          exact ih rooted.2.2.2 fun handle inside =>
            live handle (Nat.lt_of_lt_of_le inside (List.length_take_le' _ _))
      | some handle =>
          obtain ⟨value, held⟩ := Option.isSome_iff_exists.mp (live handle (found_in_range rooted found))
          simp [held]

theorem holds_update (rooted : Rooted names scopes)
    (live : ∀ handle, handle < names.length → (cell handle).isSome)
    (maps : List.Forall₂ (Holds cell) scopes stack)
    (found : (scopes.findSome? fun scope => scope.find? name) = some handle)
    (here : later handle = some value) (elsewhere : ∀ other, other ≠ handle → later other = cell other) :
    List.Forall₂ (Holds later) scopes (stack.update name value) := by
  induction maps generalizing names with
  | nil => cases found
  | @cons scope map outer inner holds further ih =>
      have bound : name ∈ map ↔ (scope.find? name).isSome := holds_mem rooted live holds
      rw [List.findSome?_cons] at found
      cases known : scope.find? name with
      | some index =>
          rw [known] at found bound
          cases found
          rw [MapStack.update, if_pos (bound.mpr rfl)]
          exact holds_overwrite rooted holds further known here elsewhere
      | none =>
          rw [known] at found bound
          rw [MapStack.update, if_neg (by simp [bound])]
          refine .cons (fun other => ?_) (ih rooted.2.2.2 (fun other inside => live other ?_) found)
          · rw [holds other]
            cases held : scope.find? other with
            | none => rfl
            | some index =>
                have outside := rooted_lookup _ outer name handle rooted.2.2.2 found
                have below : handle < scope.base := Nat.lt_of_lt_of_le
                  (List.getElem?_eq_some_iff.mp outside).1 (List.length_take_le _ _)
                exact (elsewhere index (Nat.ne_of_gt
                  (Nat.lt_of_lt_of_le below (found_cell rooted held).1))).symm
          · exact Nat.lt_of_lt_of_le inside (List.length_take_le' _ _)

end Scopes

section Operations

variable {table : SymbolTable} {stack : MapStack}

theorem cells_live (table : SymbolTable) (handle : Handle) (inside : handle < table.cellNames.length) :
    (table.get? handle).isSome := by
  rw [SymbolTable.cell_names_length] at inside
  simp [SymbolTable.get?, inside]

theorem assign_get (table : SymbolTable) (handle : Handle) (value : Value)
    (inside : handle < table.cells.length) : (table.assign handle value).get? handle = some value := by
  simp [SymbolTable.get?, SymbolTable.assign, inside]

theorem assign_get_other (table : SymbolTable) (handle other : Handle) (value : Value)
    (different : other ≠ handle) : (table.assign handle value).get? other = table.get? other := by
  simp [SymbolTable.get?, SymbolTable.assign, different.symm]

theorem append_get (table : SymbolTable) (cell : Variable) (scopes : List Scope) (handle : Handle)
    (inside : handle < table.cellNames.length) :
    table.get? handle = (⟨table.cells ++ [cell], scopes⟩ : SymbolTable).get? handle := by
  rw [SymbolTable.cell_names_length] at inside
  simp only [SymbolTable.get?, List.getElem?_append_left inside]

theorem represents_enter (represents : Represents table stack) :
    Represents table.enter (∅ :: stack) where
  valid := table.enter_valid represents.valid
  maps := .cons (fun _ => Finmap.lookup_empty _) represents.maps

theorem represents_leave (represents : Represents table stack) :
    (table.perform .leave).1 = .done ∧ Represents (table.perform .leave).2 stack.tail := by
  obtain ⟨valid, maps⟩ := represents
  unfold SymbolTable.perform
  cases left : table.leave? with
  | none =>
      have closed := table.leave_eq_none left
      rw [closed, List.forall₂_nil_left_iff] at maps
      subst maps
      exact ⟨rfl, valid, closed ▸ .nil⟩
  | some answer =>
      obtain ⟨released, after⟩ := answer
      have valid' := table.leave_valid after released valid left
      obtain ⟨scope, outer, scopes, rfl, -⟩ := table.leave_eq_some after released left
      rw [SymbolTable.Valid, scopes] at valid
      rw [scopes, List.forall₂_cons_left_iff] at maps
      obtain ⟨map, inner, -, further, rfl⟩ := maps
      refine ⟨rfl, valid', holds_agree valid.2.2.2 (fun handle inside => ?_) further⟩
      have below : handle < scope.base := Nat.lt_of_lt_of_le inside (List.length_take_le _ _)
      simp [SymbolTable.get?, below]

theorem represents_declare (name : String) (value : Value) (represents : Represents table stack) :
    (table.perform (.declare name value)).1 = (stack.perform (.declare name value)).1 ∧
      Represents (table.perform (.declare name value)).2 (stack.perform (.declare name value)).2 := by
  obtain ⟨valid, maps⟩ := represents
  by_cases opened : table.scopes = []
  · have refused : table.declare name value = none := by rw [SymbolTable.declare, opened]
    rw [opened, List.forall₂_nil_left_iff] at maps
    subst maps
    rw [SymbolTable.perform, refused]
    exact ⟨rfl, valid, opened ▸ .nil⟩
  · obtain ⟨handle, after, done⟩ := table.declare_opened name value opened
    have valid' := table.declare_valid after name value handle valid done
    obtain ⟨scope, outer, scopes, cases⟩ := table.declare_eq_some after name value handle done
    rw [SymbolTable.Valid, scopes] at valid
    rw [scopes, List.forall₂_cons_left_iff] at maps
    obtain ⟨map, inner, holds, further, rfl⟩ := maps
    rw [SymbolTable.perform, done]
    refine ⟨rfl, valid', ?_⟩
    rcases cases with ⟨found, rfl⟩ | ⟨absent, rfl, rfl⟩
    · have inside : handle < table.cells.length := table.cell_names_length ▸ found_in_range valid found
      rw [SymbolTable.assign, scopes]
      exact holds_overwrite valid holds further found (assign_get table handle value inside)
        (assign_get_other table handle · value)
    · have kept := append_get table ⟨name, value⟩
        ({ scope with names := (name, table.cells.length) :: scope.names } :: outer)
      exact .cons (holds_new valid holds (by simp [SymbolTable.get?]) kept)
        (holds_agree valid.2.2.2 (fun index inside =>
          kept index (Nat.lt_of_lt_of_le inside (List.length_take_le' _ _))) further)

theorem represents_lookup (name : String) (represents : Represents table stack) :
    stack.lookup name = (table.lookup name).bind table.get? :=
  holds_lookup represents.valid (cells_live table) represents.maps

theorem represents_write (name : String) (value : Value) (represents : Represents table stack) :
    (table.perform (.write name value)).1 = (stack.perform (.write name value)).1 ∧
      Represents (table.perform (.write name value)).2 (stack.perform (.write name value)).2 := by
  have bound := represents_lookup name represents
  cases found : table.lookup name with
  | none =>
      rw [found, Option.bind_none] at bound
      rw [SymbolTable.perform, MapStack.perform, found, bound]
      exact ⟨rfl, represents⟩
  | some handle =>
      obtain ⟨before, held⟩ := table.get_of_lookup name handle represents.valid found
      have written := table.set_of_lookup name handle value represents.valid found
      obtain ⟨old, there, -⟩ := table.lookup_cell name handle represents.valid found
      have inside : handle < table.cells.length := (List.getElem?_eq_some_iff.mp there).1
      rw [found, Option.bind_some, held] at bound
      simp only [SymbolTable.perform, MapStack.perform, found, bound, written]
      exact ⟨trivial, table.assign_valid handle value represents.valid,
        holds_update represents.valid (cells_live table) represents.maps found
          (assign_get table handle value inside) (assign_get_other table handle · value)⟩

theorem represents_read (name : String) (represents : Represents table stack) :
    (table.lookup name).map table.get? = (stack.lookup name).map some := by
  rw [represents_lookup name represents]
  cases found : table.lookup name with
  | none => rfl
  | some handle =>
      obtain ⟨value, held⟩ := table.get_of_lookup name handle represents.valid found
      rw [Option.map_some, Option.bind_some, held, Option.map_some]

theorem represents_declared_here (name : String) (represents : Represents table stack) :
    table.isDeclaredHere name = stack.head?.any fun map => name ∈ map := by
  obtain ⟨valid, maps⟩ := represents
  cases scopes : table.scopes with
  | nil =>
      rw [scopes, List.forall₂_nil_left_iff] at maps
      rw [SymbolTable.isDeclaredHere, scopes, maps]
      rfl
  | cons scope outer =>
      rw [SymbolTable.Valid, scopes] at valid
      rw [scopes, List.forall₂_cons_left_iff] at maps
      obtain ⟨map, inner, holds, -, rfl⟩ := maps
      have bound : name ∈ map ↔ (scope.find? name).isSome := holds_mem valid (cells_live table) holds
      simp [SymbolTable.isDeclaredHere, scopes, bound]

theorem represents_in_range (operation : TableOperation) (represents : Represents table stack) :
    table.InRange operation := by
  have valid := represents.valid
  cases operation with
  | leave =>
      intro scope innermost
      obtain ⟨outer, scopes⟩ := List.head?_eq_some_iff.mp innermost
      rw [SymbolTable.Valid, scopes] at valid
      exact table.cell_names_length ▸ valid.1
  | declare name value =>
      intro scope innermost handle found
      obtain ⟨outer, scopes⟩ := List.head?_eq_some_iff.mp innermost
      rw [SymbolTable.Valid, scopes] at valid
      exact table.cell_names_length ▸ found_in_range valid found
  | _ => trivial

theorem perform_represents (operation : TableOperation) (represents : Represents table stack) :
    (table.perform operation).1 = (stack.perform operation).1 ∧
      Represents (table.perform operation).2 (stack.perform operation).2 := by
  cases operation with
  | enter => exact ⟨rfl, represents_enter represents⟩
  | leave => exact represents_leave represents
  | declare name value => exact represents_declare name value represents
  | read name => exact ⟨congrArg TableAnswer.read (represents_read name represents), represents⟩
  | write name value => exact represents_write name value represents
  | isDeclaredHere name =>
      exact ⟨congrArg TableAnswer.isDeclaredHere (represents_declared_here name represents), represents⟩
  | depth => exact ⟨congrArg TableAnswer.depth represents.maps.length_eq, represents⟩

end Operations

theorem history_represents (operations : List TableOperation) (table : SymbolTable) (stack : MapStack)
    (represents : Represents table stack) :
    (replay SymbolTable.perform operations table).1 = (replay MapStack.perform operations stack).1 ∧
      Represents (replay SymbolTable.perform operations table).2
        (replay MapStack.perform operations stack).2 := by
  induction operations generalizing table stack with
  | nil => exact ⟨rfl, represents⟩
  | cons operation others ih =>
      obtain ⟨same, next⟩ := perform_represents operation represents
      obtain ⟨answers, last⟩ := ih _ _ next
      exact ⟨congrArg₂ List.cons same answers, last⟩

theorem empty_represents : Represents {} [] := ⟨SymbolTable.empty_valid, .nil⟩

/-- A table answers every history of operations as a stack of finite maps does, and
whatever operation comes next refers to cells that are there. -/
theorem table_refines_maps (operations : List TableOperation) :
    (replay SymbolTable.perform operations {}).1 = (replay MapStack.perform operations []).1 ∧
      ∀ next, (replay SymbolTable.perform operations {}).2.InRange next := by
  obtain ⟨answers, represents⟩ := history_represents operations {} [] empty_represents
  exact ⟨answers, fun next => represents_in_range next represents⟩

end Scriptlet
