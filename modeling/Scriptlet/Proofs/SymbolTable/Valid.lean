import Scriptlet.SymbolTable

/-!
What every table keeps to: a scope owns the cells from its base up to the base of the next scope, and it
pairs the names of those cells, which are all different, with their indices.
-/

set_option autoImplicit false

namespace Scriptlet

namespace SymbolTable

-- The names are those of the cells that belong to the scopes, in the order of the cells.
def Rooted : List String → List Scope → Prop
  | names, [] => names = []
  | names, scope :: outer =>
      scope.base ≤ names.length ∧
        scope.names.reverse = (names.drop scope.base).zipIdx scope.base ∧
        (names.drop scope.base).Nodup ∧
        Rooted (names.take scope.base) outer

def cellNames (table : SymbolTable) : List String := table.cells.map Variable.name

@[simp] theorem cell_names_length (table : SymbolTable) : table.cellNames.length = table.cells.length :=
  List.length_map _

def Valid (table : SymbolTable) : Prop := Rooted table.cellNames table.scopes

def declared (table : SymbolTable) : List (List String) :=
  table.scopes.map fun scope => scope.names.map Prod.fst

theorem empty_valid : Valid {} := rfl

theorem enter_valid (table : SymbolTable) (valid : table.Valid) : table.enter.Valid := by
  change Rooted table.cellNames (⟨table.cells.length, []⟩ :: table.scopes)
  simp only [Rooted, ← cell_names_length, List.drop_length, List.take_length]
  exact ⟨Nat.le_refl _, rfl, List.nodup_nil, valid⟩

theorem leave_eq_some (table after : SymbolTable) (names : List String)
    (left : table.leave? = some (names, after)) :
    ∃ scope outer, table.scopes = scope :: outer ∧ after = ⟨table.cells.take scope.base, outer⟩ ∧
      names = (table.cells.drop scope.base).map Variable.name := by
  cases scopes : table.scopes with
  | nil =>
      rw [leave?, scopes] at left
      cases left
  | cons scope outer =>
      rw [leave?, scopes] at left
      cases left
      exact ⟨scope, outer, rfl, rfl, rfl⟩

theorem leave_valid (table after : SymbolTable) (names : List String) (valid : table.Valid)
    (left : table.leave? = some (names, after)) : after.Valid := by
  obtain ⟨scope, outer, scopes, rfl, -⟩ := leave_eq_some table after names left
  rw [Valid, scopes] at valid
  simpa [Valid, cellNames, List.map_take] using valid.2.2.2

theorem leave_declared (table after : SymbolTable) (names : List String)
    (left : table.leave? = some (names, after)) : after.declared = table.declared.tail := by
  obtain ⟨scope, outer, scopes, rfl, -⟩ := leave_eq_some table after names left
  simp [declared, scopes]

theorem leave_eq_none (table : SymbolTable) (stays : table.leave? = none) : table.scopes = [] := by
  cases scopes : table.scopes with
  | nil => rfl
  | cons scope outer =>
      rw [leave?, scopes] at stays
      cases stays

theorem leave_closed (table : SymbolTable) (stays : table.leave? = none) : table.declared = [] := by
  rw [declared, leave_eq_none table stays, List.map_nil]

@[simp] theorem assign_cell_names (table : SymbolTable) (handle : Handle) (value : Value) :
    (table.assign handle value).cellNames = table.cellNames := by
  apply List.ext_getElem?
  intro index
  by_cases here : handle = index
  · subst here
    cases cell : table.cells[handle]? <;> simp [assign, cellNames, cell]
  · simp [assign, cellNames, here]

theorem assign_valid (table : SymbolTable) (handle : Handle) (value : Value) (valid : table.Valid) :
    (table.assign handle value).Valid := by
  rw [Valid, assign_cell_names]
  exact valid

theorem find_eq_none (scope : Scope) (name : String) :
    scope.find? name = none ↔ name ∉ scope.names.map Prod.fst := by
  simp only [Scope.find?, List.lookup_eq_none_iff, bne_iff_ne, List.mem_map, not_exists, not_and]
  constructor
  · intro absent pair member same
    exact absent pair member same.symm
  · intro absent pair member same
    exact absent pair member same.symm

theorem mem_of_find (scope : Scope) (name : String) (handle : Handle)
    (found : scope.find? name = some handle) : (name, handle) ∈ scope.names := by
  obtain ⟨before, after, names, -⟩ := List.lookup_eq_some_iff.mp found
  rw [names]
  exact List.mem_append_right _ List.mem_cons_self

theorem declare_eq_some (table after : SymbolTable) (name : String) (value : Value) (handle : Handle)
    (done : table.declare name value = some (handle, after)) :
    ∃ scope outer, table.scopes = scope :: outer ∧
      ((scope.find? name = some handle ∧ after = table.assign handle value) ∨
        (scope.find? name = none ∧ handle = table.cells.length ∧
          after = ⟨table.cells ++ [⟨name, value⟩],
            { scope with names := (name, handle) :: scope.names } :: outer⟩)) := by
  cases scopes : table.scopes with
  | nil =>
      rw [declare, scopes] at done
      cases done
  | cons scope outer =>
      simp only [declare, scopes] at done
      cases found : scope.find? name with
      | some known =>
          rw [found] at done
          cases done
          exact ⟨scope, outer, rfl, .inl ⟨found, rfl⟩⟩
      | none =>
          rw [found] at done
          cases done
          exact ⟨scope, outer, rfl, .inr ⟨found, rfl, rfl⟩⟩

theorem mem_names (scope : Scope) (names : List String) (name : String) (handle : Handle)
    (paired : scope.names.reverse = (names.drop scope.base).zipIdx scope.base) :
    (name, handle) ∈ scope.names ↔ scope.base ≤ handle ∧ names[handle]? = some name := by
  rw [← List.mem_reverse, paired, List.mk_mem_zipIdx_iff_le_and_getElem?_sub, List.getElem?_drop]
  refine and_congr_right fun inside => ?_
  rw [Nat.add_sub_cancel' inside]

theorem rooted_grow (names gained : List String) (scope : Scope) (outer : List Scope)
    (rooted : Rooted names (scope :: outer)) (distinct : gained.Nodup)
    (fresh : ∀ name ∈ gained, scope.find? name = none) :
    Rooted (names ++ gained)
      ({ scope with names := (gained.zipIdx names.length).reverse ++ scope.names } :: outer) := by
  obtain ⟨base, paired, known, outside⟩ := rooted
  simp only [Rooted, List.drop_append_of_le_length base, List.take_append_of_le_length base]
  refine ⟨by rw [List.length_append]; omega, ?_, ?_, outside⟩
  · have last : scope.base + (names.length - scope.base) = names.length := by omega
    rw [List.reverse_append, List.reverse_reverse, paired, List.zipIdx_append, List.length_drop, last]
  · refine List.nodup_append.mpr ⟨known, distinct, ?_⟩
    rintro name inScope _ inGained rfl
    obtain ⟨index, found⟩ := List.mem_iff_getElem?.mp inScope
    rw [List.getElem?_drop] at found
    have member := (mem_names scope names name (scope.base + index) paired).mpr
      ⟨Nat.le_add_right _ _, found⟩
    exact (find_eq_none scope name).mp (fresh name inGained) (List.mem_map_of_mem member)

theorem declare_valid (table after : SymbolTable) (name : String) (value : Value) (handle : Handle)
    (valid : table.Valid) (done : table.declare name value = some (handle, after)) : after.Valid := by
  obtain ⟨scope, outer, scopes, done⟩ := declare_eq_some table after name value handle done
  rcases done with ⟨-, rfl⟩ | ⟨absent, rfl, rfl⟩
  · exact assign_valid table handle value valid
  · rw [Valid, scopes] at valid
    have grown := rooted_grow table.cellNames [name] scope outer valid (by simp)
      (List.forall_mem_singleton.mpr absent)
    simpa [Valid, cellNames] using grown

theorem declare_declared (table after : SymbolTable) (name : String) (value : Value) (handle : Handle)
    (done : table.declare name value = some (handle, after)) :
    ∃ scope grown outer, table.declared = scope :: outer ∧ after.declared = grown :: outer ∧
      ∀ other, other ∈ grown ↔ other = name ∨ other ∈ scope := by
  obtain ⟨scope, outer, scopes, done⟩ := declare_eq_some table after name value handle done
  refine ⟨scope.names.map Prod.fst, ?_⟩
  rcases done with ⟨found, rfl⟩ | ⟨absent, rfl, rfl⟩
  · have present : name ∈ scope.names.map Prod.fst :=
      List.mem_map_of_mem (mem_of_find scope name handle found)
    refine ⟨_, _, by rw [declared, scopes, List.map_cons], by rw [declared, assign, scopes, List.map_cons],
      fun other => ?_⟩
    constructor
    · exact .inr
    · rintro (rfl | member)
      · exact present
      · exact member
  · refine ⟨name :: scope.names.map Prod.fst, _, by rw [declared, scopes, List.map_cons], rfl, ?_⟩
    exact fun other => List.mem_cons

theorem declare_fresh (table after : SymbolTable) (name : String) (value : Value) (handle : Handle)
    (fresh : table.isDeclaredHere name = false) (done : table.declare name value = some (handle, after)) :
    after.declared = table.declared.modifyHead (name :: ·) := by
  obtain ⟨scope, outer, scopes, done⟩ := declare_eq_some table after name value handle done
  rcases done with ⟨found, rfl⟩ | ⟨absent, rfl, rfl⟩
  · simp only [isDeclaredHere, scopes, found, Option.isSome_some, Bool.true_eq_false] at fresh
  · simp only [declared, scopes, List.map_cons, List.modifyHead_cons]

theorem declare_opened (table : SymbolTable) (name : String) (value : Value)
    (opened : table.scopes ≠ []) : ∃ handle after, table.declare name value = some (handle, after) := by
  obtain ⟨scope, outer, scopes⟩ := List.exists_cons_of_ne_nil opened
  unfold declare
  rw [scopes]
  cases found : scope.find? name <;> simp [found]

theorem declare_closed (table : SymbolTable) (name : String) (value : Value)
    (failed : table.declare name value = none) : table.declared = [] := by
  by_cases closed : table.scopes = []
  · rw [declared, closed, List.map_nil]
  · obtain ⟨handle, after, done⟩ := declare_opened table name value closed
    rw [failed] at done
    cases done

theorem rooted_lookup (names : List String) (scopes : List Scope) (name : String) (handle : Handle)
    (rooted : Rooted names scopes)
    (found : scopes.findSome? (fun scope => scope.find? name) = some handle) :
    names[handle]? = some name := by
  induction scopes generalizing names with
  | nil => cases found
  | cons scope outer ih =>
      obtain ⟨-, paired, -, outside⟩ := rooted
      rw [List.findSome?_cons] at found
      cases here : scope.find? name with
      | some known =>
          rw [here] at found
          cases found
          exact ((mem_names scope names name handle paired).mp (mem_of_find scope name handle here)).2
      | none =>
          rw [here] at found
          have below := ih (names.take scope.base) outside found
          rw [List.getElem?_take] at below
          by_cases inside : handle < scope.base
          · rwa [if_pos inside] at below
          · rw [if_neg inside] at below
            cases below

theorem lookup_cell (table : SymbolTable) (name : String) (handle : Handle) (valid : table.Valid)
    (found : table.lookup name = some handle) :
    ∃ cell, table.cells[handle]? = some cell ∧ cell.name = name := by
  have named := rooted_lookup table.cellNames table.scopes name handle valid found
  rw [cellNames, List.getElem?_map] at named
  exact Option.map_eq_some_iff.mp named

theorem get_of_lookup (table : SymbolTable) (name : String) (handle : Handle) (valid : table.Valid)
    (found : table.lookup name = some handle) : ∃ value, table.get? handle = some value := by
  obtain ⟨cell, held, -⟩ := lookup_cell table name handle valid found
  exact ⟨cell.value, by rw [get?, held, Option.map_some]⟩

theorem set_eq_some (table after : SymbolTable) (handle : Handle) (value : Value)
    (done : table.set? handle value = some after) : after = table.assign handle value := by
  by_cases inside : handle < table.cells.length
  · rw [set?, if_pos inside] at done
    exact (Option.some.inj done).symm
  · rw [set?, if_neg inside] at done
    cases done

theorem set_of_lookup (table : SymbolTable) (name : String) (handle : Handle) (value : Value)
    (valid : table.Valid) (found : table.lookup name = some handle) :
    table.set? handle value = some (table.assign handle value) := by
  obtain ⟨cell, held, -⟩ := lookup_cell table name handle valid found
  have inside : handle < table.cells.length := (List.getElem?_eq_some_iff.mp held).1
  rw [set?, if_pos inside]

theorem lookup_eq_none (table : SymbolTable) (name : String) :
    table.lookup name = none ↔ ∀ scope ∈ table.declared, name ∉ scope := by
  simp only [lookup, List.findSome?_eq_none_iff, find_eq_none, declared, List.forall_mem_map]

theorem lookup_is_some (table : SymbolTable) (name : String) :
    (table.lookup name).isSome = true ↔ ∃ scope ∈ table.declared, name ∈ scope := by
  simp [Option.isSome_iff_ne_none, lookup_eq_none]

theorem declared_here_iff (table : SymbolTable) (name : String) :
    table.isDeclaredHere name = true ↔ ∃ scope ∈ table.declared.head?, name ∈ scope := by
  cases scopes : table.scopes with
  | nil => simp [isDeclaredHere, declared, scopes]
  | cons scope outer => simp [isDeclaredHere, declared, scopes, Option.isSome_iff_ne_none, find_eq_none]

end SymbolTable

end Scriptlet
