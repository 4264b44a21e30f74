import Scriptlet.Proofs.SymbolTable.Valid

set_option autoImplicit false

namespace Scriptlet

def Scope.extend (scope : Scope) (names : List String) (next : Handle) : Scope :=
  { scope with names := (names.zipIdx next).reverse ++ scope.names }

namespace SymbolTable

structure Gains (names : List String) (before after : SymbolTable) : Prop where
  cells : after.cellNames = before.cellNames ++ names
  scopes : after.scopes = before.scopes.modifyHead fun scope => scope.extend names before.cells.length
  distinct : names.Nodup
  fresh : ∀ name ∈ names, before.isDeclaredHere name = false
  closed : before.scopes = [] → names = []

variable {before middle after : SymbolTable} {names more : List String}

theorem gains_refl (table : SymbolTable) : Gains [] table table where
  cells := (List.append_nil _).symm
  scopes := by cases table.scopes <;> rfl
  distinct := List.nodup_nil
  fresh := by simp
  closed _ := rfl

theorem declared_here_of_scopes (table : SymbolTable) (scope : Scope) (outer : List Scope)
    (scopes : table.scopes = scope :: outer) (name : String) :
    table.isDeclaredHere name = false ↔ name ∉ scope.names.map Prod.fst := by
  rw [isDeclaredHere, scopes, ← find_eq_none scope name]
  exact Option.isSome_eq_false_iff.trans Option.isNone_iff_eq_none

@[simp] theorem extend_names (scope : Scope) (names : List String) (next : Handle) :
    (scope.extend names next).names.map Prod.fst = names.reverse ++ scope.names.map Prod.fst := by
  simp [Scope.extend, List.map_reverse, List.zipIdx_map_fst]

theorem gains_trans (first : Gains names before middle) (second : Gains more middle after) :
    Gains (names ++ more) before after := by
  have cells : after.cellNames = before.cellNames ++ (names ++ more) := by
    rw [second.cells, first.cells, List.append_assoc]
  have length : middle.cells.length = before.cells.length + names.length := by
    rw [← cell_names_length, ← cell_names_length, first.cells, List.length_append]
  cases scopes : before.scopes with
  | nil =>
      have closed : middle.scopes = [] := by rw [first.scopes, scopes]; rfl
      obtain rfl := first.closed scopes
      obtain rfl := second.closed closed
      refine ⟨cells, ?_, List.nodup_nil, by simp, fun _ => rfl⟩
      rw [second.scopes, closed, scopes]
      rfl
  | cons scope outer =>
      have inner : middle.scopes = scope.extend names before.cells.length :: outer := by
        rw [first.scopes, scopes]
        rfl
      have unknown : ∀ name ∈ more, name ∉ names ∧ name ∉ scope.names.map Prod.fst := by
        intro name member
        have absent := (declared_here_of_scopes middle _ outer inner name).mp (second.fresh name member)
        simpa using absent
      refine ⟨cells, ?_, ?_, ?_, fun closed => ?_⟩
      · rw [second.scopes, inner, scopes, length]
        simp [Scope.extend, List.zipIdx_append]
      · refine List.nodup_append.mpr ⟨first.distinct, second.distinct, ?_⟩
        rintro name inFirst _ inSecond rfl
        exact (unknown name inSecond).1 inFirst
      · intro name member
        rcases List.mem_append.mp member with inFirst | inSecond
        · exact first.fresh name inFirst
        · exact (declared_here_of_scopes before scope outer scopes name).mpr (unknown name inSecond).2
      · rw [scopes] at closed
        cases closed

theorem gains_assign (table : SymbolTable) (handle : Handle) (value : Value) :
    Gains [] table (table.assign handle value) :=
  { gains_refl table with cells := by rw [assign_cell_names, List.append_nil] }

theorem gains_declare (table after : SymbolTable) (name : String) (value : Value) (handle : Handle)
    (done : table.declare name value = some (handle, after)) :
    ∃ names, (∀ other ∈ names, other = name) ∧ Gains names table after := by
  obtain ⟨scope, outer, scopes, cases⟩ := declare_eq_some table after name value handle done
  rcases cases with ⟨-, rfl⟩ | ⟨absent, rfl, rfl⟩
  · exact ⟨[], by simp, gains_assign table handle value⟩
  · refine ⟨[name], by simp, ?_, ?_, by simp, ?_, ?_⟩
    · simp [cellNames]
    · rw [scopes]
      rfl
    · refine List.forall_mem_singleton.mpr ((declared_here_of_scopes table scope outer scopes name).mpr ?_)
      exact (find_eq_none scope name).mp absent
    · intro closed
      rw [scopes] at closed
      cases closed

theorem gains_leave (table inner : SymbolTable) (gains : Gains names table.enter inner) :
    ∃ released outer, inner.leave? = some (released, outer) ∧ Gains [] table outer := by
  have scopes : inner.scopes =
      Scope.extend ⟨table.cells.length, []⟩ names table.cells.length :: table.scopes := gains.scopes
  have cells : inner.cellNames = table.cellNames ++ names := gains.cells
  refine ⟨_, _, by rw [leave?, scopes], ?_⟩
  refine { gains_refl table with cells := ?_, scopes := (gains_refl table).scopes }
  have kept : (inner.cellNames.take table.cells.length) = table.cellNames := by
    rw [cells, ← cell_names_length, List.take_left]
  rw [List.append_nil, ← kept, cellNames, cellNames, List.map_take]
  rfl

theorem gains_valid (gains : Gains names before after) (valid : before.Valid) : after.Valid := by
  cases scopes : before.scopes with
  | nil =>
      obtain rfl := gains.closed scopes
      rw [Valid, gains.cells, gains.scopes, scopes, List.append_nil]
      rwa [Valid, scopes] at valid
  | cons scope outer =>
      rw [Valid, scopes] at valid
      rw [Valid, gains.cells, gains.scopes, scopes, List.modifyHead_cons, ← cell_names_length]
      refine rooted_grow before.cellNames names scope outer valid gains.distinct fun name member => ?_
      rw [find_eq_none]
      exact (declared_here_of_scopes before scope outer scopes name).mp (gains.fresh name member)

end SymbolTable

end Scriptlet
