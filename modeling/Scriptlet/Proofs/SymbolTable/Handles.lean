import Scriptlet.Proofs.SymbolTable.Stack

/-!
How long a handle refers to its variable.

A variable is known by its name and by the scope that declares it, and a scope by its level: the number of
scopes that are open when it is the innermost one. `after_bound` is what one operation does to the cell of a
variable whose scope stays open, and `run_bound` follows the cell through any number of operations.
-/

set_option autoImplicit false

namespace Scriptlet

inductive HandleOperation where
  | enter
  | leave
  | declare (name : String) (value : Value)
  | lookup (name : String)
  | get (handle : Handle)
  | set (handle : Handle) (value : Value)

namespace SymbolTable

def after (table : SymbolTable) : HandleOperation → SymbolTable
  | .enter => table.enter
  | .leave => (table.leave?.map Prod.snd).getD table
  | .declare name value => ((table.declare name value).map Prod.snd).getD table
  | .lookup _ | .get _ => table
  | .set handle value => (table.set? handle value).getD table

def run (table : SymbolTable) (operations : List HandleOperation) : SymbolTable :=
  operations.foldl after table

-- The level of the innermost scope that declares the name.
def home (name : String) : List Scope → Option Nat
  | [] => none
  | scope :: outer => if (scope.find? name).isSome then some (outer.length + 1) else home name outer

def cellAt (level : Nat) (name : String) : List Scope → Option Handle
  | [] => none
  | scope :: outer => if level = outer.length + 1 then scope.find? name else cellAt level name outer

inductive Obtained (table : SymbolTable) (name : String) : Nat → Handle → SymbolTable → Prop where
  | declared {handle : Handle} {later : SymbolTable} (value : Value)
      (done : table.declare name value = some (handle, later)) :
      Obtained table name table.depth handle later
  | found {level : Nat} {handle : Handle} (found : table.lookup name = some handle)
      (declares : home name table.scopes = some level) : Obtained table name level handle table

def StaysOpen (level : Nat) : SymbolTable → List HandleOperation → Prop
  | table, [] => level ≤ table.depth
  | table, operation :: others => level ≤ table.depth ∧ StaysOpen level (table.after operation) others

def decideStaysOpen (level : Nat) : (table : SymbolTable) → (operations : List HandleOperation) →
    Decidable (StaysOpen level table operations)
  | table, [] => inferInstanceAs (Decidable (level ≤ table.depth))
  | table, operation :: others =>
      have := decideStaysOpen level (table.after operation) others
      inferInstanceAs (Decidable (level ≤ table.depth ∧ StaysOpen level (table.after operation) others))

instance (level : Nat) (table : SymbolTable) (operations : List HandleOperation) :
    Decidable (StaysOpen level table operations) := decideStaysOpen level table operations

-- The value of a variable behind an operation. It is written through its handle, and by a declaration of
-- its name while its scope is the innermost one.
def written (level : Nat) (name : String) (handle : Handle) (table : SymbolTable) (value : Value) :
    HandleOperation → Value
  | .set other new => if other = handle then new else value
  | .declare other new => if other = name ∧ table.depth = level then new else value
  | _ => value

def lastWritten (level : Nat) (name : String) (handle : Handle) :
    SymbolTable → Value → List HandleOperation → Value
  | _, value, [] => value
  | table, value, operation :: others =>
      lastWritten level name handle (table.after operation)
        (written level name handle table value operation) others

section Scopes

variable {names : List String} {scopes : List Scope} {level : Nat} {name : String} {handle : Handle}

theorem cell_at_level (found : cellAt level name scopes = some handle) : level ≤ scopes.length := by
  induction scopes with
  | nil => cases found
  | cons scope outer ih =>
      rw [cellAt] at found
      by_cases here : level = outer.length + 1
      · exact Nat.le_of_eq here
      · rw [if_neg here] at found
        exact Nat.le_succ_of_le (ih found)

theorem cell_at_named (rooted : Rooted names scopes) (found : cellAt level name scopes = some handle) :
    names[handle]? = some name := by
  induction scopes generalizing names with
  | nil => cases found
  | cons scope outer ih =>
      rw [cellAt] at found
      by_cases here : level = outer.length + 1
      · rw [if_pos here] at found
        exact (found_cell rooted found).2
      · rw [if_neg here] at found
        have below := ih rooted.2.2.2 found
        rw [List.getElem?_take] at below
        by_cases inside : handle < scope.base
        · rwa [if_pos inside] at below
        · rw [if_neg inside] at below
          cases below

theorem cell_at_below {scope : Scope} {outer : List Scope} (rooted : Rooted names (scope :: outer))
    (found : cellAt level name outer = some handle) : handle < scope.base := by
  have named := cell_at_named rooted.2.2.2 found
  have inside := (List.getElem?_eq_some_iff.mp named).1
  exact Nat.lt_of_lt_of_le inside (List.length_take_le _ _)

theorem cell_at_outer {scope : Scope} {outer : List Scope} (around : level ≤ outer.length) :
    cellAt level name (scope :: outer) = cellAt level name outer := by
  have different : level ≠ outer.length + 1 := by omega
  rw [cellAt, if_neg different]

theorem cell_at_unique {other : Nat} {another : String} (rooted : Rooted names scopes)
    (found : cellAt level name scopes = some handle)
    (second : cellAt other another scopes = some handle) : other = level ∧ another = name := by
  have named := cell_at_named rooted found
  rw [cell_at_named rooted second] at named
  refine ⟨?_, Option.some.inj named⟩
  clear named
  induction scopes generalizing names with
  | nil => cases found
  | cons scope outer ih =>
      rw [cellAt] at found second
      by_cases here : level = outer.length + 1
      · by_cases there : other = outer.length + 1
        · exact there.trans here.symm
        · rw [if_pos here] at found
          rw [if_neg there] at second
          exact absurd (found_cell rooted found).1 (Nat.not_le_of_lt (cell_at_below rooted second))
      · rw [if_neg here] at found
        by_cases there : other = outer.length + 1
        · rw [if_pos there] at second
          exact absurd (found_cell rooted second).1 (Nat.not_le_of_lt (cell_at_below rooted found))
        · rw [if_neg there] at second
          exact ih rooted.2.2.2 found second

theorem cell_at_home (declares : home name scopes = some level)
    (found : (scopes.findSome? fun scope => scope.find? name) = some handle) :
    cellAt level name scopes = some handle := by
  induction scopes with
  | nil => cases found
  | cons scope outer ih =>
      rw [home] at declares
      rw [List.findSome?_cons] at found
      cases here : scope.find? name with
      | some known =>
          rw [here] at declares found
          cases declares
          rw [cellAt, if_pos rfl, here]
          exact found
      | none =>
          rw [here] at declares found
          have outside := ih declares found
          rw [cell_at_outer (cell_at_level outside)]
          exact outside

end Scopes

section Validity

variable {table : SymbolTable}

theorem after_valid (operation : HandleOperation) (valid : table.Valid) : (table.after operation).Valid := by
  cases operation with
  | enter => exact enter_valid table valid
  | leave =>
      rw [after]
      cases left : table.leave? with
      | none => exact valid
      | some answer => exact leave_valid table answer.2 answer.1 valid left
  | declare other value =>
      rw [after]
      cases done : table.declare other value with
      | none => exact valid
      | some answer => exact declare_valid table answer.2 other value answer.1 valid done
  | lookup other => exact valid
  | get other => exact valid
  | set other value =>
      rw [after, set?]
      by_cases inside : other < table.cells.length
      · rw [if_pos inside]
        exact assign_valid table other value valid
      · rw [if_neg inside]
        exact valid

theorem run_valid (operations : List HandleOperation) (valid : table.Valid) :
    (table.run operations).Valid := by
  induction operations generalizing table with
  | nil => exact valid
  | cons operation others ih => exact ih (after_valid operation valid)

end Validity

structure Bound (table : SymbolTable) (level : Nat) (name : String) (handle : Handle) (value : Value) :
    Prop where
  valid : table.Valid
  cell : cellAt level name table.scopes = some handle
  value : table.get? handle = some value

section Operations

variable {table : SymbolTable} {level : Nat} {name : String} {handle : Handle} {value : Value}

theorem bound_inside (bound : table.Bound level name handle value) : handle < table.cells.length := by
  have named := cell_at_named bound.valid bound.cell
  exact table.cell_names_length ▸ (List.getElem?_eq_some_iff.mp named).1

theorem bound_enter (bound : table.Bound level name handle value) :
    table.enter.Bound level name handle value where
  valid := enter_valid table bound.valid
  cell := (cell_at_outer (cell_at_level bound.cell)).trans bound.cell
  value := bound.value

theorem bound_leave (bound : table.Bound level name handle value)
    (opened : level ≤ (table.after .leave).depth) : (table.after .leave).Bound level name handle value := by
  rw [after] at opened ⊢
  cases left : table.leave? with
  | none => exact bound
  | some answer =>
      have valid := leave_valid table answer.2 answer.1 bound.valid left
      obtain ⟨scope, outer, scopes, same, -⟩ := leave_eq_some table answer.2 answer.1 left
      rw [left] at opened
      simp only [Option.map_some, Option.getD_some, same] at opened valid ⊢
      have cell := bound.cell
      have rooted := bound.valid
      rw [scopes, cell_at_outer opened] at cell
      rw [Valid, scopes] at rooted
      -- The variable belongs to a scope that stays, so the cells that go are behind it.
      have below : handle < scope.base := cell_at_below rooted cell
      refine ⟨valid, cell, ?_⟩
      rw [← bound.value, get?, get?, List.getElem?_take_of_lt below]

theorem bound_assign (other : Handle) (new : Value) (bound : table.Bound level name handle value) :
    (table.assign other new).Bound level name handle (if other = handle then new else value) := by
  refine ⟨assign_valid table other new bound.valid, bound.cell, ?_⟩
  by_cases same : other = handle
  · rw [if_pos same, same, assign_get table handle new (bound_inside bound)]
  · rw [if_neg same, assign_get_other table other handle new (Ne.symm same), bound.value]

theorem bound_set (other : Handle) (new : Value) (bound : table.Bound level name handle value) :
    (table.after (.set other new)).Bound level name handle (if other = handle then new else value) := by
  rw [after, set?]
  by_cases inside : other < table.cells.length
  · rw [if_pos inside]
    exact bound_assign other new bound
  · have different : other ≠ handle := fun same => inside (same ▸ bound_inside bound)
    rw [if_neg inside, if_neg different]
    exact bound

theorem cell_at_innermost {scope : Scope} {outer : List Scope} (scopes : table.scopes = scope :: outer)
    (other : String) : cellAt table.depth other table.scopes = scope.find? other := by
  rw [depth, scopes, cellAt, if_pos List.length_cons]

theorem bound_overwrite {scope : Scope} {outer : List Scope} {other : String} {given : Handle}
    (new : Value) (bound : table.Bound level name handle value) (scopes : table.scopes = scope :: outer)
    (found : scope.find? other = some given) :
    (table.assign given new).Bound level name handle
      (if other = name ∧ table.depth = level then new else value) := by
  have innermost := (cell_at_innermost scopes other).trans found
  have overwritten := bound_assign given new bound
  by_cases same : other = name ∧ table.depth = level
  · obtain ⟨rfl, rfl⟩ := same
    have cells : given = handle := Option.some.inj (innermost.symm.trans bound.cell)
    rw [if_pos cells] at overwritten
    rw [if_pos ⟨rfl, rfl⟩]
    exact overwritten
  · have different : given ≠ handle := by
      intro cells
      rw [cells] at innermost
      obtain ⟨levels, names⟩ := cell_at_unique bound.valid bound.cell innermost
      exact same ⟨names, levels⟩
    rw [if_neg different] at overwritten
    rw [if_neg same]
    exact overwritten

theorem bound_new {scope : Scope} {outer : List Scope} {other : String} (new : Value)
    (bound : table.Bound level name handle value) (scopes : table.scopes = scope :: outer)
    (absent : scope.find? other = none) {later : SymbolTable} (valid : later.Valid)
    (grown : later = ⟨table.cells ++ [⟨other, new⟩],
      { scope with names := (other, table.cells.length) :: scope.names } :: outer⟩) :
    later.Bound level name handle (if other = name ∧ table.depth = level then new else value) := by
  have innermost := (cell_at_innermost scopes other).trans absent
  have cell := bound.cell
  have fresh : ¬ (other = name ∧ table.depth = level) := by
    intro same
    rw [same.1, same.2, cell] at innermost
    cases innermost
  have inside : handle < table.cellNames.length := table.cell_names_length ▸ bound_inside bound
  rw [if_neg fresh]
  subst grown
  refine ⟨valid, ?_, (append_get table _ _ handle inside).symm.trans bound.value⟩
  rw [scopes, cellAt] at cell
  rw [cellAt]
  by_cases here : level = outer.length + 1
  · have different : name ≠ other := fun same =>
      fresh ⟨same.symm, by rw [depth, scopes, here, List.length_cons]⟩
    rw [if_pos here] at cell ⊢
    rw [Scope.find?, List.lookup_cons, beq_false_of_ne different]
    exact cell
  · rw [if_neg here] at cell ⊢
    exact cell

theorem bound_declare (other : String) (new : Value) (bound : table.Bound level name handle value) :
    (table.after (.declare other new)).Bound level name handle
      (if other = name ∧ table.depth = level then new else value) := by
  have opened : table.scopes ≠ [] := by
    intro closed
    have cell := bound.cell
    rw [closed] at cell
    cases cell
  obtain ⟨given, later, done⟩ := declare_opened table other new opened
  have valid := declare_valid table later other new given bound.valid done
  obtain ⟨scope, outer, scopes, cases⟩ := declare_eq_some table later other new given done
  rw [after, done]
  rcases cases with ⟨found, rfl⟩ | ⟨absent, rfl, grown⟩
  · exact bound_overwrite new bound scopes found
  · exact bound_new new bound scopes absent valid grown

theorem after_bound (operation : HandleOperation) (bound : table.Bound level name handle value)
    (opened : level ≤ (table.after operation).depth) :
    (table.after operation).Bound level name handle (written level name handle table value operation) := by
  cases operation with
  | enter => exact bound_enter bound
  | leave => exact bound_leave bound opened
  | declare other new => exact bound_declare other new bound
  | lookup other => exact bound
  | get other => exact bound
  | set other new => exact bound_set other new bound

theorem stays_open_first {operations : List HandleOperation} (opened : StaysOpen level table operations) :
    level ≤ table.depth := by
  cases operations with
  | nil => exact opened
  | cons operation others => exact opened.1

theorem run_bound (operations : List HandleOperation) (bound : table.Bound level name handle value)
    (opened : StaysOpen level table operations) :
    (table.run operations).Bound level name handle
      (lastWritten level name handle table value operations) := by
  induction operations generalizing table value with
  | nil => exact bound
  | cons operation others ih =>
      exact ih (after_bound operation bound (stays_open_first opened.2)) opened.2

theorem obtained_cell {later : SymbolTable} (valid : table.Valid)
    (obtained : Obtained table name level handle later) :
    later.Valid ∧ cellAt level name later.scopes = some handle := by
  cases obtained with
  | declared value done =>
      refine ⟨declare_valid table later name value handle valid done, ?_⟩
      obtain ⟨scope, outer, scopes, cases⟩ := declare_eq_some table later name value handle done
      rcases cases with ⟨found, rfl⟩ | ⟨-, rfl, rfl⟩
      · exact (cell_at_innermost scopes name).trans found
      · rw [depth, scopes, cellAt, if_pos List.length_cons, Scope.find?, List.lookup_cons_self]
  | found found declares => exact ⟨valid, cell_at_home declares found⟩

theorem obtained_apart {other : String} {another : Nat} {second : Handle} {later : SymbolTable}
    (bound : table.Bound level name handle value) (obtained : Obtained table other another second later)
    (different : (other, another) ≠ (name, level)) : second ≠ handle := by
  obtain ⟨valid, cell⟩ := obtained_cell bound.valid obtained
  have still : cellAt level name later.scopes = some handle := by
    cases obtained with
    | declared new done =>
        have kept := (bound_declare other new bound).cell
        rwa [after, done] at kept
    | found found declares => exact bound.cell
  rintro rfl
  obtain ⟨levels, names⟩ := cell_at_unique valid still cell
  exact different (by rw [levels, names])

theorem declare_get {later : SymbolTable} (valid : table.Valid)
    (done : table.declare name value = some (handle, later)) : later.get? handle = some value := by
  obtain ⟨scope, outer, scopes, cases⟩ := declare_eq_some table later name value handle done
  rcases cases with ⟨found, rfl⟩ | ⟨-, rfl, rfl⟩
  · rw [Valid, scopes] at valid
    exact assign_get table handle value (table.cell_names_length ▸ found_in_range valid found)
  · simp [get?]

end Operations

end SymbolTable

open SymbolTable

/-- While the scope of a variable stays open, its handle gives the value that was written to it last, and no
other variable is given the same handle. -/
theorem handle_stays_bound (past : List HandleOperation) (name : String) (level : Nat) (handle : Handle)
    (table : SymbolTable) (obtained : Obtained (run {} past) name level handle table) :
    ∃ first, table.get? handle = some first ∧
      (∀ value, (run {} past).declare name value = some (handle, table) → first = value) ∧
      ∀ operations, StaysOpen level table operations →
        (table.run operations).get? handle =
            some (lastWritten level name handle table first operations) ∧
          ∀ other another second later, Obtained (table.run operations) other another second later →
            (other, another) ≠ (name, level) → second ≠ handle := by
  have before : (run {} past).Valid := run_valid past empty_valid
  obtain ⟨valid, cell⟩ := obtained_cell before obtained
  have inside : handle < table.cellNames.length :=
    (List.getElem?_eq_some_iff.mp (cell_at_named valid cell)).1
  obtain ⟨first, held⟩ := Option.isSome_iff_exists.mp (cells_live table handle inside)
  refine ⟨first, held, fun value done => ?_, fun operations opened => ?_⟩
  · have stored := declare_get before done
    rw [held] at stored
    exact Option.some.inj stored
  · have bound := run_bound operations ⟨valid, cell, held⟩ opened
    exact ⟨bound.value, fun other another second later next different =>
      obtained_apart bound next different⟩

def twoVariables : SymbolTable := run {} [.enter, .declare "w" .none, .declare "x" (.boolean true)]

def shadowingOperations : List HandleOperation :=
  [.enter, .declare "x" (.boolean false), .set 1 (.string "kept"), .lookup "x", .leave, .enter]

theorem shadowed_handle_bound :
    Obtained (run {} [.enter, .declare "w" .none]) "x" 1 1 twoVariables ∧
      StaysOpen 1 twoVariables shadowingOperations ∧
      (twoVariables.run shadowingOperations).get? 1 = some (.string "kept") ∧
      Obtained (twoVariables.run shadowingOperations) "x" 2 2
        (twoVariables.run (shadowingOperations ++ [.declare "x" .none])) ∧ 2 ≠ 1 := by
  have obtained : Obtained (run {} [.enter, .declare "w" .none]) "x" 1 1 twoVariables :=
    .declared (.boolean true) rfl
  have opened : StaysOpen 1 twoVariables shadowingOperations := by decide
  have shadows : Obtained (twoVariables.run shadowingOperations) "x" 2 2
      (twoVariables.run (shadowingOperations ++ [.declare "x" .none])) := .declared .none rfl
  obtain ⟨first, -, -, follows⟩ :=
    handle_stays_bound [.enter, .declare "w" .none] "x" 1 1 twoVariables obtained
  obtain ⟨held, apart⟩ := follows shadowingOperations opened
  exact ⟨obtained, opened, held, shadows, apart "x" 2 2 _ shadows (by decide)⟩

end Scriptlet
