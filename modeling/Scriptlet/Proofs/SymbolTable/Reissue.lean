import Mathlib.Data.List.Induction
import Scriptlet.Proofs.SymbolTable.Handles

/-!
What becomes of a handle when the scope of its variable is left.

The cells of a scope go with it (`bound_lost`), so that the handle refers to nothing at first. But later
declarations take the same cells, and a handle does not tell one variable of a cell from the next. This is the
only way in which it comes to refer to something again (`reissued_of_inside`).
-/

set_option autoImplicit false

namespace Scriptlet

namespace SymbolTable

inductive Reissued (level : Nat) (handle : Handle) (table : SymbolTable) :
    List HandleOperation → String → Nat → Prop where
  | mk {before behind : List HandleOperation} {name : String} {value : Value} {later : SymbolTable}
      (left : ¬ StaysOpen level table before)
      (issued : (table.run before).declare name value = some (handle, later))
      (opened : StaysOpen (table.run before).depth later behind) :
      Reissued level handle table (before ++ .declare name value :: behind) name (table.run before).depth

section Steps

variable {table : SymbolTable} {level : Nat} {name : String} {handle : Handle} {value : Value}

theorem after_cases (table : SymbolTable) (operation : HandleOperation) :
    ((table.after operation).cells.length = table.cells.length ∧
        (table.after operation).scopes = table.scopes) ∨
      table.after operation = table.enter ∨
      (∃ scope outer, table.scopes = scope :: outer ∧
        table.after operation = ⟨table.cells.take scope.base, outer⟩) ∨
      ∃ other new, operation = .declare other new ∧
        table.declare other new = some (table.cells.length, table.after operation) ∧
        (table.after operation).cells.length = table.cells.length + 1 ∧
        (table.after operation).depth = table.depth := by
  have assigned : ∀ other new, (table.assign other new).cells.length = table.cells.length := by
    intro other new
    rw [← cell_names_length, assign_cell_names, cell_names_length]
  cases operation with
  | enter => exact .inr (.inl rfl)
  | leave =>
      cases left : table.leave? with
      | none => exact .inl (by simp [after, left])
      | some answer =>
          obtain ⟨scope, outer, scopes, same, -⟩ := leave_eq_some table answer.2 answer.1 left
          refine .inr (.inr (.inl ⟨scope, outer, scopes, ?_⟩))
          rw [after, left, Option.map_some, Option.getD_some, same]
  | declare other new =>
      cases done : table.declare other new with
      | none => exact .inl (by simp [after, done])
      | some answer =>
          obtain ⟨given, later⟩ := answer
          obtain ⟨scope, outer, scopes, cases⟩ := declare_eq_some table later other new given done
          rw [after, done, Option.map_some, Option.getD_some]
          rcases cases with ⟨-, rfl⟩ | ⟨-, rfl, rfl⟩
          · exact .inl ⟨assigned given new, rfl⟩
          · refine .inr (.inr (.inr ⟨other, new, rfl, done, List.length_append, ?_⟩))
            rw [depth, depth, scopes, List.length_cons, List.length_cons]
  | lookup other => exact .inl ⟨rfl, rfl⟩
  | get other => exact .inl ⟨rfl, rfl⟩
  | set other new =>
      rw [after, set?]
      by_cases inside : other < table.cells.length
      · rw [if_pos inside]
        exact .inl ⟨assigned other new, rfl⟩
      · rw [if_neg inside]
        exact .inl ⟨rfl, rfl⟩

theorem bound_lost (operation : HandleOperation) (bound : table.Bound level name handle value)
    (closed : (table.after operation).depth < level) : (table.after operation).cells.length ≤ handle := by
  have opened : level ≤ table.depth := cell_at_level bound.cell
  rcases after_cases table operation with
    ⟨-, same⟩ | entered | ⟨scope, outer, scopes, left⟩ | ⟨other, new, -, -, -, same⟩
  · rw [depth, same] at closed
    exact absurd opened (Nat.not_le_of_lt closed)
  · rw [entered] at closed
    exact absurd (Nat.le_succ_of_le opened) (Nat.not_le_of_lt closed)
  · rw [left] at closed ⊢
    rw [depth, scopes, List.length_cons] at opened
    have innermost : level = outer.length + 1 := Nat.le_antisymm opened closed
    have cell := bound.cell
    have rooted := bound.valid
    rw [scopes, cellAt, if_pos innermost] at cell
    rw [Valid, scopes] at rooted
    exact Nat.le_trans (List.length_take_le _ _) (found_cell rooted cell).1
  · rw [same] at closed
    exact absurd opened (Nat.not_le_of_lt closed)

theorem inside_before (operation : HandleOperation) (inside : handle < (table.after operation).cells.length) :
    handle < table.cells.length ∨
      ∃ other new, operation = .declare other new ∧
        table.declare other new = some (handle, table.after operation) ∧
        (table.after operation).depth = table.depth := by
  rcases after_cases table operation with
    ⟨same, -⟩ | entered | ⟨scope, outer, -, left⟩ | ⟨other, new, declares, done, grown, depths⟩
  · exact .inl (same ▸ inside)
  · rw [entered] at inside
    exact .inl inside
  · rw [left] at inside
    exact .inl (Nat.lt_of_lt_of_le inside (List.length_take_le' _ _))
  · by_cases last : handle = table.cells.length
    · exact .inr ⟨other, new, declares, last ▸ done, depths⟩
    · rw [grown] at inside
      exact .inl (Nat.lt_of_le_of_ne (Nat.le_of_lt_succ inside) last)

end Steps

section Runs

variable {table : SymbolTable} {level another : Nat} {name other : String} {handle : Handle} {value : Value}
  {operations : List HandleOperation}

theorem run_further (front back : List HandleOperation) :
    table.run (front ++ back) = (table.run front).run back := List.foldl_append

theorem run_issued {later : SymbolTable} (before behind : List HandleOperation)
    (issued : (table.run before).declare name value = some (handle, later)) :
    table.run (before ++ .declare name value :: behind) = later.run behind := by
  rw [run_further, run, List.foldl_cons, after, issued]
  rfl

theorem stays_open_further (front back : List HandleOperation) :
    StaysOpen level table (front ++ back) ↔
      StaysOpen level table front ∧ StaysOpen level (table.run front) back := by
  induction front generalizing table with
  | nil => exact ⟨fun opened => ⟨stays_open_first opened, opened⟩, And.right⟩
  | cons operation others ih =>
      rw [List.cons_append, StaysOpen, StaysOpen, and_assoc]
      exact and_congr_right fun _ => ih

theorem stays_open_behind (opened : StaysOpen level table operations) : level ≤ (table.run operations).depth := by
  rw [← List.append_nil operations, stays_open_further] at opened
  exact opened.2

theorem stays_open_last (operation : HandleOperation) :
    StaysOpen level table (operations ++ [operation]) ↔
      StaysOpen level table operations ∧ level ≤ ((table.run operations).after operation).depth := by
  rw [stays_open_further]
  exact and_congr_right fun opened => ⟨And.right, fun still => ⟨stays_open_behind opened, still⟩⟩

theorem obtained_bound {later : SymbolTable} (valid : table.Valid)
    (obtained : Obtained table name level handle later) : ∃ value, later.Bound level name handle value := by
  obtain ⟨still, cell⟩ := obtained_cell valid obtained
  have inside : handle < later.cellNames.length := (List.getElem?_eq_some_iff.mp (cell_at_named still cell)).1
  obtain ⟨value, held⟩ := Option.isSome_iff_exists.mp (cells_live later handle inside)
  exact ⟨value, still, cell, held⟩

theorem reissued_bound (valid : table.Valid) (reissued : Reissued level handle table operations other another) :
    ∃ value, (table.run operations).Bound another other handle value := by
  cases reissued with
  | @mk before behind _ value later left issued opened =>
      obtain ⟨first, given⟩ := obtained_bound (run_valid before valid) (.declared value issued)
      exact ⟨_, run_issued before behind issued ▸ run_bound behind given opened⟩

theorem reissued_last (operation : HandleOperation)
    (reissued : Reissued level handle table operations other another)
    (opened : another ≤ ((table.run operations).after operation).depth) :
    Reissued level handle table (operations ++ [operation]) other another := by
  cases reissued with
  | @mk before behind _ value later left issued stays =>
      rw [run_issued before behind issued] at opened
      rw [List.append_assoc]
      exact .mk left issued ((stays_open_last operation).mpr ⟨stays, opened⟩)

-- The induction is on the operations from the last one back. A handle that refers to a cell behind the last of
-- them did so before, or has just been given out; and it cannot refer to a cell right after its scope is left.
theorem reissued_of_inside (bound : table.Bound level name handle value)
    (left : ¬ StaysOpen level table operations) (inside : handle < (table.run operations).cells.length) :
    ∃ other another, Reissued level handle table operations other another := by
  induction operations using List.reverseRecOn with
  | nil => exact absurd (cell_at_level bound.cell) left
  | append_singleton operations operation ih =>
      rw [run_further] at inside
      by_cases opened : StaysOpen level table operations
      · have closed : ((table.run operations).after operation).depth < level := by
          rw [stays_open_last] at left
          exact Nat.lt_of_not_le fun still => left ⟨opened, still⟩
        have lost := bound_lost operation (run_bound operations bound opened) closed
        exact absurd inside (Nat.not_lt_of_le lost)
      · rcases inside_before operation inside with earlier | ⟨other, new, rfl, issued, depths⟩
        · obtain ⟨other, another, reissued⟩ := ih opened earlier
          obtain ⟨held, current⟩ := reissued_bound bound.valid reissued
          by_cases still : another ≤ ((table.run operations).after operation).depth
          · exact ⟨other, another, reissued_last operation reissued still⟩
          · have lost := bound_lost operation current (Nat.lt_of_not_le still)
            exact absurd inside (Nat.not_lt_of_le lost)
        · exact ⟨other, _, .mk opened issued (Nat.le_of_eq depths.symm)⟩

theorem dead_of_outside (outside : table.cells.length ≤ handle) :
    table.get? handle = none ∧ ∀ value, table.set? handle value = none := by
  refine ⟨?_, fun value => ?_⟩
  · rw [get?, List.getElem?_eq_none outside, Option.map_none]
  · rw [set?, if_neg (Nat.not_lt_of_le outside)]

end Runs

end SymbolTable

open SymbolTable

/-- Once the scope of a variable has been left, its handle gives no value and takes none, whatever happens next,
until a later declaration is given the same handle. As long as the scope of that variable is open, the handle
reads and writes it. -/
theorem left_handle_dead_until_reissued (past : List HandleOperation) (name : String) (level : Nat)
    (handle : Handle) (table : SymbolTable) (obtained : Obtained (run {} past) name level handle table)
    (operations : List HandleOperation) (left : ¬ StaysOpen level table operations) :
    ((∀ other another, ¬ Reissued level handle table operations other another) →
      (table.run operations).get? handle = none ∧
        ∀ value, (table.run operations).set? handle value = none ∧
          table.run (operations ++ [.set handle value]) = table.run operations) ∧
    ∀ other another, Reissued level handle table operations other another →
      cellAt another other (table.run operations).scopes = some handle ∧
        (∃ value, (table.run operations).get? handle = some value) ∧
          ∀ value, (table.run operations).set? handle value = some ((table.run operations).assign handle value) := by
  have before : (run {} past).Valid := run_valid past empty_valid
  obtain ⟨first, bound⟩ := obtained_bound before obtained
  refine ⟨fun unissued => ?_, fun other another reissued => ?_⟩
  · have outside : (table.run operations).cells.length ≤ handle := by
      by_cases inside : handle < (table.run operations).cells.length
      · obtain ⟨other, another, reissued⟩ := reissued_of_inside bound left inside
        exact absurd reissued (unissued other another)
      · exact Nat.le_of_not_lt inside
    obtain ⟨unread, unwritten⟩ := dead_of_outside outside
    refine ⟨unread, fun value => ⟨unwritten value, ?_⟩⟩
    rw [run_further, run, List.foldl_cons, after, unwritten value]
    rfl
  · obtain ⟨value, current⟩ := reissued_bound bound.valid reissued
    refine ⟨current.cell, ⟨value, current.value⟩, fun new => ?_⟩
    rw [set?, if_pos (bound_inside current)]

def reopening : List HandleOperation := [.leave, .enter, .declare "y" (.string "new")]

theorem second_handle_dead :
    Obtained (run {} [.enter, .declare "w" .none]) "x" 1 1 twoVariables ∧
      ¬ StaysOpen 1 twoVariables reopening ∧
      (∀ value, (twoVariables.run reopening).set? 1 value = none) ∧
      Reissued 1 1 twoVariables (reopening ++ [.declare "z" .none]) "z" 1 ∧
      cellAt 1 "z" (twoVariables.run (reopening ++ [.declare "z" .none])).scopes = some 1 := by
  have obtained : Obtained (run {} [.enter, .declare "w" .none]) "x" 1 1 twoVariables :=
    .declared (.boolean true) rfl
  have left : ¬ StaysOpen 1 twoVariables reopening := by decide
  have reissued : Reissued 1 1 twoVariables (reopening ++ [.declare "z" .none]) "z" 1 :=
    .mk left rfl (by decide)
  obtain ⟨dead, live⟩ := left_handle_dead_until_reissued _ "x" 1 1 twoVariables obtained reopening left
  have unissued : ∀ other another, ¬ Reissued 1 1 twoVariables reopening other another := by
    intro other another again
    obtain ⟨-, ⟨value, held⟩, -⟩ := live other another again
    cases held
  obtain ⟨-, taken⟩ := left_handle_dead_until_reissued _ "x" 1 1 twoVariables obtained
    (reopening ++ [.declare "z" .none]) (by decide)
  exact ⟨obtained, left, fun value => ((dead unissued).2 value).1, reissued, (taken "z" 1 reissued).1⟩

theorem left_handle_reads_other :
    Obtained (run {} [.enter]) "w" 1 0 (run {} [.enter, .declare "w" .none]) ∧
      ¬ StaysOpen 1 (run {} [.enter, .declare "w" .none]) reopening ∧
      (run {} (.enter :: .declare "w" .none :: reopening)).get? 0 = some (.string "new") ∧
      ∃ later, (run {} (.enter :: .declare "w" .none :: reopening)).set? 0 (.boolean true) = some later ∧
        (later.lookup "y").bind later.get? = some (.boolean true) :=
  ⟨.declared .none rfl, by decide, rfl, _, rfl, rfl⟩

end Scriptlet
