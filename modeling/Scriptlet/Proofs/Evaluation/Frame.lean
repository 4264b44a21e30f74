import Scriptlet.Proofs.Evaluation.Restoration

/-!
What an evaluation leaves as it was.

A cell changes only if an assignment names its variable, or if it belongs to the innermost scope and its name is
declared once more there. `Keeps` is this relation between two tables, and `keeps_trans` is why a sequence of
evaluations has it if each of them has.
-/

set_option autoImplicit false

namespace Scriptlet

open Eval SymbolTable

def Expr.Assigns (expr : Expr) (name : String) : Prop :=
  ∃ line place value, Expr.binary line "=" (.identifier place name) value ∈ expr.nodes

namespace SymbolTable

def Innermost (table : SymbolTable) (handle : Handle) : Prop :=
  ∃ scope ∈ table.scopes.head?, scope.base ≤ handle

structure Kept (assigned declared : String → Prop) (innermost : Prop) (cell later : Variable) : Prop where
  name : later.name = cell.name
  value : later.value = cell.value ∨ assigned cell.name ∨ innermost ∧ declared cell.name

structure Keeps (assigned declared : String → Prop) (before after : SymbolTable) : Prop where
  gains : ∃ names, Gains names before after
  cells : ∀ (handle : Handle) (cell : Variable), before.cells[handle]? = some cell →
    ∃ later, after.cells[handle]? = some later ∧
      Kept assigned declared (before.Innermost handle) cell later

end SymbolTable

section Tables

variable {assigned declared : String → Prop} {before middle after : SymbolTable}

theorem kept_refl (innermost : Prop) (cell : Variable) : Kept assigned declared innermost cell cell :=
  ⟨rfl, .inl rfl⟩

theorem kept_trans {innermost : Prop} {cell middle later : Variable}
    (first : Kept assigned declared innermost cell middle)
    (second : Kept assigned declared innermost middle later) :
    Kept assigned declared innermost cell later := by
  refine ⟨second.name.trans first.name, ?_⟩
  rcases second.value with same | excepted
  · rw [same]
    exact first.value
  · rw [first.name] at excepted
    exact .inr excepted

theorem innermost_gains {names : List String} (gains : Gains names before after) (handle : Handle) :
    after.Innermost handle ↔ before.Innermost handle := by
  unfold Innermost
  rw [gains.scopes]
  cases before.scopes with
  | nil => rfl
  | cons scope outer => simp [Scope.extend]

theorem keeps_refl (table : SymbolTable) : Keeps assigned declared table table :=
  ⟨⟨[], gains_refl table⟩, fun _ cell held => ⟨cell, held, kept_refl _ cell⟩⟩

theorem keeps_trans (first : Keeps assigned declared before middle)
    (second : Keeps assigned declared middle after) : Keeps assigned declared before after := by
  obtain ⟨names, gains⟩ := first.gains
  obtain ⟨more, further⟩ := second.gains
  refine ⟨⟨names ++ more, gains_trans gains further⟩, fun handle cell held => ?_⟩
  obtain ⟨between, there, kept⟩ := first.cells handle cell held
  obtain ⟨later, last, again⟩ := second.cells handle between there
  rw [innermost_gains gains handle] at again
  exact ⟨later, last, kept_trans kept again⟩

theorem keeps_assign (table : SymbolTable) (handle : Handle) (value : Value)
    (excepted : ∀ cell, table.cells[handle]? = some cell →
      assigned cell.name ∨ table.Innermost handle ∧ declared cell.name) :
    Keeps assigned declared table (table.assign handle value) := by
  refine ⟨⟨[], gains_assign table handle value⟩, fun other cell held => ?_⟩
  by_cases same : handle = other
  · subst same
    exact ⟨{ cell with value }, by simp [SymbolTable.assign, held], rfl, .inr (excepted cell held)⟩
  · exact ⟨cell, by simp [SymbolTable.assign, same, held], kept_refl _ cell⟩

theorem keeps_set (table later : SymbolTable) (name : String) (handle : Handle) (value : Value)
    (valid : table.Valid) (found : table.lookup name = some handle) (assigns : assigned name)
    (done : table.set? handle value = some later) : Keeps assigned declared table later := by
  rw [set_of_lookup table name handle value valid found] at done
  cases done
  apply keeps_assign
  intro cell held
  obtain ⟨known, there, named⟩ := lookup_cell table name handle valid found
  rw [held] at there
  cases there
  exact .inl (named ▸ assigns)

theorem keeps_declare (table later : SymbolTable) (name : String) (handle : Handle) (value : Value)
    (valid : table.Valid) (declares : declared name)
    (done : table.declare name value = some (handle, later)) : Keeps assigned declared table later := by
  obtain ⟨scope, outer, scopes, cases⟩ := declare_eq_some table later name value handle done
  obtain ⟨names, -, gains⟩ := gains_declare table later name value handle done
  rcases cases with ⟨found, rfl⟩ | ⟨-, -, rfl⟩
  · rw [Valid, scopes] at valid
    obtain ⟨above, named⟩ := (mem_names scope table.cellNames name handle valid.2.1).mp
      (mem_of_find scope name handle found)
    apply keeps_assign
    intro cell held
    rw [cellNames, List.getElem?_map, held] at named
    cases named
    exact .inr ⟨⟨scope, by simp [scopes], above⟩, declares⟩
  · refine ⟨⟨names, gains⟩, fun other cell held => ⟨cell, ?_, kept_refl _ cell⟩⟩
    rw [List.getElem?_append_left (List.getElem?_eq_some_iff.mp held).1]
    exact held

theorem enter_not_innermost (table : SymbolTable) (handle : Handle) (inside : handle < table.cells.length) :
    ¬ table.enter.Innermost handle := by
  intro innermost
  obtain ⟨scope, first, above⟩ := innermost
  cases first
  exact absurd inside (Nat.not_lt_of_le above)

-- Whatever a scope does to its own cells, they are new, and they go with it.
theorem keeps_leave {within : String → Prop} (table inner : SymbolTable)
    (keeps : Keeps assigned within table.enter inner) :
    ∃ released outer, inner.leave? = some (released, outer) ∧ Keeps assigned declared table outer := by
  obtain ⟨names, gains⟩ := keeps.gains
  obtain ⟨released, outer, left, restored⟩ := gains_leave table inner gains
  refine ⟨released, outer, left, ⟨[], restored⟩, fun handle cell held => ?_⟩
  have inside : handle < table.cells.length := (List.getElem?_eq_some_iff.mp held).1
  obtain ⟨later, there, kept⟩ := keeps.cells handle cell held
  obtain ⟨scope, rest, scopes, rfl, -⟩ := leave_eq_some inner outer released left
  rw [gains.scopes] at scopes
  cases scopes
  refine ⟨later, ?_, kept.name, ?_⟩
  · exact (List.getElem?_take_of_lt inside).trans there
  · rcases kept.value with same | assigns | ⟨innermost, -⟩
    · exact .inl same
    · exact .inr (.inl assigns)
    · exact absurd innermost (enter_not_innermost table handle inside)

end Tables

def Frames {α : Type} (assigned declared : String → Prop) (action : Eval α) : Prop :=
  ∀ context, context.symbols.Valid →
    Meets (fun _ after => Keeps assigned declared context.symbols after.symbols)
      (fun _ after => Keeps assigned declared context.symbols after.symbols) action context

section Actions

variable {α β : Type} {assigned declared : String → Prop}

theorem frames_pure (result : α) : Frames assigned declared (pure result) :=
  fun _ _ => meets_pure (keeps_refl _)

theorem frames_bind {first : Eval α} {next : α → Eval β} (begins : Frames assigned declared first)
    (continues : ∀ result, Frames assigned declared (next result)) :
    Frames assigned declared (first >>= next) := by
  intro context valid
  apply meets_bind (begins context valid)
  intro result middle keeps
  obtain ⟨names, gains⟩ := keeps.gains
  exact meets_mono (continues result middle (gains_valid gains valid))
    (fun _ _ further => keeps_trans keeps further) (fun _ _ further => keeps_trans keeps further)

theorem frames_fail (line : Nat) (fault : RuntimeFault) :
    Frames assigned declared (fail line fault : Eval α) :=
  fun _ _ => meets_fail (keeps_refl _)

theorem frames_trace (event : Event) : Frames assigned declared (trace event) :=
  fun _ _ => meets_trace (keeps_refl _)

theorem frames_on_line (line : Nat) (outcome : Except RuntimeFault α) :
    Frames assigned declared (onLine line outcome) :=
  fun _ _ => meets_on_line (fun _ _ => keeps_refl _) fun _ _ => keeps_refl _

theorem frames_indented {action : Eval α} (frames : Frames assigned declared action) :
    Frames assigned declared (indented action) :=
  fun context valid => meets_between (frames context.indent valid)

theorem frames_in_scope {within : String → Prop} {action : Eval α}
    (frames : Frames assigned within action) : Frames assigned declared (inScope action) := by
  intro context valid
  have leaves : ∀ inner : Context, Keeps assigned within context.symbols.enter inner.symbols →
      Keeps assigned declared context.symbols inner.unindent.leaveScope.symbols := by
    intro inner keeps
    obtain ⟨released, outer, left, restored⟩ := keeps_leave context.symbols inner.symbols keeps
    change inner.unindent.symbols.leave? = _ at left
    rw [Context.leaveScope, left]
    exact restored
  apply meets_between
  exact meets_mono (frames context.enterScope.indent (enter_valid context.symbols valid))
    (fun _ => leaves) (fun _ => leaves)

theorem frames_composes (assigned : String → Prop) :
    ComposesWithin fun declared => Frames assigned declared where
  pure := frames_pure
  exhausted _ _ := keeps_refl _
  bind := frames_bind
  trace := frames_trace
  record _ _ _ := keeps_refl _
  indented := frames_indented
  inScope := frames_in_scope

theorem frames_declare (name : String) (value : Value) (declares : declared name) :
    Frames assigned declared (declare name value) := by
  intro context valid
  apply meets_declare
  rw [Context.declare]
  cases done : (context.trace (.declaration name value)).symbols.declare name value with
  | none => exact keeps_refl _
  | some answer => exact keeps_declare _ answer.2 name answer.1 value valid declares done

theorem frames_read (line : Nat) (name : String) : Frames assigned declared (readVariable line name) :=
  fun _ _ => meets_read (fun _ _ => keeps_refl _) fun _ => keeps_refl _

theorem frames_assign (line : Nat) (value : Value) (target : Expr)
    (assigns : ∀ place name, target = .identifier place name → assigned name) :
    Frames assigned declared (assign line value target) := by
  cases target with
  | identifier place name =>
      intro context valid
      refine meets_assign (fun symbols done => ?_) fun _ => keeps_refl _
      obtain ⟨handle, found, set⟩ := Option.bind_eq_some_iff.mp done
      exact keeps_set context.symbols symbols name handle value valid found (assigns place name rfl) set
  | _ => exact frames_fail line .invalidAssignmentTarget

theorem frames_call (line : Nat) (name : String) (arguments : List Value) :
    Frames assigned declared (call line name arguments) := by
  apply frames_bind (frames_trace _)
  intro _
  cases Builtin.find? name with
  | none => exact frames_fail line _
  | some builtin =>
      exact fun _ _ => meets_invoke (fun _ _ _ => keeps_refl _) fun _ _ _ => keeps_refl _

end Actions

theorem node_frames {assigned : String → Prop} (node : Expr)
    (targets : ∀ line place name value, node = .binary line "=" (.identifier place name) value →
      assigned name)
    (declared : String → Prop) (own : ∀ name ∈ node.ownName, declared name) :
    node.Acts (Frames assigned declared) := by
  cases node with
  | block | empty => trivial
  | declare line name initializer => exact fun value => frames_declare name value (own name rfl)
  | branch line | loop line => exact fun value => frames_on_line line value.asBoolean
  | binary line operator left right =>
      intro x y
      by_cases assigns : operator = "="
      · rw [if_pos assigns]
        apply frames_assign
        intro place name target
        exact targets line place name right (by rw [assigns, target])
      · rw [if_neg assigns]
        exact frames_on_line line (applyBinary operator x y)
  | unary line operator operand => exact fun value => frames_on_line line (applyUnary operator value)
  | literal line text => exact frames_on_line line (Value.ofLiteral text)
  | identifier line name => exact frames_read line name
  | call line name arguments => exact fun values => frames_call line name values

theorem eval_frames (fuel : Nat) (expr : Expr) :
    Frames expr.Assigns (· ∈ expr.openNames) (expr.eval fuel) := by
  refine eval_composes_within (frames_composes expr.Assigns) fuel expr (fun node member => ?_) _
    fun _ inside => inside
  apply node_frames
  intro line place name value same
  exact ⟨line, place, value, same ▸ member⟩

/-- However an evaluation ends, every cell keeps its name, and its value unless the expression assigns to that
name, or declares it outside of its blocks and the cell belongs to the innermost scope. -/
theorem evaluation_changes_only_written (context : Context) (reachable : context.Reachable) (fuel : Nat)
    (expr : Expr) (handle : Handle) (cell : Variable)
    (held : context.symbols.cells[handle]? = some cell) :
    ∃ later, ((expr.eval fuel).after context).symbols.cells[handle]? = some later ∧
      later.name = cell.name ∧
      (later.value = cell.value ∨ expr.Assigns cell.name ∨
        (∃ scope ∈ context.symbols.scopes.head?, scope.base ≤ handle) ∧ cell.name ∈ expr.openNames) := by
  have valid := (reachable_idle reachable).valid
  have keeps := meets_after (eval_frames fuel expr context valid)
  obtain ⟨later, there, kept⟩ := keeps.cells handle cell held
  exact ⟨later, there, kept.name, kept.value⟩

-- The operation `(let y = true) + { let x; w }`, which fails inside its block.
def failingFrame : Expr :=
  .binary 1 "+" (.declare 1 "y" (some (.literal 1 "true")))
    (.block 1 [.declare 1 "x" none, .identifier 1 "w"])

def nestedContext : Context :=
  (((Context.enterScope {}).declare "x" (.boolean true)).enterScope).declare "y" .none

theorem outer_variable_kept :
    nestedContext.Reachable ∧ nestedContext.symbols.cells[0]? = some ⟨"x", .boolean true⟩ ∧
      (∃ after, failingFrame.eval 1 nestedContext = .error (.failed ⟨1, .undefinedSymbol "w"⟩) after) ∧
      ((failingFrame.eval 1).after nestedContext).symbols.cells[0]? = some ⟨"x", .boolean true⟩ := by
  have reachable : nestedContext.Reachable :=
    .declared (.entered (.declared (.entered (.fresh {} [])) "x" (.boolean true))) "y" .none
  obtain ⟨later, there, named, kept⟩ :=
    evaluation_changes_only_written nestedContext reachable 1 failingFrame 0 ⟨"x", .boolean true⟩ rfl
  have unassigned : ¬ failingFrame.Assigns "x" := by
    simp [Expr.Assigns, failingFrame]
  have closed : "x" ∉ failingFrame.openNames := by decide
  have same : later.value = .boolean true := by
    rcases kept with same | assigns | ⟨-, declares⟩
    · exact same
    · exact absurd assigns unassigned
    · exact absurd declares closed
  refine ⟨reachable, rfl, ⟨_, rfl⟩, there.trans ?_⟩
  cases later
  cases named
  cases same
  rfl

end Scriptlet
