import Scriptlet.Proofs.Evaluation.Composition
import Scriptlet.Proofs.Evaluation.Outcome
import Scriptlet.Proofs.SymbolTable.Gains

set_option autoImplicit false

namespace Scriptlet

open Eval SymbolTable

structure Context.Grows (allowed : String → Prop) (before after : Context) : Prop where
  depth : after.depth = before.depth
  gains : ∃ names, (∀ name ∈ names, allowed name) ∧ Gains names before.symbols after.symbols

section Contexts

variable {allowed : String → Prop} {before middle after : Context}

theorem grows_of_gains_nothing (depth : after.depth = before.depth)
    (gains : Gains [] before.symbols after.symbols) : before.Grows allowed after :=
  ⟨depth, [], by simp, gains⟩

theorem grows_same (depth : after.depth = before.depth) (symbols : after.symbols = before.symbols) :
    before.Grows allowed after :=
  grows_of_gains_nothing depth (symbols ▸ gains_refl _)

theorem grows_trans (first : before.Grows allowed middle) (second : middle.Grows allowed after) :
    before.Grows allowed after := by
  obtain ⟨depth, names, all, gains⟩ := first
  obtain ⟨depth', more, further, gains'⟩ := second
  exact ⟨depth'.trans depth, names ++ more, List.forall_mem_append.mpr ⟨all, further⟩,
    gains_trans gains gains'⟩

theorem grows_declare (context : Context) (name : String) (value : Value) (permitted : allowed name) :
    context.Grows allowed (context.declare name value) := by
  unfold Context.declare
  cases done : context.symbols.declare name value with
  | none => exact grows_same rfl rfl
  | some answer =>
      obtain ⟨handle, symbols⟩ := answer
      obtain ⟨names, only, gains⟩ := gains_declare context.symbols symbols name value handle done
      exact ⟨rfl, names, fun other member => only other member ▸ permitted, gains⟩

theorem grows_set (context : Context) (handle : Handle) (value : Value) (symbols : SymbolTable)
    (done : context.symbols.set? handle value = some symbols) :
    context.Grows allowed { context with symbols } := by
  rw [context.symbols.set_eq_some symbols handle value done]
  exact grows_of_gains_nothing rfl (gains_assign context.symbols handle value)

theorem grows_leave {within : String → Prop} (context inner : Context)
    (grows : context.enterScope.indent.Grows within inner) :
    context.Grows allowed inner.unindent.leaveScope := by
  obtain ⟨depth, names, -, gains⟩ := grows
  obtain ⟨released, outer, left, restored⟩ := gains_leave context.symbols inner.symbols gains
  have leaves : inner.unindent.leaveScope =
      { inner.unindent with symbols := outer, log := .released released :: inner.log } := by
    change inner.unindent.symbols.leave? = _ at left
    rw [Context.leaveScope, left]
    rfl
  rw [leaves]
  refine grows_of_gains_nothing ?_ restored
  change inner.depth - 1 = context.depth
  rw [depth]
  rfl

end Contexts

def Restores {α : Type} (allowed : String → Prop) (action : Eval α) : Prop :=
  ∀ context, Meets (fun _ after => context.Grows allowed after) (fun _ after => context.Grows allowed after)
    action context

section Actions

variable {α β : Type} {allowed : String → Prop}

theorem restores_pure (result : α) : Restores allowed (pure result) :=
  fun _ => meets_pure (grows_same rfl rfl)

theorem restores_bind {first : Eval α} {next : α → Eval β} (begins : Restores allowed first)
    (continues : ∀ result, Restores allowed (next result)) : Restores allowed (first >>= next) := by
  intro context
  apply meets_bind (begins context)
  intro result middle grows
  exact meets_mono (continues result middle) (fun _ _ further => grows_trans grows further)
    (fun _ _ further => grows_trans grows further)

theorem restores_trace (event : Event) : Restores allowed (trace event) :=
  fun _ => meets_trace (grows_same rfl rfl)

theorem restores_fail (line : Nat) (fault : RuntimeFault) :
    Restores allowed (fail line fault : Eval α) :=
  fun _ => meets_fail (grows_same rfl rfl)

theorem restores_on_line (line : Nat) (outcome : Except RuntimeFault α) :
    Restores allowed (onLine line outcome) :=
  fun _ => meets_on_line (fun _ _ => grows_same rfl rfl) fun _ _ => grows_same rfl rfl

theorem restores_indented {action : Eval α} (restores : Restores allowed action) :
    Restores allowed (indented action) := by
  intro context
  have unindents : ∀ inner : Context, context.indent.Grows allowed inner →
      context.Grows allowed inner.unindent := by
    intro inner grows
    exact ⟨congrArg (· - 1) grows.depth, grows.gains⟩
  apply meets_between
  exact meets_mono (restores context.indent) (fun _ => unindents) (fun _ => unindents)

theorem restores_in_scope {within : String → Prop} {action : Eval α}
    (restores : Restores within action) : Restores allowed (inScope action) := by
  intro context
  apply meets_between
  exact meets_mono (restores context.enterScope.indent) (fun _ => grows_leave context)
    (fun _ => grows_leave context)

theorem restores_declare (name : String) (value : Value) (permitted : allowed name) :
    Restores allowed (declare name value) := by
  intro context
  have traced : context.Grows allowed (context.trace (.declaration name value)) := grows_same rfl rfl
  exact meets_declare (grows_trans traced (grows_declare _ name value permitted))

theorem restores_read (line : Nat) (name : String) : Restores allowed (readVariable line name) :=
  fun _ => meets_read (fun _ _ => grows_same rfl rfl) fun _ => grows_same rfl rfl

theorem restores_assign (line : Nat) (value : Value) (target : Expr) :
    Restores allowed (assign line value target) := by
  cases target with
  | identifier _ name =>
      intro context
      refine meets_assign (fun symbols done => ?_) fun _ => grows_same rfl rfl
      obtain ⟨handle, -, set⟩ := Option.bind_eq_some_iff.mp done
      exact grows_set context handle value symbols set
  | _ => exact restores_fail line .invalidAssignmentTarget

theorem restores_call (line : Nat) (name : String) (arguments : List Value) :
    Restores allowed (call line name arguments) := by
  apply restores_bind (restores_trace _)
  intro _
  cases Builtin.find? name with
  | none => exact restores_fail line _
  | some builtin => exact fun _ => meets_invoke (fun _ _ _ => grows_same rfl rfl) fun _ _ _ => grows_same rfl rfl

theorem restores_composes : ComposesWithin fun allowed => Restores allowed where
  pure := restores_pure
  exhausted _ := grows_same rfl rfl
  bind := restores_bind
  trace := restores_trace
  record _ _ := grows_same rfl rfl
  indented := restores_indented
  inScope := restores_in_scope

end Actions

theorem node_restores (node : Expr) (allowed : String → Prop) (own : ∀ name ∈ node.ownName, allowed name) :
    node.Acts (Restores allowed) := by
  cases node with
  | block | empty => trivial
  | declare line name initializer => exact fun value => restores_declare name value (own name rfl)
  | branch line | loop line => exact fun value => restores_on_line line value.asBoolean
  | binary line operator left right =>
      intro x y
      by_cases assigns : operator = "="
      · rw [if_pos assigns]
        exact restores_assign line y left
      · rw [if_neg assigns]
        exact restores_on_line line (applyBinary operator x y)
  | unary line operator operand => exact fun value => restores_on_line line (applyUnary operator value)
  | literal line text => exact restores_on_line line (Value.ofLiteral text)
  | identifier line name => exact restores_read line name
  | call line name arguments => exact fun values => restores_call line name values

theorem eval_restores (fuel : Nat) (allowed : String → Prop) (expr : Expr)
    (all : ∀ name ∈ expr.openNames, allowed name) : Restores allowed (expr.eval fuel) :=
  eval_composes_within restores_composes fuel expr (fun node _ => node_restores node) allowed all

theorem execute_restores (fuel : Nat) (program : Program) :
    Restores (fun _ => False) (program.execute fuel) :=
  execute_composes_within restores_composes fuel program (fun node _ => node_restores node) _

theorem eval_grows (fuel : Nat) (expr : Expr) (context : Context) :
    context.Grows (· ∈ expr.openNames) ((expr.eval fuel).after context) :=
  meets_after (eval_restores fuel _ expr (fun _ member => member) context)

theorem execute_gains (fuel : Nat) (program : Program) (context : Context) :
    ((program.execute fuel).after context).depth = context.depth ∧
      Gains [] context.symbols ((program.execute fuel).after context).symbols := by
  obtain ⟨depth, names, none, gains⟩ := meets_after (execute_restores fuel program context)
  obtain rfl := List.eq_nil_iff_forall_not_mem.mpr none
  exact ⟨depth, gains⟩

namespace Context

-- The contexts that a new one can become: its scopes are entered and left, variables declared and
-- assigned, expressions evaluated and programs executed, in any order and however they end.
inductive Reachable : Context → Prop where
  | fresh (output : Sink) (log : Log) : Reachable { output, log }
  | entered {context : Context} (earlier : Reachable context) : Reachable context.enterScope
  | left {context : Context} (earlier : Reachable context) : Reachable context.leaveScope
  | declared {context : Context} (earlier : Reachable context) (name : String) (value : Value) :
      Reachable (context.declare name value)
  | assigned {context : Context} (earlier : Reachable context) (handle : Handle) (value : Value)
      (symbols : SymbolTable) (done : context.symbols.set? handle value = some symbols) :
      Reachable { context with symbols }
  | evaluated {context : Context} (earlier : Reachable context) (fuel : Nat) (expr : Expr) :
      Reachable ((expr.eval fuel).after context)
  | executed {context : Context} (earlier : Reachable context) (fuel : Nat) (program : Program) :
      Reachable ((program.execute fuel).after context)

end Context

structure Context.Idle (context : Context) : Prop where
  depth : context.depth = 0
  valid : context.symbols.Valid

theorem idle_grows {allowed : String → Prop} {before after : Context} (idle : before.Idle)
    (grows : before.Grows allowed after) : after.Idle := by
  obtain ⟨depth, names, -, gains⟩ := grows
  exact ⟨depth.trans idle.depth, gains_valid gains idle.valid⟩

theorem reachable_idle {context : Context} (reachable : context.Reachable) : context.Idle := by
  induction reachable with
  | fresh output log => exact ⟨rfl, empty_valid⟩
  | entered earlier ih => exact ⟨ih.depth, enter_valid _ ih.valid⟩
  | @left context earlier ih =>
      unfold Context.leaveScope
      cases left : context.symbols.leave? with
      | none => exact ih
      | some answer => exact ⟨ih.depth, leave_valid _ answer.2 answer.1 ih.valid left⟩
  | @declared context earlier name value ih =>
      have grows : context.Grows (· = name) (context.declare name value) := grows_declare _ name value rfl
      exact idle_grows ih grows
  | @assigned context earlier handle value symbols done ih =>
      have grows : context.Grows (fun _ => False) { context with symbols } :=
        grows_set _ handle value symbols done
      exact idle_grows ih grows
  | evaluated earlier fuel expr ih => exact idle_grows ih (eval_grows fuel expr _)
  | executed earlier fuel program ih =>
      exact idle_grows ih (meets_after (execute_restores fuel program _))

theorem cells_of_closed {table : SymbolTable} (valid : table.Valid) (closed : table.scopes = []) :
    table.cells = [] := by
  rw [Valid, closed] at valid
  exact List.map_eq_nil_iff.mp valid

/-- However an evaluation ends, it restores the depth and the scopes, except that the innermost scope may
have gained names that the expression declares outside of its blocks. A program leaves nothing at all. -/
theorem evaluation_restores_scopes (context : Context) (fuel : Nat) :
    (∀ expr : Expr,
      ((expr.eval fuel).after context).depth = context.depth ∧
      ∃ names, (∀ name ∈ names, name ∈ expr.openNames) ∧
        Gains names context.symbols ((expr.eval fuel).after context).symbols) ∧
    ∀ program : Program,
      ((program.execute fuel).after context).depth = context.depth ∧
      ((program.execute fuel).after context).symbols.scopes = context.symbols.scopes ∧
      ((program.execute fuel).after context).symbols.cellNames = context.symbols.cellNames ∧
      (context.Reachable → context.symbols.scopes = [] →
        ((program.execute fuel).after context).symbols = {}) := by
  refine ⟨fun expr => ⟨(eval_grows fuel expr context).depth, (eval_grows fuel expr context).gains⟩, ?_⟩
  intro program
  obtain ⟨depth, gains⟩ := execute_gains fuel program context
  have scopes : ((program.execute fuel).after context).symbols.scopes = context.symbols.scopes := by
    rw [gains.scopes]
    cases context.symbols.scopes <;> rfl
  refine ⟨depth, scopes, by rw [gains.cells, List.append_nil], fun reachable closed => ?_⟩
  have valid := gains_valid gains (reachable_idle reachable).valid
  rw [closed] at scopes
  have cells := cells_of_closed valid scopes
  cases after : ((program.execute fuel).after context).symbols with
  | mk row stack =>
      rw [after] at cells scopes
      subst cells scopes
      rfl

-- The operation `(let z) + { let y; w }`, which fails inside its block.
def failingOperation : Expr :=
  .binary 1 "+" (.declare 1 "z" none) (.block 1 [.declare 1 "y" none, .identifier 1 "w"])

def openContext : Context := (Context.enterScope {}).declare "x" (.boolean true)

theorem failing_operation_restored :
    (∃ after, failingOperation.eval 1 openContext = .error (.failed ⟨1, .undefinedSymbol "w"⟩) after) ∧
    (∃ names, (∀ name ∈ names, name ∈ ["z"]) ∧
      Gains names openContext.symbols ((failingOperation.eval 1).after openContext).symbols) ∧
    ((Program.execute 1 ⟨[failingOperation]⟩).after {}).symbols = {} := by
  obtain ⟨-, -, -, closed⟩ := (evaluation_restores_scopes {} 1).2 ⟨[failingOperation]⟩
  exact ⟨⟨_, rfl⟩, ((evaluation_restores_scopes openContext 1).1 failingOperation).2,
    closed (.fresh {} []) rfl⟩

end Scriptlet
