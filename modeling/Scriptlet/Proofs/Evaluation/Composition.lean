import Scriptlet.Evaluation
import Scriptlet.Proofs.Expr.Lines

/-!
Properties of evaluations that are kept from part to whole.

An evaluation puts together what its nodes do of their own. `eval_composes_within` does the induction over the
tree once: a property that sequence, indentation and scopes keep, and that the own actions of all nodes have, is
one that the evaluation of the tree has. The property may depend on the names that are declared in the scope in
which an action begins; `execute_composes` is about programs and properties that do not.
-/

set_option autoImplicit false

namespace Scriptlet

open Eval

mutual

def Expr.openNames : Expr → List String
  | .block _ _ => []
  | .declare _ name none => [name]
  | .declare _ name (some initializer) => initializer.openNames ++ [name]
  | .branch _ condition thenBranch none => condition.openNames ++ thenBranch.openNames
  | .branch _ condition thenBranch (some elseBranch) =>
      condition.openNames ++ thenBranch.openNames ++ elseBranch.openNames
  | .loop _ condition body => condition.openNames ++ body.openNames
  | .binary _ _ left right => left.openNames ++ right.openNames
  | .unary _ _ operand => operand.openNames
  | .literal _ _ => []
  | .identifier _ _ => []
  | .call _ _ arguments => openNamesOfAll arguments
  | .empty _ => []

def openNamesOfAll : List Expr → List String
  | [] => []
  | first :: others => first.openNames ++ openNamesOfAll others

end

structure Composes (holds : {α : Type} → Eval α → Prop) : Prop where
  pure : ∀ {α : Type} (result : α), holds (pure result)
  exhausted : ∀ {α : Type}, holds (throw .outOfFuel : Eval α)
  bind : ∀ {α β : Type} {action : Eval α} {next : α → Eval β}, holds action →
    (∀ result, holds (next result)) → holds (action >>= next)
  trace : ∀ event, holds (trace event)
  record : ∀ entry, holds (modify (Context.record entry) : Eval Unit)
  indented : ∀ {α : Type} {action : Eval α}, holds action → holds (indented action)
  inScope : ∀ {α : Type} {action : Eval α}, holds action → holds (inScope action)

-- The same where the names that may be declared matter. What is declared within a scope does not matter outside.
structure ComposesWithin (holds : (String → Prop) → {α : Type} → Eval α → Prop) : Prop where
  pure : ∀ {allowed : String → Prop} {α : Type} (result : α), holds allowed (pure result)
  exhausted : ∀ {allowed : String → Prop} {α : Type}, holds allowed (throw .outOfFuel : Eval α)
  bind : ∀ {allowed : String → Prop} {α β : Type} {action : Eval α} {next : α → Eval β},
    holds allowed action → (∀ result, holds allowed (next result)) → holds allowed (action >>= next)
  trace : ∀ {allowed : String → Prop} event, holds allowed (trace event)
  record : ∀ {allowed : String → Prop} entry, holds allowed (modify (Context.record entry) : Eval Unit)
  indented : ∀ {allowed : String → Prop} {α : Type} {action : Eval α}, holds allowed action →
    holds allowed (indented action)
  inScope : ∀ {within allowed : String → Prop} {α : Type} {action : Eval α}, holds within action →
    holds allowed (inScope action)

def Expr.Acts (holds : {α : Type} → Eval α → Prop) : Expr → Prop
  | .block _ _ | .empty _ => True
  | .declare _ name _ => ∀ value, holds (Eval.declare name value)
  | .branch line _ _ _ | .loop line _ _ => ∀ value : Value, holds (onLine line value.asBoolean)
  | .binary line operator left _ => ∀ x y,
      holds (if operator = "=" then assign line y left else onLine line (applyBinary operator x y))
  | .unary line operator _ => ∀ x, holds (onLine line (applyUnary operator x))
  | .literal line text => holds (onLine line (Value.ofLiteral text))
  | .identifier line name => holds (readVariable line name)
  | .call line name _ => ∀ values, holds (Eval.call line name values)

def ActAll (holds : {α : Type} → Eval α → Prop) (nodes : List Expr) : Prop :=
  ∀ node ∈ nodes, node.Acts holds

def Expr.ownName : Expr → Option String
  | .declare _ name _ => some name
  | _ => none

def ActAllWithin (holds : (String → Prop) → {α : Type} → Eval α → Prop) (nodes : List Expr) : Prop :=
  ∀ node ∈ nodes, ∀ allowed : String → Prop, (∀ name ∈ node.ownName, allowed name) →
    node.Acts (holds allowed)

section Actions

variable {holds : (String → Prop) → {α : Type} → Eval α → Prop} {allowed : String → Prop}

@[simp] theorem act_all_cons {node : Expr} {nodes : List Expr} :
    ActAllWithin holds (node :: nodes) ↔
      (∀ allowed : String → Prop, (∀ name ∈ node.ownName, allowed name) → node.Acts (holds allowed)) ∧
        ActAllWithin holds nodes := List.forall_mem_cons

@[simp] theorem act_all_append {nodes more : List Expr} :
    ActAllWithin holds (nodes ++ more) ↔ ActAllWithin holds nodes ∧ ActAllWithin holds more :=
  List.forall_mem_append

theorem composes_repeat (composes : ComposesWithin holds) {test : Eval Bool} {body : Eval Value}
    (tests : holds allowed test) (turns : holds allowed body) (fuel : Nat) (last : Value) :
    holds allowed (repeatWhile test body fuel last) := by
  induction fuel generalizing last with
  | zero => exact composes.exhausted
  | succ fuel ih =>
      apply composes.bind tests
      intro goesOn
      cases goesOn with
      | false => exact composes.pure last
      | true => exact composes.bind turns ih

theorem composes_then_trace (composes : ComposesWithin holds) {α : Type} {event : Event} {action : Eval α}
    (acts : holds allowed action) : holds allowed (do let value ← action; trace event; return value) := by
  apply composes.bind acts
  intro value
  exact composes.bind (composes.trace event) fun _ => composes.pure value

end Actions

section Trees

variable {holds : (String → Prop) → {α : Type} → Eval α → Prop}

mutual

theorem eval_composes_within (composes : ComposesWithin holds) (fuel : Nat) (expr : Expr)
    (acts : ActAllWithin holds expr.nodes) (allowed : String → Prop)
    (names : ∀ name ∈ expr.openNames, allowed name) : holds allowed (expr.eval fuel) := by
  match expr with
  | .block _ statements =>
      simp only [Expr.nodes, act_all_cons] at acts
      have inside := all_compose_within composes fuel statements acts.2 (· ∈ openNamesOfAll statements)
        (fun _ member => member) .none
      simp only [Expr.eval]
      apply composes.bind (composes.trace .blockBegin)
      intro _
      exact composes_then_trace composes (composes.inScope inside)
  | .declare _ name none =>
      simp only [Expr.nodes, act_all_cons] at acts
      simp only [Expr.openNames, List.forall_mem_singleton] at names
      exact acts.1 allowed (by simpa [Expr.ownName] using names) .none
  | .declare _ name (some initializer) =>
      simp only [Expr.nodes, act_all_cons] at acts
      simp only [Expr.openNames, List.forall_mem_append, List.forall_mem_singleton] at names
      simp only [Expr.eval]
      exact composes.bind (eval_composes_within composes fuel initializer acts.2 allowed names.1)
        (acts.1 allowed (by simpa [Expr.ownName] using names.2))
  | .branch line condition thenBranch none =>
      simp only [Expr.nodes, act_all_cons, act_all_append] at acts
      simp only [Expr.openNames, List.forall_mem_append] at names
      obtain ⟨here, inCondition, inThen⟩ := acts
      simp only [Expr.eval]
      apply composes.bind (composes.trace .branchBegin)
      intro _
      apply composes.bind (eval_composes_within composes fuel condition inCondition allowed names.1)
      intro value
      apply composes.bind (here allowed nofun value)
      intro taken
      cases taken with
      | true =>
          exact composes_then_trace composes
            (eval_composes_within composes fuel thenBranch inThen allowed names.2)
      | false => exact composes_then_trace composes (composes.pure Value.none)
  | .branch line condition thenBranch (some elseBranch) =>
      simp only [Expr.nodes, act_all_cons, act_all_append] at acts
      simp only [Expr.openNames, List.forall_mem_append] at names
      obtain ⟨here, ⟨inCondition, inThen⟩, inElse⟩ := acts
      simp only [Expr.eval]
      apply composes.bind (composes.trace .branchBegin)
      intro _
      apply composes.bind (eval_composes_within composes fuel condition inCondition allowed names.1.1)
      intro value
      apply composes.bind (here allowed nofun value)
      intro taken
      cases taken with
      | true =>
          exact composes_then_trace composes
            (eval_composes_within composes fuel thenBranch inThen allowed names.1.2)
      | false =>
          exact composes_then_trace composes
            (eval_composes_within composes fuel elseBranch inElse allowed names.2)
  | .loop line condition body =>
      simp only [Expr.nodes, act_all_cons, act_all_append] at acts
      simp only [Expr.openNames, List.forall_mem_append] at names
      obtain ⟨here, inCondition, inBody⟩ := acts
      have test : holds allowed (do onLine line (← condition.eval fuel).asBoolean) :=
        composes.bind (eval_composes_within composes fuel condition inCondition allowed names.1)
          (here allowed nofun)
      have turn := eval_composes_within composes fuel body inBody allowed names.2
      simp only [Expr.eval]
      apply composes.bind (composes.trace .loopBegin)
      intro _
      exact composes_then_trace composes (composes_repeat composes test turn fuel .none)
  | .binary line operator left right =>
      simp only [Expr.nodes, act_all_cons, act_all_append] at acts
      simp only [Expr.openNames, List.forall_mem_append] at names
      obtain ⟨here, inLeft, inRight⟩ := acts
      have operands : holds allowed (do
          let x ← left.eval fuel
          let y ← right.eval fuel
          return (x, y)) := by
        apply composes.bind (eval_composes_within composes fuel left inLeft allowed names.1)
        intro x
        apply composes.bind (eval_composes_within composes fuel right inRight allowed names.2)
        exact fun y => composes.pure (x, y)
      simp only [Expr.eval]
      apply composes.bind (composes.trace (.binary operator))
      intro _
      apply composes.bind (composes.indented operands)
      exact fun values => here allowed nofun values.1 values.2
  | .unary line operator operand =>
      simp only [Expr.nodes, act_all_cons] at acts
      have inside := eval_composes_within composes fuel operand acts.2 allowed names
      simp only [Expr.eval]
      apply composes.bind (composes.trace (.unary operator))
      intro _
      exact composes.bind (composes.indented inside) (acts.1 allowed nofun)
  | .literal line text =>
      simp only [Expr.nodes, act_all_cons] at acts
      simp only [Expr.eval]
      apply composes.bind (composes.trace (.literal text))
      exact fun _ => acts.1 allowed nofun
  | .identifier line name =>
      simp only [Expr.nodes, act_all_cons] at acts
      exact acts.1 allowed nofun
  | .call line name arguments =>
      simp only [Expr.nodes, act_all_cons] at acts
      simp only [Expr.eval]
      exact composes.bind (arguments_compose_within composes fuel arguments acts.2 allowed names)
        (acts.1 allowed nofun)
  | .empty _ => exact composes.pure Value.none

theorem all_compose_within (composes : ComposesWithin holds) (fuel : Nat) (exprs : List Expr)
    (acts : ActAllWithin holds (nodesOfAll exprs)) (allowed : String → Prop)
    (names : ∀ name ∈ openNamesOfAll exprs, allowed name) (last : Value) :
    holds allowed (evalAll fuel exprs last) := by
  match exprs with
  | [] => exact composes.pure last
  | first :: others =>
      simp only [nodesOfAll, act_all_append] at acts
      simp only [openNamesOfAll, List.forall_mem_append] at names
      simp only [evalAll]
      apply composes.bind (eval_composes_within composes fuel first acts.1 allowed names.1)
      exact all_compose_within composes fuel others acts.2 allowed names.2

theorem arguments_compose_within (composes : ComposesWithin holds) (fuel : Nat) (exprs : List Expr)
    (acts : ActAllWithin holds (nodesOfAll exprs)) (allowed : String → Prop)
    (names : ∀ name ∈ openNamesOfAll exprs, allowed name) : holds allowed (evalArguments fuel exprs) := by
  match exprs with
  | [] => exact composes.pure []
  | first :: others =>
      simp only [nodesOfAll, act_all_append] at acts
      simp only [openNamesOfAll, List.forall_mem_append] at names
      simp only [evalArguments]
      apply composes.bind (eval_composes_within composes fuel first acts.1 allowed names.1)
      intro value
      apply composes.bind (arguments_compose_within composes fuel others acts.2 allowed names.2)
      exact fun values => composes.pure (value :: values)

end

-- A program opens a scope for itself, so nothing that it declares matters outside.
theorem execute_composes_within (composes : ComposesWithin holds) (fuel : Nat) (program : Program)
    (acts : ActAllWithin holds (nodesOfAll program.statements)) (allowed : String → Prop) :
    holds allowed (program.execute fuel) := by
  have inside := all_compose_within composes fuel program.statements acts
    (· ∈ openNamesOfAll program.statements) (fun _ member => member) .none
  apply composes.bind (composes.trace .programBegin)
  intro _
  apply composes.bind (composes.inScope inside)
  intro value
  apply composes.bind (composes.trace .programEnd)
  intro _
  apply composes.bind (composes.record (.evaluated value))
  exact fun _ => composes.pure value

end Trees

section Uniform

variable {holds : {α : Type} → Eval α → Prop}

theorem composes_within (composes : Composes holds) : ComposesWithin fun _ => holds where
  pure := composes.pure
  exhausted := composes.exhausted
  bind := composes.bind
  trace := composes.trace
  record := composes.record
  indented := composes.indented
  inScope := composes.inScope

theorem execute_composes (composes : Composes holds) (fuel : Nat) (program : Program)
    (acts : ActAll holds (nodesOfAll program.statements)) : holds (program.execute fuel) :=
  execute_composes_within (composes_within composes) fuel program
    (fun node member _ _ => acts node member) fun _ => True

end Uniform

end Scriptlet
