import Scriptlet.Proofs.Evaluation.Outcome

/-!
The declarations that an evaluation comes to.

`Expr.declarations` follows an evaluation and lists its declarations, each with the table as it is at that point.
However the evaluation ends, these are the declarations that its log shows, in the same order (`eval_logs`).
-/

set_option autoImplicit false

namespace Scriptlet

open Eval

structure Declaration where
  line : Nat
  name : String
  symbols : SymbolTable

def Declaration.isRepeated (declaration : Declaration) : Bool :=
  declaration.symbols.isDeclaredHere declaration.name

abbrev Listing := Context → List Declaration

namespace Listing

def nothing : Listing := fun _ => []

-- First what an action lists, and then, if it returns, what is listed from there on.
def andThen {α : Type} (made : Listing) (action : Eval α) (further : α → Listing) : Listing := fun context =>
  made context ++
    match action context with
    | .ok result after => further result after
    | .error _ _ => []

def turns (test : Eval Bool) (body : Eval Value) (inTest inBody : Listing) : Nat → Listing
  | 0 => nothing
  | fuel + 1 => inTest.andThen test fun goesOn =>
      if goesOn then inBody.andThen body fun _ => turns test body inTest inBody fuel else nothing

end Listing

open Listing

mutual

def Expr.declarations (fuel : Nat) : Expr → Listing
  | .block _ statements => fun context =>
      declarationsOfAll fuel statements (context.trace .blockBegin).enterScope.indent
  | .declare line name none => fun context => [⟨line, name, context.symbols⟩]
  | .declare line name (some initializer) =>
      (initializer.declarations fuel).andThen (initializer.eval fuel) fun _ context =>
        [⟨line, name, context.symbols⟩]
  | .branch _ condition thenBranch none => fun context =>
      (condition.declarations fuel).andThen (condition.eval fuel) (fun value =>
        match value.asBoolean with
        | .ok true => thenBranch.declarations fuel
        | _ => nothing) (context.trace .branchBegin)
  | .branch _ condition thenBranch (some elseBranch) => fun context =>
      (condition.declarations fuel).andThen (condition.eval fuel) (fun value =>
        match value.asBoolean with
        | .ok true => thenBranch.declarations fuel
        | .ok false => elseBranch.declarations fuel
        | .error _ => nothing) (context.trace .branchBegin)
  | .loop line condition body => fun context =>
      turns (do onLine line (← condition.eval fuel).asBoolean) (body.eval fuel)
        (condition.declarations fuel) (body.declarations fuel) fuel (context.trace .loopBegin)
  | .binary _ operator left right => fun context =>
      (left.declarations fuel).andThen (left.eval fuel) (fun _ => right.declarations fuel)
        (context.trace (.binary operator)).indent
  | .unary _ operator operand => fun context =>
      operand.declarations fuel (context.trace (.unary operator)).indent
  | .literal _ _ => nothing
  | .identifier _ _ => nothing
  | .call _ _ arguments => declarationsOfAll fuel arguments
  | .empty _ => nothing

def declarationsOfAll (fuel : Nat) : List Expr → Listing
  | [] => nothing
  | first :: others =>
      (first.declarations fuel).andThen (first.eval fuel) fun _ => declarationsOfAll fuel others

end

def Program.declarations (fuel : Nat) (program : Program) : Listing := fun context =>
  declarationsOfAll fuel program.statements (context.trace .programBegin).enterScope.indent

def Record.declaredName? : Record → Option String
  | .step _ (.declaration name _) => some name
  | _ => none

def declaredIn (log : Log) : List String := log.reverse.filterMap Record.declaredName?

theorem declared_in_cons (entry : Record) (log : Log) :
    declaredIn (entry :: log) = declaredIn log ++ entry.declaredName?.toList := by
  rw [declaredIn, List.reverse_cons, List.filterMap_append]
  cases shown : entry.declaredName? <;> simp [declaredIn, shown]

theorem declared_in_leave (context : Context) : declaredIn context.leaveScope.log = declaredIn context.log := by
  unfold Context.leaveScope
  cases context.symbols.leave? with
  | none => rfl
  | some left => exact (declared_in_cons _ _).trans (List.append_nil _)

def Logs {α : Type} (action : Eval α) (made : Listing) : Prop :=
  ∀ context, declaredIn (action.after context).log =
    declaredIn context.log ++ (made context).map Declaration.name

section Actions

variable {α β : Type} {action : Eval α} {made : Listing}

theorem and_then_nothing (made : Listing) (action : Eval α) : (made.andThen action fun _ => nothing) = made := by
  funext context
  unfold andThen
  cases action context <;> exact List.append_nil _

theorem logs_nothing (quiet : ∀ context, Meets (fun _ left => declaredIn left.log = declaredIn context.log)
    (fun _ left => declaredIn left.log = declaredIn context.log) action context) : Logs action nothing := by
  intro context
  rw [nothing, List.map_nil, List.append_nil]
  have kept := meets_after (quiet context)
  exact kept

theorem logs_pure (result : α) : Logs (pure result : Eval α) nothing := logs_nothing fun _ => meets_pure rfl

theorem logs_fail (line : Nat) (fault : RuntimeFault) : Logs (fail line fault : Eval α) nothing :=
  logs_nothing fun _ => meets_fail rfl

theorem logs_on_line (line : Nat) (outcome : Except RuntimeFault α) : Logs (onLine line outcome) nothing :=
  logs_nothing fun _ => meets_on_line (fun _ _ => rfl) fun _ _ => rfl

theorem logs_bind {next : α → Eval β} {further : α → Listing} (begins : Logs action made)
    (continues : ∀ result, Logs (next result) (further result)) :
    Logs (action >>= next) (made.andThen action further) := by
  intro context
  have begun := begins context
  change declaredIn (Eval.after (EStateM.bind action next) context).log = _
  unfold Eval.after at begun
  unfold Eval.after EStateM.bind Listing.andThen
  cases answer : action context with
  | ok result middle =>
      rw [answer] at begun
      have rest := continues result middle
      unfold Eval.after at rest
      simp only [rest, begun, List.map_append, List.append_assoc]
  | error stop middle =>
      rw [answer] at begun
      simp only [begun, List.append_nil]

theorem logs_bind_nothing {next : α → Eval β} (begins : Logs action made)
    (continues : ∀ result, Logs (next result) nothing) : Logs (action >>= next) made :=
  and_then_nothing made action ▸ logs_bind begins continues

theorem logs_between {before after : Context → Context} (acts : Logs action made)
    (entered : ∀ context, declaredIn (before context).log = declaredIn context.log)
    (left : ∀ context, declaredIn (after context).log = declaredIn context.log) :
    Logs (between before after action) fun context => made (before context) := by
  intro context
  have inside := acts (before context)
  unfold Eval.after at inside
  unfold Eval.after between
  cases answer : action (before context) with
  | ok result inner =>
      rw [answer] at inside
      rw [left, inside, entered]
  | error stop inner =>
      rw [answer] at inside
      rw [left, inside, entered]

theorem logs_indented (acts : Logs action made) : Logs (indented action) fun context => made context.indent :=
  logs_between acts (fun _ => rfl) fun _ => rfl

theorem logs_in_scope (acts : Logs action made) :
    Logs (inScope action) fun context => made context.enterScope.indent :=
  logs_between acts (fun _ => rfl) fun context => declared_in_leave context.unindent

theorem logs_traced {event : Event} (quiet : ∀ depth, (Record.step depth event).declaredName? = none)
    (acts : Logs action made) :
    Logs (do trace event; action) fun context => made (context.trace event) := by
  intro context
  have begun : declaredIn (context.trace event).log = declaredIn context.log := by
    rw [Context.trace, declared_in_cons, quiet, Option.toList_none, List.append_nil]
  exact (acts (context.trace event)).trans (by rw [begun])

theorem logs_then_trace {event : Event} (quiet : ∀ depth, (Record.step depth event).declaredName? = none)
    (acts : Logs action made) : Logs (do let value ← action; trace event; return value) made :=
  logs_bind_nothing acts fun value => logs_traced quiet (logs_pure value)

theorem logs_declare (line : Nat) (name : String) (value : Value) :
    Logs (declare name value) fun context => [⟨line, name, context.symbols⟩] := by
  intro context
  change declaredIn ((context.trace (.declaration name value)).declare name value).log = _
  rw [Context.declare_log, Context.trace, declared_in_cons]
  rfl

theorem logs_read (line : Nat) (name : String) : Logs (readVariable line name) nothing :=
  logs_nothing fun _ => meets_read (fun _ _ => (declared_in_cons _ _).trans (List.append_nil _)) fun _ => rfl

theorem logs_assign (line : Nat) (value : Value) (target : Expr) : Logs (assign line value target) nothing := by
  cases target with
  | identifier _ name => exact logs_nothing fun _ => meets_assign (fun _ _ => rfl) fun _ => rfl
  | _ => exact logs_fail line .invalidAssignmentTarget

theorem logs_call (line : Nat) (name : String) (values : List Value) : Logs (call line name values) nothing := by
  unfold call
  cases Builtin.find? name with
  | none =>
      have failed : Logs (fail line (.undefinedFunction name) : Eval Value) nothing := logs_fail line _
      exact logs_traced (fun _ => rfl) failed
  | some builtin =>
      have invoked : Logs (invoke line builtin values) nothing :=
        logs_nothing fun _ => meets_invoke (fun _ _ _ => rfl) fun _ _ _ => rfl
      exact logs_traced (fun _ => rfl) invoked

theorem logs_repeat {test : Eval Bool} {body : Eval Value} {inTest inBody : Listing} (tests : Logs test inTest)
    (turns : Logs body inBody) (fuel : Nat) (last : Value) :
    Logs (repeatWhile test body fuel last) (Listing.turns test body inTest inBody fuel) := by
  induction fuel generalizing last with
  | zero => exact logs_nothing fun _ => rfl
  | succ fuel ih =>
      apply logs_bind tests
      intro goesOn
      cases goesOn with
      | false => exact logs_pure last
      | true => exact logs_bind turns ih

end Actions

mutual

theorem eval_logs (fuel : Nat) (expr : Expr) : Logs (expr.eval fuel) (expr.declarations fuel) := by
  match expr with
  | .block _ statements =>
      simp only [Expr.eval, Expr.declarations]
      exact logs_traced (fun _ => rfl) (logs_then_trace (fun _ => rfl)
        (logs_in_scope (all_log fuel statements .none)))
  | .declare line name none => exact logs_declare line name .none
  | .declare line name (some initializer) =>
      simp only [Expr.eval, Expr.declarations]
      exact logs_bind (eval_logs fuel initializer) (logs_declare line name)
  | .branch line condition thenBranch none =>
      simp only [Expr.eval, Expr.declarations]
      apply logs_traced fun _ => rfl
      apply logs_bind (eval_logs fuel condition)
      intro value
      cases value.asBoolean with
      | error fault => exact logs_fail line fault
      | ok taken =>
          cases taken with
          | true => exact logs_then_trace (fun _ => rfl) (eval_logs fuel thenBranch)
          | false => exact logs_then_trace (fun _ => rfl) (logs_pure Value.none)
  | .branch line condition thenBranch (some elseBranch) =>
      simp only [Expr.eval, Expr.declarations]
      apply logs_traced fun _ => rfl
      apply logs_bind (eval_logs fuel condition)
      intro value
      cases value.asBoolean with
      | error fault => exact logs_fail line fault
      | ok taken =>
          cases taken with
          | true => exact logs_then_trace (fun _ => rfl) (eval_logs fuel thenBranch)
          | false => exact logs_then_trace (fun _ => rfl) (eval_logs fuel elseBranch)
  | .loop line condition body =>
      have test : Logs (do onLine line (← condition.eval fuel).asBoolean) (condition.declarations fuel) :=
        logs_bind_nothing (eval_logs fuel condition) fun value => logs_on_line line value.asBoolean
      simp only [Expr.eval, Expr.declarations]
      exact logs_traced (fun _ => rfl) (logs_then_trace (fun _ => rfl)
        (logs_repeat test (eval_logs fuel body) fuel .none))
  | .binary line operator left right =>
      have operands : Logs (do
          let x ← left.eval fuel
          let y ← right.eval fuel
          return (x, y)) ((left.declarations fuel).andThen (left.eval fuel) fun _ => right.declarations fuel) :=
        logs_bind (eval_logs fuel left) fun x =>
          logs_bind_nothing (eval_logs fuel right) fun y => logs_pure (x, y)
      have applied : ∀ values : Value × Value, Logs (if operator = "=" then assign line values.2 left
          else onLine line (applyBinary operator values.1 values.2)) nothing := by
        intro values
        by_cases assigns : operator = "="
        · rw [if_pos assigns]
          exact logs_assign line values.2 left
        · rw [if_neg assigns]
          exact logs_on_line line (applyBinary operator values.1 values.2)
      simp only [Expr.eval, Expr.declarations]
      exact logs_traced (fun _ => rfl) (logs_bind_nothing (logs_indented operands) applied)
  | .unary line operator operand =>
      simp only [Expr.eval, Expr.declarations]
      exact logs_traced (fun _ => rfl) (logs_bind_nothing (logs_indented (eval_logs fuel operand)) fun value =>
        logs_on_line line (applyUnary operator value))
  | .literal line text => exact logs_traced (fun _ => rfl) (logs_on_line line (Value.ofLiteral text))
  | .identifier line name => exact logs_read line name
  | .call line name arguments =>
      simp only [Expr.eval, Expr.declarations]
      exact logs_bind_nothing (arguments_log fuel arguments) (logs_call line name)
  | .empty _ => exact logs_pure Value.none

theorem all_log (fuel : Nat) (exprs : List Expr) (last : Value) :
    Logs (evalAll fuel exprs last) (declarationsOfAll fuel exprs) := by
  match exprs with
  | [] => exact logs_pure last
  | first :: others =>
      simp only [evalAll, declarationsOfAll]
      exact logs_bind (eval_logs fuel first) fun value => all_log fuel others value

theorem arguments_log (fuel : Nat) (exprs : List Expr) :
    Logs (evalArguments fuel exprs) (declarationsOfAll fuel exprs) := by
  match exprs with
  | [] => exact logs_pure []
  | first :: others =>
      simp only [evalArguments, declarationsOfAll]
      exact logs_bind (eval_logs fuel first) fun value =>
        logs_bind_nothing (arguments_log fuel others) fun values => logs_pure (value :: values)

end

theorem execute_logs (fuel : Nat) (program : Program) : Logs (program.execute fuel) (program.declarations fuel) := by
  have recorded : ∀ value, Logs (do modify (Context.record (.evaluated value)); return value) nothing :=
    fun value => logs_nothing fun _ => (declared_in_cons _ _).trans (List.append_nil _)
  exact logs_traced (fun _ => rfl) (logs_bind_nothing (logs_in_scope (all_log fuel program.statements .none))
    fun value => logs_traced (fun _ => rfl) (recorded value))

end Scriptlet
