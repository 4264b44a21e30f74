import Mathlib.Logic.Equiv.Basic
import Scriptlet.Proofs.Analysis.Renaming
import Scriptlet.Proofs.Evaluation.Isolation
import Scriptlet.Proofs.Evaluation.ValueFault

set_option autoImplicit false

namespace Scriptlet

namespace Context

def rename (newName : String → String) (context : Context) : Context :=
  { context with
    symbols := context.symbols.rename newName
    log := context.log.map (Record.rename newName) }

variable {newName : String → String}

@[simp] theorem rename_enter (context : Context) :
    (context.rename newName).enterScope = context.enterScope.rename newName := by
  simp only [enterScope, rename, SymbolTable.rename_enter]

@[simp] theorem rename_leave (context : Context) :
    (context.rename newName).leaveScope = context.leaveScope.rename newName := by
  simp only [leaveScope, rename, SymbolTable.rename_leave]
  cases context.symbols.leave? with
  | none => rfl
  | some answer => rfl

theorem rename_declare (injective : Function.Injective newName) (name : String) (value : Value)
    (context : Context) :
    (context.rename newName).declare (newName name) value = (context.declare name value).rename newName := by
  simp only [declare, rename, SymbolTable.rename_declare injective]
  cases context.symbols.declare name value with
  | none => rfl
  | some answer => rfl

end Context

def Stop.mapFailure {ε : Type} (change : ε → ε) : Stop ε → Stop ε
  | .failed error => .failed (change error)
  | .outOfFuel => .outOfFuel

def Eval.Echoes {α : Type} (newName : String → String) (action other : Eval α) : Prop :=
  Scriptlet.Echoes (Stop.mapFailure (Located.mapCause (RuntimeFault.rename newName)))
    (Context.rename newName) action other

theorem rename_fault (newName : String → String) {fault : RuntimeFault}
    (nameless : fault.isAboutNames = false) : fault.rename newName = fault := by
  cases fault with
  | undefinedSymbol name => cases nameless
  | _ => rfl

namespace Eval

section Actions

variable {α : Type} {newName : String → String}

theorem echoes_fail (line : Nat) (fault : RuntimeFault) :
    Echoes newName (fail line fault : Eval α) (fail line (fault.rename newName)) := fun _ => rfl

theorem echoes_trace (event : Event) : Echoes newName (trace event) (trace (event.rename newName)) :=
  fun _ => rfl

theorem echoes_on_line (line : Nat) {outcome : Except RuntimeFault α}
    (nameless : ∀ fault, outcome = .error fault → fault.isAboutNames = false) :
    Echoes newName (onLine line outcome) (onLine line outcome) := by
  cases outcome with
  | ok result => exact echoes_pure result
  | error fault =>
      have echoes : Echoes newName (fail line fault : Eval α) (fail line (fault.rename newName)) :=
        echoes_fail line fault
      rwa [rename_fault newName (nameless fault rfl)] at echoes

theorem echoes_between {before after : Context → Context} {action other : Eval α}
    (entering : ∀ context : Context, before (context.rename newName) = (before context).rename newName)
    (leaving : ∀ context : Context, after (context.rename newName) = (after context).rename newName)
    (echoes : Echoes newName action other) :
    Echoes newName (between before after action) (between before after other) := by
  intro context
  rw [between, between, entering, echoes (before context)]
  cases action (before context) with
  | ok result inner => exact congrArg (EStateM.Result.ok result) (leaving inner)
  | error stop inner => exact congrArg (EStateM.Result.error _) (leaving inner)

theorem echoes_indented {action other : Eval α} (echoes : Echoes newName action other) :
    Echoes newName (indented action) (indented other) :=
  echoes_between (fun _ => rfl) (fun _ => rfl) echoes

theorem echoes_in_scope {action other : Eval α} (echoes : Echoes newName action other) :
    Echoes newName (inScope action) (inScope other) :=
  echoes_between (fun context => congrArg Context.indent (Context.rename_enter context))
    (fun context => Context.rename_leave context.unindent) echoes

-- Both loops take the same turns, and run out of fuel in the same one.
theorem echoes_repeat {test otherTest : Eval Bool} {body otherBody : Eval Value}
    (tests : Echoes newName test otherTest) (turns : Echoes newName body otherBody) (fuel : Nat)
    (last : Value) :
    Echoes newName (repeatWhile test body fuel last) (repeatWhile otherTest otherBody fuel last) := by
  induction fuel generalizing last with
  | zero => exact fun _ => rfl
  | succ fuel ih =>
      apply echoes_bind tests
      intro goesOn
      cases goesOn with
      | false => exact echoes_pure last
      | true => exact echoes_bind turns ih

theorem echoes_invoke (line : Nat) (builtin : Builtin) (arguments : List Value) :
    Echoes newName (invoke line builtin arguments) (invoke line builtin arguments) := by
  intro context
  obtain ⟨symbols, output, depth, log⟩ := context
  simp only [Context.rename, invoke]
  cases answer : builtin.invoke arguments output with
  | ok result written => rfl
  | error fault written =>
      have same : fault.rename newName = fault := rename_fault newName (invoke_fault answer)
      simp only [echoed, Stop.mapFailure, Located.mapCause, same, Context.rename]

theorem echoes_call (line : Nat) (name : String) (arguments : List Value) :
    Echoes newName (call line name arguments) (call line name arguments) := by
  apply echoes_bind (echoes_trace _)
  intro _
  cases Builtin.find? name with
  | none => exact echoes_fail line (.undefinedFunction name)
  | some builtin => exact echoes_invoke line builtin arguments

theorem echoes_then_trace {event : Event} {action other : Eval α} (echoes : Echoes newName action other) :
    Echoes newName (do let value ← action; trace event; return value)
      (do let value ← other; trace (event.rename newName); return value) := by
  apply echoes_bind echoes
  intro value
  exact echoes_bind (echoes_trace event) fun _ => echoes_pure value

theorem echoes_test (line : Nat) {condition other : Eval Value} (echoes : Echoes newName condition other) :
    Echoes newName (do onLine line (← condition).asBoolean) (do onLine line (← other).asBoolean) :=
  echoes_bind echoes fun _ => echoes_on_line line fun _ => as_boolean_fault

theorem echoes_branch (line : Nat) {condition otherCondition action otherAction : Eval Value}
    {alternative otherAlternative : Eval Value} (tests : Echoes newName condition otherCondition)
    (acts : Echoes newName action otherAction) (otherwise : Echoes newName alternative otherAlternative) :
    Echoes newName
      (do
        trace .branchBegin
        let value ← if ← onLine line (← condition).asBoolean then action else alternative
        trace .branchEnd
        return value)
      (do
        trace .branchBegin
        let value ← if ← onLine line (← otherCondition).asBoolean then otherAction else otherAlternative
        trace .branchEnd
        return value) := by
  apply echoes_bind (echoes_trace .branchBegin)
  intro _
  apply echoes_bind tests
  intro value
  apply echoes_bind (echoes_on_line line fun _ => as_boolean_fault)
  intro holds
  cases holds with
  | true => exact echoes_then_trace acts
  | false => exact echoes_then_trace otherwise

variable (injective : Function.Injective newName)
include injective

theorem echoes_declare (name : String) (value : Value) :
    Echoes newName (declare name value) (declare (newName name) value) := by
  apply echoes_bind (echoes_trace (.declaration name value))
  intro _
  apply echoes_bind (echoes_modify (Context.rename_declare injective name value))
  exact fun _ => echoes_pure value

theorem echoes_read (line : Nat) (name : String) :
    Echoes newName (readVariable line name) (readVariable line (newName name)) := by
  intro context
  have found : ((context.rename newName).symbols.lookup (newName name)).bind
      (context.rename newName).symbols.get? = (context.symbols.lookup name).bind context.symbols.get? := by
    have gets : (context.symbols.rename newName).get? = context.symbols.get? :=
      funext (SymbolTable.rename_get context.symbols)
    rw [Context.rename, SymbolTable.rename_lookup injective, gets]
  rw [read_variable_run, read_variable_run, found]
  cases (context.symbols.lookup name).bind context.symbols.get? with
  | none => rfl
  | some value => rfl

theorem echoes_assign_variable (line : Nat) (name : String) (value : Value) :
    Echoes newName (assignVariable line name value) (assignVariable line (newName name) value) := by
  intro context
  have found : ((context.rename newName).symbols.lookup (newName name)).bind
      ((context.rename newName).symbols.set? · value) =
      ((context.symbols.lookup name).bind (context.symbols.set? · value)).map
        (SymbolTable.rename newName) := by
    rw [Context.rename, SymbolTable.rename_lookup injective]
    cases context.symbols.lookup name with
    | none => rfl
    | some handle => exact SymbolTable.rename_set context.symbols handle value
  rw [assign_variable_run, assign_variable_run, found]
  cases (context.symbols.lookup name).bind (context.symbols.set? · value) with
  | none => rfl
  | some symbols => rfl

theorem echoes_assign (line : Nat) (value : Value) (target : Expr) :
    Echoes newName (assign line value target) (assign line value (target.rename newName)) := by
  cases target with
  | identifier _ name => exact echoes_assign_variable injective line name value
  | declare _ _ initializer => cases initializer <;> exact echoes_fail line .invalidAssignmentTarget
  | branch _ _ _ elseBranch => cases elseBranch <;> exact echoes_fail line .invalidAssignmentTarget
  | _ => exact echoes_fail line .invalidAssignmentTarget

end Actions

end Eval

section Trees

open Eval

variable {newName : String → String} {fuel : Nat}

mutual

theorem eval_echoes (injective : Function.Injective newName) (expr : Expr) :
    Eval.Echoes newName (expr.eval fuel) ((expr.rename newName).eval fuel) := by
  match expr with
  | .block _ statements =>
      simp only [Expr.rename, Expr.eval]
      apply echoes_bind (echoes_trace .blockBegin)
      intro _
      exact echoes_then_trace (echoes_in_scope (eval_all_echoes injective statements .none))
  | .declare _ name none => exact echoes_declare injective name .none
  | .declare _ name (some initializer) =>
      simp only [Expr.rename, Expr.eval]
      apply echoes_bind (eval_echoes injective initializer)
      exact fun value => echoes_declare injective name value
  | .branch line condition thenBranch none =>
      simp only [Expr.rename, Expr.eval]
      exact echoes_branch line (eval_echoes injective condition) (eval_echoes injective thenBranch)
        (echoes_pure Value.none)
  | .branch line condition thenBranch (some elseBranch) =>
      simp only [Expr.rename, Expr.eval]
      exact echoes_branch line (eval_echoes injective condition) (eval_echoes injective thenBranch)
        (eval_echoes injective elseBranch)
  | .loop line condition body =>
      have test := echoes_test line (eval_echoes injective condition)
      simp only [Expr.rename, Expr.eval]
      apply echoes_bind (echoes_trace .loopBegin)
      intro _
      exact echoes_then_trace (echoes_repeat test (eval_echoes injective body) fuel .none)
  | .binary line operator left right =>
      have operands : Eval.Echoes newName
          (do
            let x ← left.eval fuel
            let y ← right.eval fuel
            return (x, y))
          (do
            let x ← (left.rename newName).eval fuel
            let y ← (right.rename newName).eval fuel
            return (x, y)) := by
        apply echoes_bind (eval_echoes injective left)
        intro x
        exact echoes_bind (eval_echoes injective right) fun y => echoes_pure (x, y)
      simp only [Expr.rename, Expr.eval]
      apply echoes_bind (echoes_trace (.binary operator))
      intro _
      apply echoes_bind (echoes_indented operands)
      intro values
      by_cases assigns : operator = "="
      · rw [if_pos assigns, if_pos assigns]
        exact echoes_assign injective line values.2 left
      · rw [if_neg assigns, if_neg assigns]
        exact echoes_on_line line fun _ => apply_binary_fault
  | .unary line operator operand =>
      simp only [Expr.rename, Expr.eval]
      apply echoes_bind (echoes_trace (.unary operator))
      intro _
      apply echoes_bind (echoes_indented (eval_echoes injective operand))
      exact fun value => echoes_on_line line fun _ => apply_unary_fault
  | .literal line text =>
      simp only [Expr.rename, Expr.eval]
      apply echoes_bind (echoes_trace (.literal text))
      exact fun _ => echoes_on_line line fun _ => of_literal_fault
  | .identifier line name => exact echoes_read injective line name
  | .call line name arguments =>
      simp only [Expr.rename, Expr.eval]
      apply echoes_bind (eval_arguments_echoes injective arguments)
      exact fun values => echoes_call line name values
  | .empty _ => exact echoes_pure Value.none

theorem eval_all_echoes (injective : Function.Injective newName) (exprs : List Expr) (last : Value) :
    Eval.Echoes newName (evalAll fuel exprs last) (evalAll fuel (renameAll newName exprs) last) := by
  match exprs with
  | [] => exact echoes_pure last
  | first :: others =>
      simp only [renameAll, evalAll]
      apply echoes_bind (eval_echoes injective first)
      exact fun value => eval_all_echoes injective others value

theorem eval_arguments_echoes (injective : Function.Injective newName) (exprs : List Expr) :
    Eval.Echoes newName (evalArguments fuel exprs) (evalArguments fuel (renameAll newName exprs)) := by
  match exprs with
  | [] => exact echoes_pure []
  | first :: others =>
      simp only [renameAll, evalArguments]
      apply echoes_bind (eval_echoes injective first)
      intro value
      apply echoes_bind (eval_arguments_echoes injective others)
      exact fun values => echoes_pure (value :: values)

end

theorem execute_echoes (injective : Function.Injective newName) (program : Program) :
    Eval.Echoes newName (program.execute fuel) ((program.rename newName).execute fuel) := by
  apply echoes_bind (echoes_trace .programBegin)
  intro _
  apply echoes_bind (echoes_in_scope (eval_all_echoes injective program.statements .none))
  intro value
  apply echoes_bind (echoes_trace .programEnd)
  intro _
  exact echoes_bind (echoes_modify fun _ => rfl) fun _ => echoes_pure value

theorem finished_renamed (injective : Function.Injective newName) (program : Program) (context later : Context)
    (outcome : Except RuntimeError Value) :
    (program.rename newName).execute fuel (context.rename newName) = finished outcome later ↔
      ∃ origin after, program.execute fuel context = finished origin after ∧
        outcome = origin.mapError (Located.mapCause (RuntimeFault.rename newName)) ∧
        later = after.rename newName := by
  rw [execute_echoes injective program context]
  constructor
  · intro ends
    match answer : program.execute fuel context with
    | .ok value after =>
        rw [answer] at ends
        have same : finished (.ok value) (after.rename newName) = finished outcome later := ends
        obtain ⟨rfl, rfl⟩ := finished_injective same
        exact ⟨.ok value, after, rfl, rfl, rfl⟩
    | .error (.failed error) after =>
        rw [answer] at ends
        have same : finished (.error (error.mapCause (RuntimeFault.rename newName))) (after.rename newName) =
            finished outcome later := ends
        obtain ⟨rfl, rfl⟩ := finished_injective same
        exact ⟨.error error, after, rfl, rfl, rfl⟩
    | .error .outOfFuel after =>
        rw [answer] at ends
        cases outcome <;> cases ends
  · rintro ⟨origin, after, ends, rfl, rfl⟩
    rw [ends]
    cases origin with
    | ok value => rfl
    | error error => rfl

end Trees

/-- Variables may be renamed in any way that tells them apart, also like functions. Up to their names, the check
finds the same fault, and an execution that ends returns the same value or fails with the same error; it writes
the same output. -/
theorem renamed_program_behaves_alike (newName : String → String) (injective : Function.Injective newName)
    (program : Program) :
    (program.rename newName).analyze =
      program.analyze.mapError (Located.mapCause (SemanticFault.rename newName)) ∧
    ∀ (output : Sink) (outcome : Except RuntimeError Value) (later : Context),
      (program.rename newName).Ends { output } outcome later ↔
        ∃ origin after, program.Ends { output } origin after ∧
          outcome = origin.mapError (Located.mapCause (RuntimeFault.rename newName)) ∧
          later = after.rename newName ∧ later.output = after.output := by
  refine ⟨analyze_renamed injective program, fun output outcome later => ⟨?_, ?_⟩⟩
  · rintro ⟨fuel, ends⟩
    obtain ⟨origin, after, origins, rfl, rfl⟩ :=
      (finished_renamed injective program { output } later outcome).mp ends
    exact ⟨origin, after, ⟨fuel, origins⟩, rfl, rfl, rfl⟩
  · rintro ⟨origin, after, ⟨fuel, ends⟩, rfl, rfl, -⟩
    exact ⟨fuel, (finished_renamed injective program { output } _ _).mpr ⟨origin, after, ends, rfl, rfl⟩⟩

-- The program `{ let x = true; print(x); } x`, with a variable that is left behind.
def leftBehindProgram (name : String) : Program :=
  ⟨[.block 1 [.declare 1 name (some (.literal 1 "true")), .call 1 "print" [.identifier 1 name]],
    .identifier 2 name]⟩

theorem variable_called_like_function :
    (leftBehindProgram "x").rename (Equiv.swap "x" "print") = leftBehindProgram "print" ∧
    (leftBehindProgram "print").analyze = .error ⟨2, .undefinedVariable "print"⟩ ∧
    ∃ later, (leftBehindProgram "print").Ends {} (.error ⟨2, .undefinedSymbol "print"⟩) later ∧
      later.output.bytes = "true\n".toUTF8 := by
  have renamed : (leftBehindProgram "x").rename (Equiv.swap "x" "print") = leftBehindProgram "print" := by
    simp [leftBehindProgram, Program.rename]
  obtain ⟨checks, runs⟩ := renamed_program_behaves_alike _ (Equiv.swap "x" "print").injective
    (leftBehindProgram "x")
  rw [renamed] at checks runs
  have ends : (leftBehindProgram "x").Ends {} (.error ⟨2, .undefinedSymbol "x"⟩)
      (((leftBehindProgram "x").execute 0).after {}) := ⟨0, rfl⟩
  have written : (((leftBehindProgram "x").execute 0).after {}).output.bytes = "true\n".toUTF8 := by
    decide +kernel
  exact ⟨renamed, checks, _, (runs {} _ _).mpr ⟨_, _, ends, rfl, rfl, rfl⟩, written⟩

end Scriptlet
