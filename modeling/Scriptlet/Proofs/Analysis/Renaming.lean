import Scriptlet.Proofs.Analysis.Lines
import Scriptlet.Proofs.Expr.Renaming
import Scriptlet.Proofs.SymbolTable.Renaming

set_option autoImplicit false

namespace Scriptlet

namespace Survey

def rename (newName : String → String) (survey : Survey) : Survey :=
  ⟨survey.symbols.rename newName, survey.log.map (Record.rename newName)⟩

variable {newName : String → String}

@[simp] theorem rename_enter (survey : Survey) :
    (survey.rename newName).enterScope = survey.enterScope.rename newName := by
  simp only [enterScope, rename, SymbolTable.rename_enter]

@[simp] theorem rename_leave (survey : Survey) :
    (survey.rename newName).leaveScope = survey.leaveScope.rename newName := by
  simp only [leaveScope, rename, SymbolTable.rename_leave]
  cases survey.symbols.leave? with
  | none => rfl
  | some answer => rfl

variable (injective : Function.Injective newName)
include injective

theorem rename_declared_here (name : String) (survey : Survey) :
    (survey.rename newName).isDeclaredHere (newName name) = survey.isDeclaredHere name :=
  survey.symbols.rename_declared_here injective name

theorem rename_declare (name : String) (survey : Survey) :
    (survey.rename newName).declare (newName name) = (survey.declare name).rename newName := by
  simp only [declare, rename, SymbolTable.rename_declare injective]
  cases survey.symbols.declare name .none with
  | none => rfl
  | some answer => rfl

theorem rename_visible (name : String) (survey : Survey) :
    (survey.rename newName).isVisible (newName name) = survey.isVisible name := by
  simp only [isVisible, rename, SymbolTable.rename_lookup injective]

end Survey

def Check.Echoes {α : Type} (newName : String → String) (check other : Check α) : Prop :=
  Scriptlet.Echoes (Located.mapCause (SemanticFault.rename newName)) (Survey.rename newName) check other

namespace Check

variable {newName : String → String}

theorem echoes_fail {α : Type} (line : Nat) (fault : SemanticFault) :
    Echoes newName (fail line fault : Check α) (fail line (fault.rename newName)) := fun _ => rfl

theorem echoes_unless {condition : Bool} {line : Nat} {fault : SemanticFault} {check other : Check Unit}
    (echoes : Echoes newName check other) :
    Echoes newName (if condition then do fail line fault; check else check)
      (if condition then do fail line (fault.rename newName); other else other) := by
  cases condition with
  | true => exact echoes_bind (echoes_fail line fault) fun _ => echoes
  | false => exact echoes

theorem echoes_in_scope {check other : Check Unit} (echoes : Echoes newName check other) :
    Echoes newName (inScope check) (inScope other) := by
  intro survey
  rw [inScope, inScope, Survey.rename_enter, echoes survey.enterScope]
  cases check survey.enterScope with
  | ok _ after => exact congrArg (EStateM.Result.ok ()) (Survey.rename_leave after)
  | error error after => exact congrArg (EStateM.Result.error _) (Survey.rename_leave after)

variable (injective : Function.Injective newName)
include injective

theorem echoes_declare (line : Nat) (name : String) :
    Echoes newName (declare line name) (declare line (newName name)) := by
  intro survey
  rw [declare_run, declare_run, Survey.rename_declared_here injective]
  cases survey.isDeclaredHere name with
  | true => rfl
  | false => exact congrArg (EStateM.Result.ok ()) (Survey.rename_declare injective name survey)

theorem echoes_identifier (line : Nat) (name : String) :
    Echoes newName (Expr.identifier line name).check (Expr.identifier line (newName name)).check := by
  intro survey
  rw [identifier_run, identifier_run, Survey.rename_visible injective]
  cases survey.isVisible name with
  | true => rfl
  | false => rfl

end Check

section Trees

open Check

@[simp] theorem line_rename (newName : String → String) (expr : Expr) : (expr.rename newName).line = expr.line := by
  cases expr with
  | declare _ _ initializer => cases initializer <;> rfl
  | branch _ _ _ elseBranch => cases elseBranch <;> rfl
  | _ => rfl

@[simp] theorem never_boolean_rename (newName : String → String) (expr : Expr) :
    (expr.rename newName).isNeverBoolean = expr.isNeverBoolean := by
  cases expr with
  | declare _ _ initializer => cases initializer <;> rfl
  | branch _ _ _ elseBranch => cases elseBranch <;> rfl
  | _ => rfl

@[simp] theorem is_identifier_rename (newName : String → String) (expr : Expr) :
    (expr.rename newName).isIdentifier = expr.isIdentifier := by
  cases expr with
  | declare _ _ initializer => cases initializer <;> rfl
  | branch _ _ _ elseBranch => cases elseBranch <;> rfl
  | _ => rfl

variable {newName : String → String}

mutual

theorem check_echoes (injective : Function.Injective newName) (expr : Expr) :
    Check.Echoes newName expr.check (expr.rename newName).check := by
  match expr with
  | .block _ statements =>
      simp only [Expr.rename, Expr.check]
      exact echoes_in_scope (check_all_echoes injective statements)
  | .declare line name none => exact echoes_declare injective line name
  | .declare line name (some initializer) =>
      simp only [Expr.rename, Expr.check]
      exact echoes_bind (check_echoes injective initializer) fun _ => echoes_declare injective line name
  | .branch _ condition thenBranch none =>
      simp only [Expr.rename, Expr.check, never_boolean_rename, line_rename]
      apply echoes_unless
      apply echoes_bind (check_echoes injective condition)
      intro _
      exact echoes_bind (check_echoes injective thenBranch) fun _ => echoes_pure ()
  | .branch _ condition thenBranch (some elseBranch) =>
      simp only [Expr.rename, Expr.check, never_boolean_rename, line_rename]
      apply echoes_unless
      apply echoes_bind (check_echoes injective condition)
      intro _
      exact echoes_bind (check_echoes injective thenBranch) fun _ => check_echoes injective elseBranch
  | .loop _ condition body =>
      simp only [Expr.rename, Expr.check, never_boolean_rename, line_rename]
      apply echoes_unless
      exact echoes_bind (check_echoes injective condition) fun _ => check_echoes injective body
  | .binary line operator left right =>
      simp only [Expr.rename, Expr.check, is_identifier_rename]
      apply echoes_unless
      exact echoes_bind (check_echoes injective left) fun _ => check_echoes injective right
  | .unary _ _ operand =>
      simp only [Expr.rename, Expr.check]
      exact check_echoes injective operand
  | .literal _ _ => exact echoes_pure ()
  | .identifier line name => exact echoes_identifier injective line name
  | .call line name arguments =>
      simp only [Expr.rename, Expr.check]
      apply echoes_unless
      exact check_all_echoes injective arguments
  | .empty _ => exact echoes_pure ()

theorem check_all_echoes (injective : Function.Injective newName) (exprs : List Expr) :
    Check.Echoes newName (checkAll exprs) (checkAll (renameAll newName exprs)) := by
  match exprs with
  | [] => exact echoes_pure ()
  | first :: others =>
      simp only [renameAll, checkAll]
      exact echoes_bind (check_echoes injective first) fun _ => check_all_echoes injective others

end

theorem analyze_renamed (injective : Function.Injective newName) (program : Program) :
    (program.rename newName).analyze =
      program.analyze.mapError (Located.mapCause (SemanticFault.rename newName)) := by
  have echoes : Check.Echoes newName program.check (program.rename newName).check := by
    apply echoes_bind (echoes_in_scope (check_all_echoes injective program.statements))
    exact fun _ => echoes_modify fun _ => rfl
  have answer := echoes {}
  change (program.rename newName).check {} = _ at answer
  rw [Program.analyze, Program.analyze, answer]
  cases program.check {} with
  | ok _ after => rfl
  | error error after => rfl

end Trees

end Scriptlet
