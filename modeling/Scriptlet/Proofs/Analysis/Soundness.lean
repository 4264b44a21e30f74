import Mathlib.Data.List.Forall2
import Scriptlet.Proofs.Analysis.Scopes
import Scriptlet.Proofs.Evaluation.Outcome
import Scriptlet.Proofs.Evaluation.ValueFault
import Scriptlet.Proofs.SymbolTable.Valid

/-!
What an accepted program can still get wrong about names.

The check and the evaluation keep scopes side by side. The invariant `Covered` says that the scopes of the
evaluation declare every name that the check has seen, unless some declaration of it is conditional; the
induction `eval_covered` over the tree carries it along, and with it the faults that are tolerated.
-/

set_option autoImplicit false

namespace Scriptlet

open Eval

def Tolerated (conditional : String → Prop) (fault : RuntimeFault) : Prop :=
  fault.isAboutNames = true → ∃ name, fault = .undefinedSymbol name ∧ conditional name

structure Covered (conditional : String → Prop) (known : List (List String)) (table : SymbolTable) :
    Prop where
  valid : table.Valid
  covers : List.Forall₂ (fun names declared => ∀ name ∈ names, name ∈ declared ∨ conditional name)
    known table.declared

section Tables

variable {conditional : String → Prop} {known : List (List String)} {table : SymbolTable}

theorem covered_enter (covered : Covered conditional known table) :
    Covered conditional ([] :: known) table.enter where
  valid := table.enter_valid covered.valid
  covers := .cons (by simp) covered.covers

theorem covered_leave {names : List String} (covered : Covered conditional (names :: known) table) :
    ∃ released outer, table.leave? = some (released, outer) ∧ Covered conditional known outer := by
  have covers := covered.covers
  generalize declares : table.declared = declared at covers
  cases covers with
  | cons here further =>
      unfold SymbolTable.declared at declares
      obtain ⟨scope, outer, scopes, -, rest⟩ := List.map_eq_cons_iff.mp declares
      have left : table.leave? = some ((table.cells.drop scope.base).map Variable.name,
          ⟨table.cells.take scope.base, outer⟩) := by
        rw [SymbolTable.leave?, scopes]
      refine ⟨_, _, left, table.leave_valid _ _ covered.valid left, ?_⟩
      rw [table.leave_declared _ _ left, SymbolTable.declared, declares]
      exact further

theorem covered_declare (survey : Survey) (context : Context) (name : String) (value : Value)
    (fresh : survey.isDeclaredHere name = false) (covered : Covered conditional survey.scopes context.symbols) :
    Covered conditional (survey.declare name).scopes (context.declare name value).symbols := by
  obtain ⟨valid, covers⟩ := covered
  rw [survey.scopes_declare name fresh]
  unfold Context.declare
  cases done : context.symbols.declare name value with
  | none =>
      have unknown : survey.scopes = [] := by
        rwa [context.symbols.declare_closed name value done, List.forall₂_nil_right_iff] at covers
      rw [unknown] at covers ⊢
      exact ⟨valid, covers⟩
  | some answer =>
      obtain ⟨handle, after⟩ := answer
      obtain ⟨scope, grown, outer, before, declares, members⟩ :=
        context.symbols.declare_declared after name value handle done
      rw [before] at covers
      generalize survey.scopes = scopes at covers ⊢
      cases covers with
      | cons here further =>
          refine ⟨context.symbols.declare_valid after name value handle valid done, ?_⟩
          dsimp only
          rw [declares]
          refine .cons (fun other member => ?_) further
          rw [members other]
          rcases List.mem_cons.mp member with new | before
          · exact .inl (.inl new)
          · exact (here other before).imp_left .inr

theorem covered_grown {gained : String → Prop} {wider : List (List String)}
    (grown : Grown gained known wider) (allowed : ∀ name, gained name → conditional name)
    (covered : Covered conditional known table) : Covered conditional wider table := by
  obtain ⟨valid, covers⟩ := covered
  refine ⟨valid, ?_⟩
  cases grown with
  | closed => exact covers
  | opened names more outer all =>
      generalize table.declared = declared at covers ⊢
      cases covers with
      | cons here further =>
          refine .cons (List.forall_mem_append.mpr ⟨fun name member => ?_, here⟩) further
          exact .inr (allowed name (all name member))

theorem covered_shrunk {gained : String → Prop} {wider : List (List String)}
    (grown : Grown gained known wider) (covered : Covered conditional wider table) :
    Covered conditional known table := by
  obtain ⟨valid, covers⟩ := covered
  refine ⟨valid, ?_⟩
  cases grown with
  | closed => exact covers
  | opened names more outer all =>
      generalize table.declared = declared at covers ⊢
      cases covers with
      | cons here further => exact .cons (List.forall_mem_append.mp here).2 further

theorem covered_lookup (name : String) (covered : Covered conditional known table)
    (visible : ∃ names ∈ known, name ∈ names) (absent : table.lookup name = none) :
    conditional name := by
  rw [SymbolTable.lookup_eq_none] at absent
  obtain ⟨names, member, inNames⟩ := visible
  have covers := covered.covers
  clear covered
  generalize table.declared = declared at covers absent
  induction covers with
  | nil => cases member
  | cons here further ih =>
      rcases List.mem_cons.mp member with rfl | inOuter
      · rcases here name inNames with declares | isConditional
        · exact absurd declares (absent _ List.mem_cons_self)
        · exact isConditional
      · exact ih inOuter fun scope inScopes => absent scope (List.mem_cons_of_mem _ inScopes)

end Tables

def StopTolerated (conditional : String → Prop) (stop : Stop RuntimeError) : Prop :=
  ∀ error, stop = .failed error → Tolerated conditional error.cause

def Safe {α : Type} (conditional : String → Prop) (known : List (List String)) (action : Eval α)
    (context : Context) : Prop :=
  Meets (fun _ after => Covered conditional known after.symbols)
    (fun stop _ => StopTolerated conditional stop) action context

section Actions

variable {α β : Type} {conditional : String → Prop} {known : List (List String)} {context : Context}

theorem safe_pure {result : α} (covered : Covered conditional known context.symbols) :
    Safe conditional known (pure result) context :=
  meets_pure covered

theorem safe_bind {between : List (List String)} {first : Eval α} {next : α → Eval β}
    (safe : Safe conditional between first context)
    (continues : ∀ result after, Covered conditional between after.symbols →
      Safe conditional known (next result) after) : Safe conditional known (first >>= next) context :=
  meets_bind safe continues

theorem safe_trace {event : Event} (covered : Covered conditional known context.symbols) :
    Safe conditional known (trace event) context :=
  meets_trace covered

theorem value_fault_tolerated {line : Nat} {fault : RuntimeFault} (value : fault.isAboutNames = false) :
    StopTolerated conditional (.failed ⟨line, fault⟩) := by
  rintro error ⟨⟩ aboutNames
  rw [value] at aboutNames
  cases aboutNames

theorem symbol_fault_tolerated {line : Nat} {name : String} (isConditional : conditional name) :
    StopTolerated conditional (.failed ⟨line, .undefinedSymbol name⟩) := by
  rintro error ⟨⟩ -
  exact ⟨name, rfl, isConditional⟩

theorem safe_on_line {line : Nat} {outcome : Except RuntimeFault α}
    (covered : Covered conditional known context.symbols)
    (faults : ∀ fault, outcome = .error fault → fault.isAboutNames = false) :
    Safe conditional known (onLine line outcome) context :=
  meets_on_line (fun _ _ => covered) fun fault failed => value_fault_tolerated (faults fault failed)

theorem safe_in_scope {names : List String} {action : Eval α}
    (safe : Safe conditional (names :: known) action context.enterScope.indent) :
    Safe conditional known (inScope action) context := by
  apply meets_between
  apply meets_mono safe
  · intro _ inner covered
    obtain ⟨released, outer, left, outside⟩ := covered_leave covered
    have leaves : (inner.unindent.leaveScope).symbols = outer := by
      change inner.unindent.symbols.leave? = _ at left
      rw [Context.leaveScope, left]
    rw [Function.comp_apply, leaves]
    exact outside
  · exact fun _ _ tolerated => tolerated

theorem safe_entered {gained : String → Prop} {survey inner : Survey} {action : Eval α}
    (grown : Grown gained survey.enterScope.scopes inner.scopes)
    (safe : ∀ context, Covered conditional survey.enterScope.scopes context.symbols →
      Safe conditional inner.scopes action context)
    (covered : Covered conditional survey.scopes context.symbols) :
    Safe conditional inner.leaveScope.scopes (inScope action) context := by
  obtain ⟨names, scopes⟩ := grown_enter survey inner grown
  have within := safe context.enterScope.indent (covered_enter covered)
  rw [scopes] at within
  rw [grown_leave survey inner grown]
  exact safe_in_scope within

theorem safe_then_trace {event : Event} {action : Eval α} (safe : Safe conditional known action context) :
    Safe conditional known (do let value ← action; trace event; return value) context := by
  apply safe_bind safe
  intro value after covered
  apply safe_bind (safe_trace covered)
  exact fun _ _ covered => safe_pure covered

theorem safe_indented {action : Eval α} (safe : Safe conditional known action context.indent) :
    Safe conditional known (indented action) context :=
  meets_between safe

theorem safe_declare (survey : Survey) (name : String) (value : Value)
    (fresh : survey.isDeclaredHere name = false) (covered : Covered conditional survey.scopes context.symbols) :
    Safe conditional (survey.declare name).scopes (declare name value) context :=
  meets_declare (covered_declare survey (context.trace (.declaration name value)) name value fresh covered)

theorem safe_read (line : Nat) (name : String) (covered : Covered conditional known context.symbols)
    (visible : ∃ names ∈ known, name ∈ names) :
    Safe conditional known (readVariable line name) context := by
  apply meets_read (fun _ _ => covered)
  intro missing
  cases found : context.symbols.lookup name with
  | none => exact symbol_fault_tolerated (covered_lookup name covered visible found)
  | some handle =>
      obtain ⟨value, held⟩ := context.symbols.get_of_lookup name handle covered.valid found
      rw [found, Option.bind_some, held] at missing
      cases missing

theorem safe_assign (line : Nat) (name : String) (value : Value)
    (covered : Covered conditional known context.symbols) (visible : ∃ names ∈ known, name ∈ names) :
    Safe conditional known (assignVariable line name value) context := by
  cases found : context.symbols.lookup name with
  | none =>
      refine meets_assign (fun symbols assigned => ?_) fun _ =>
        symbol_fault_tolerated (covered_lookup name covered visible found)
      rw [found] at assigned
      cases assigned
  | some handle =>
      have assigned := context.symbols.set_of_lookup name handle value covered.valid found
      refine meets_assign (fun symbols same => ?_) fun missing => ?_
      · rw [found, Option.bind_some, assigned] at same
        cases same
        exact ⟨context.symbols.assign_valid handle value covered.valid, covered.covers⟩
      · rw [found, Option.bind_some, assigned] at missing
        cases missing

theorem safe_invoke (line : Nat) (builtin : Builtin) (arguments : List Value)
    (covered : Covered conditional known context.symbols) :
    Safe conditional known (invoke line builtin arguments) context :=
  meets_invoke (fun _ _ _ => covered) fun _ _ failed => value_fault_tolerated (invoke_fault failed)

-- Each turn begins with what the check knew before the loop; what the body gains is conditional.
theorem safe_repeat {gained : String → Prop} {before tested after : List (List String)}
    {test : Eval Bool} {body : Eval Value} (inTest : Grown gained before tested)
    (inBody : Grown conditional tested after)
    (tests : ∀ context, Covered conditional before context.symbols → Safe conditional tested test context)
    (turns : ∀ context, Covered conditional tested context.symbols → Safe conditional after body context)
    (fuel : Nat) (last : Value) (covered : Covered conditional before context.symbols) :
    Safe conditional after (repeatWhile test body fuel last) context := by
  refine meets_repeat (fun context => Covered conditional before context.symbols)
    (fun context => Covered conditional tested context.symbols) (fun context held => ?_)
    (fun context held => ?_) (fun context held => ?_) fuel last context covered
  · apply meets_mono (tests context held) _ fun _ _ tolerated => tolerated
    intro holds later ready
    cases holds with
    | true => exact ready
    | false => exact fun _ => covered_grown inBody (fun _ isConditional => isConditional) ready
  · apply meets_mono (turns context held) _ fun _ _ tolerated => tolerated
    exact fun _ later ready => covered_shrunk inTest (covered_shrunk inBody ready)
  · exact fun error impossible => nomatch impossible

end Actions

theorem visible_of_survey (survey : Survey) (name : String) (visible : survey.isVisible name = true) :
    ∃ names ∈ survey.scopes, name ∈ names :=
  (survey.symbols.lookup_is_some name).mp visible

theorem visible_grown {gained : String → Prop} {known wider : List (List String)} {name : String}
    (grown : Grown gained known wider) (visible : ∃ names ∈ known, name ∈ names) :
    ∃ names ∈ wider, name ∈ names := by
  cases grown with
  | closed => exact visible
  | opened names more outer all =>
      obtain ⟨scope, member, inScope⟩ := visible
      rcases List.mem_cons.mp member with rfl | inOuter
      · exact ⟨more ++ scope, List.mem_cons_self, List.mem_append_right _ inScope⟩
      · exact ⟨scope, List.mem_cons_of_mem _ inOuter, inScope⟩

variable {conditional : String → Prop}

theorem safe_condition (line fuel : Nat) {known : List (List String)} {context : Context}
    {condition : Expr} (safe : Safe conditional known (condition.eval fuel) context) :
    Safe conditional known (do onLine line (← condition.eval fuel).asBoolean) context := by
  apply safe_bind safe
  intro value after covered
  exact safe_on_line covered fun _ failed => as_boolean_fault failed

-- The check has looked at the target before the value, so it is known behind the value, too.
theorem safe_assign_target (line : Nat) (value : Value) (target : Expr) (survey after : Survey)
    (context : Context) (isName : target.isIdentifier = true)
    (checked : target.check survey = .ok () after) {gained : String → Prop}
    {known : List (List String)} (grown : Grown gained after.scopes known)
    (covered : Covered conditional known context.symbols) :
    Safe conditional known (assign line value target) context := by
  cases target with
  | identifier _ name =>
      obtain ⟨visible, rfl⟩ := check_identifier checked
      exact safe_assign line name value covered (visible_grown grown (visible_of_survey _ name visible))
  | _ => cases isName

mutual

theorem eval_covered (expr : Expr) (inside : Bool)
    (all : ∀ name ∈ expr.conditionalNames inside, conditional name) (survey after : Survey)
    (checked : expr.check survey = .ok () after) (fuel : Nat) (context : Context)
    (covered : Covered conditional survey.scopes context.symbols) :
    Safe conditional after.scopes (expr.eval fuel) context := by
  match expr with
  | .block _ statements =>
      simp only [Expr.check] at checked
      obtain ⟨inner, within, rfl⟩ := check_in_scope checked
      have grown := check_all_grows statements false conditional all survey.enterScope inner within
      simp only [Expr.eval]
      apply safe_bind (safe_trace covered)
      intro _ begun covered
      exact safe_then_trace (safe_entered grown (fun context held =>
        all_covered statements false all survey.enterScope inner within fuel .none context held) covered)
  | .declare line name none =>
      obtain ⟨fresh, rfl⟩ := check_declare checked
      exact safe_declare survey name .none fresh covered
  | .declare line name (some initializer) =>
      simp only [Expr.conditionalNames, List.forall_mem_append] at all
      obtain ⟨middle, first, fresh, rfl⟩ := check_initialized checked
      simp only [Expr.eval]
      apply safe_bind (eval_covered initializer inside all.1 survey middle first fuel context covered)
      intro value later covered
      exact safe_declare middle name value fresh covered
  | .branch line condition thenBranch none =>
      simp only [Expr.conditionalNames, List.forall_mem_append] at all
      obtain ⟨tested, first, second⟩ := check_branch checked
      have inThen := check_grows thenBranch true conditional all.2 tested after second
      simp only [Expr.eval]
      apply safe_bind (safe_trace covered)
      intro _ begun covered
      apply safe_bind (eval_covered condition inside all.1 survey tested first fuel begun covered)
      intro value later covered
      apply safe_bind (safe_on_line covered fun _ failed => as_boolean_fault failed)
      intro holds chosen covered
      cases holds with
      | true => exact safe_then_trace (eval_covered thenBranch true all.2 tested after second fuel chosen covered)
      | false => exact safe_then_trace (safe_pure (covered_grown inThen (fun _ gained => gained rfl) covered))
  | .branch line condition thenBranch (some elseBranch) =>
      simp only [Expr.conditionalNames, List.forall_mem_append] at all
      obtain ⟨tested, middle, first, second, third⟩ := check_alternative checked
      have inThen := check_grows thenBranch true conditional all.1.2 tested middle second
      have inElse := check_grows elseBranch true conditional all.2 middle after third
      simp only [Expr.eval]
      apply safe_bind (safe_trace covered)
      intro _ begun covered
      apply safe_bind (eval_covered condition inside all.1.1 survey tested first fuel begun covered)
      intro value later covered
      apply safe_bind (safe_on_line covered fun _ failed => as_boolean_fault failed)
      intro holds chosen covered
      -- The branch that is left out has gained conditional names only.
      cases holds with
      | true =>
          apply safe_bind (eval_covered thenBranch true all.1.2 tested middle second fuel chosen covered)
          intro value ended covered
          apply safe_bind (safe_trace (covered_grown inElse (fun _ gained => gained rfl) covered))
          exact fun _ _ covered => safe_pure covered
      | false =>
          exact safe_then_trace (eval_covered elseBranch true all.2 middle after third fuel chosen
            (covered_grown inThen (fun _ gained => gained rfl) covered))
  | .loop line condition body =>
      simp only [Expr.conditionalNames, List.forall_mem_append] at all
      obtain ⟨tested, first, second⟩ := check_loop checked
      have inTest := check_grows condition inside conditional all.1 survey tested first
      have inBody := check_grows body true conditional all.2 tested after second
      simp only [Expr.eval]
      apply safe_bind (safe_trace covered)
      intro _ begun covered
      exact safe_then_trace (safe_repeat inTest (grown_mono (fun name gained => gained rfl) inBody)
        (fun context held => safe_condition line fuel
          (eval_covered condition inside all.1 survey tested first fuel context held))
        (fun context held => eval_covered body true all.2 tested after second fuel context held)
        fuel .none covered)
  | .binary line operator left right =>
      simp only [Expr.conditionalNames, List.forall_mem_append] at all
      obtain ⟨target, middle, first, second⟩ := check_binary checked
      have inRight := check_grows right inside conditional all.2 middle after second
      have operands : ∀ context, Covered conditional survey.scopes context.symbols →
          Safe conditional after.scopes (do
            let x ← left.eval fuel
            let y ← right.eval fuel
            return (x, y)) context := by
        intro context held
        apply safe_bind (eval_covered left inside all.1 survey middle first fuel context held)
        intro x later held
        apply safe_bind (eval_covered right inside all.2 middle after second fuel later held)
        exact fun _ _ held => safe_pure held
      simp only [Expr.eval]
      apply safe_bind (safe_trace covered)
      intro _ begun covered
      apply safe_bind (safe_indented (operands begun.indent covered))
      intro values later covered
      by_cases assigns : operator = "="
      · rw [if_pos assigns]
        exact safe_assign_target line values.2 left survey middle later (target assigns) first inRight covered
      · rw [if_neg assigns]
        exact safe_on_line covered fun _ failed => apply_binary_fault failed
  | .unary line operator operand =>
      simp only [Expr.conditionalNames] at all
      simp only [Expr.check] at checked
      simp only [Expr.eval]
      apply safe_bind (safe_trace covered)
      intro _ begun covered
      apply safe_bind (safe_indented
        (eval_covered operand inside all survey after checked fuel begun.indent covered))
      exact fun _ _ covered => safe_on_line covered fun _ failed => apply_unary_fault failed
  | .literal line text =>
      cases checked
      simp only [Expr.eval]
      apply safe_bind (safe_trace covered)
      exact fun _ _ covered => safe_on_line covered fun _ failed => of_literal_fault failed
  | .identifier line name =>
      obtain ⟨visible, rfl⟩ := check_identifier checked
      exact safe_read line name covered (visible_of_survey _ name visible)
  | .call line name arguments =>
      simp only [Expr.conditionalNames] at all
      obtain ⟨⟨builtin, known⟩, rest⟩ := check_call checked
      simp only [Expr.eval]
      apply safe_bind (arguments_covered arguments inside all survey after rest fuel context covered)
      intro values later covered
      apply safe_bind (safe_trace covered)
      intro _ traced covered
      rw [known]
      exact safe_invoke line builtin values covered
  | .empty _ =>
      cases checked
      exact safe_pure covered

theorem all_covered (exprs : List Expr) (inside : Bool)
    (all : ∀ name ∈ conditionalNamesOfAll inside exprs, conditional name) (survey after : Survey)
    (checked : checkAll exprs survey = .ok () after) (fuel : Nat) (last : Value) (context : Context)
    (covered : Covered conditional survey.scopes context.symbols) :
    Safe conditional after.scopes (evalAll fuel exprs last) context := by
  match exprs with
  | [] =>
      cases checked
      exact safe_pure covered
  | first :: others =>
      simp only [conditionalNamesOfAll, List.forall_mem_append] at all
      obtain ⟨middle, here, further⟩ := check_all_cons checked
      simp only [evalAll]
      apply safe_bind (eval_covered first inside all.1 survey middle here fuel context covered)
      exact fun value later covered =>
        all_covered others inside all.2 middle after further fuel value later covered

theorem arguments_covered (exprs : List Expr) (inside : Bool)
    (all : ∀ name ∈ conditionalNamesOfAll inside exprs, conditional name) (survey after : Survey)
    (checked : checkAll exprs survey = .ok () after) (fuel : Nat) (context : Context)
    (covered : Covered conditional survey.scopes context.symbols) :
    Safe conditional after.scopes (evalArguments fuel exprs) context := by
  match exprs with
  | [] =>
      cases checked
      exact safe_pure covered
  | first :: others =>
      simp only [conditionalNamesOfAll, List.forall_mem_append] at all
      obtain ⟨middle, here, further⟩ := check_all_cons checked
      simp only [evalArguments]
      apply safe_bind (eval_covered first inside all.1 survey middle here fuel context covered)
      intro value later covered
      apply safe_bind (arguments_covered others inside all.2 middle after further fuel later covered)
      exact fun _ _ covered => safe_pure covered

end

theorem execute_safe (program : Program) (accepted : program.analyze = .ok ()) (fuel : Nat)
    (context : Context) (fresh : context.symbols = {}) :
    Safe (· ∈ program.conditionalNames) [] (program.execute fuel) context := by
  obtain ⟨inner, checked⟩ := analyze_ok program accepted
  have grown := check_all_grows program.statements false (· ∈ program.conditionalNames)
    (fun _ member => member) _ inner checked
  have covered : Covered (· ∈ program.conditionalNames) [] context.symbols := by
    rw [fresh]
    exact ⟨SymbolTable.empty_valid, .nil⟩
  apply safe_bind (safe_trace covered)
  intro _ begun covered
  have within := safe_entered grown (fun context held => all_covered program.statements false
    (fun _ member => member) _ inner checked fuel .none context held) covered
  rw [grown_leave {} inner grown] at within
  apply safe_bind within
  intro value ended covered
  apply safe_bind (safe_trace covered)
  intro _ traced covered
  exact covered

theorem execute_tolerated (program : Program) (accepted : program.analyze = .ok ()) (fuel : Nat)
    (context after : Context) (fresh : context.symbols = {}) (error : RuntimeError)
    (failed : program.execute fuel context = .error (.failed error) after) :
    Tolerated (· ∈ program.conditionalNames) error.cause := by
  have safe := execute_safe program accepted fuel context fresh
  unfold Safe Meets at safe
  rw [failed] at safe
  exact safe error rfl

/-- A program that the check accepts finds every name that it does not declare conditionally. -/
theorem unconditional_names_found (program : Program) (accepted : program.analyze = .ok ())
    (name : String) (unconditional : name ∉ program.conditionalNames) (fuel line : Nat) (output : Sink)
    (log : Log) (after : Context) :
    program.execute fuel { output, log } ≠ .error (.failed ⟨line, .undefinedSymbol name⟩) after := by
  intro failed
  obtain ⟨other, same, isConditional⟩ := execute_tolerated program accepted fuel _ after rfl _ failed rfl
  cases same
  exact unconditional isConditional

-- The program `if (true) { let x; } let x; x`.
def shadowedDeclaration : Program :=
  ⟨[.branch 1 (.literal 1 "true") (.block 1 [.declare 1 "x" none]) none, .declare 1 "x" none,
    .identifier 1 "x"]⟩

theorem shadowed_declaration_found : shadowedDeclaration.analyze = .ok () ∧
    "x" ∉ shadowedDeclaration.conditionalNames ∧
    ∀ line after, shadowedDeclaration.execute 1 {} ≠
      .error (.failed ⟨line, .undefinedSymbol "x"⟩) after :=
  ⟨rfl, by decide, fun line after =>
    unconditional_names_found shadowedDeclaration rfl "x" (by decide) 1 line {} [] after⟩

-- The program `if (false) let x; x`.
def skippedDeclaration : Program :=
  ⟨[.branch 1 (.literal 1 "false") (.declare 1 "x" none) none, .identifier 1 "x"]⟩

-- The check follows both branches and does not ask which one is taken.
theorem skipped_declaration_undefined : skippedDeclaration.analyze = .ok () ∧
    ∃ after, skippedDeclaration.execute 1 {} = .error (.failed ⟨1, .undefinedSymbol "x"⟩) after :=
  ⟨rfl, _, rfl⟩

/-- A program that the check accepts fails over no function and no assignment target, and over a symbol
only if it declares the symbol conditionally. -/
theorem accepted_program_faults (program : Program) (accepted : program.analyze = .ok ()) (fuel : Nat)
    (output : Sink) (log : Log) (error : RuntimeError) (after : Context)
    (failed : program.execute fuel { output, log } = .error (.failed error) after) :
    (∀ name, error.cause ≠ .undefinedFunction name) ∧ error.cause ≠ .invalidAssignmentTarget ∧
      ∀ name, error.cause = .undefinedSymbol name → name ∈ program.conditionalNames := by
  have tolerated := execute_tolerated program accepted fuel _ after rfl error failed
  unfold Tolerated at tolerated
  refine ⟨fun name cause => ?_, fun cause => ?_, fun name cause => ?_⟩
  · rw [cause] at tolerated
    obtain ⟨other, impossible, -⟩ := tolerated rfl
    cases impossible
  · rw [cause] at tolerated
    obtain ⟨other, impossible, -⟩ := tolerated rfl
    cases impossible
  · rw [cause] at tolerated
    obtain ⟨other, same, isConditional⟩ := tolerated rfl
    cases same
    exact isConditional

theorem skipped_declaration_faults : skippedDeclaration.analyze = .ok () ∧
    ∃ after, skippedDeclaration.execute 1 {} = .error (.failed ⟨1, .undefinedSymbol "x"⟩) after ∧
      ∀ name, RuntimeFault.undefinedSymbol "x" = .undefinedSymbol name →
        name ∈ skippedDeclaration.conditionalNames :=
  ⟨rfl, _, rfl, (accepted_program_faults skippedDeclaration rfl 1 {} [] _ _ rfl).2.2⟩

end Scriptlet
