import Scriptlet.Analysis
import Scriptlet.Proofs.Expr.Lines

set_option autoImplicit false

namespace Scriptlet

def Check.EndsAlike {α : Type} (view : Nat → Nat) :
    (first second : EStateM.Result SemanticError Survey α) → Prop
  | .ok result after, second => ∃ later, second = .ok result later ∧ after.symbols = later.symbols
  | .error error _, second => ∃ later, second = .error (error.mapLine view) later

def Check.Follows {α : Type} (view : Nat → Nat) (first second : Check α) : Prop :=
  ∀ left right : Survey, left.symbols = right.symbols → EndsAlike view (first left) (second right)

namespace Check

section Checks

variable {α β : Type} {view : Nat → Nat}

theorem follows_pure (result : α) : Follows view (pure result) (pure result) :=
  fun _ right alike => ⟨right, rfl, alike⟩

theorem follows_fail (line : Nat) (fault : SemanticFault) :
    Follows view (fail line fault : Check α) (fail (view line) fault) :=
  fun _ right _ => ⟨right, rfl⟩

theorem follows_bind {first second : Check α} {next further : α → Check β}
    (begins : Follows view first second) (continues : ∀ result, Follows view (next result) (further result)) :
    Follows view (first >>= next) (second >>= further) := by
  intro left right alike
  have begun := begins left right alike
  change EndsAlike view (EStateM.bind first next left) (EStateM.bind second further right)
  rw [EStateM.bind, EStateM.bind]
  cases answer : first left with
  | ok result after =>
      rw [answer] at begun
      obtain ⟨later, answers, alike⟩ := begun
      rw [answers]
      exact continues result after later alike
  | error error after =>
      rw [answer] at begun
      obtain ⟨later, answers⟩ := begun
      rw [answers]
      exact ⟨later, rfl⟩

theorem follows_unless {condition : Bool} {line : Nat} {fault : SemanticFault} {first second : Check Unit}
    (follows : Follows view first second) :
    Follows view (if condition then do fail line fault; first else first)
      (if condition then do fail (view line) fault; second else second) := by
  cases condition with
  | true => exact follows_bind (follows_fail line fault) fun _ => follows
  | false => exact follows

theorem follows_in_scope {first second : Check Unit} (follows : Follows view first second) :
    Follows view (inScope first) (inScope second) := by
  intro left right alike
  have entered : left.enterScope.symbols = right.enterScope.symbols := by
    rw [Survey.enterScope, Survey.enterScope, alike]
  have inner := follows left.enterScope right.enterScope entered
  rw [inScope, inScope]
  cases answer : first left.enterScope with
  | ok result after =>
      rw [answer] at inner
      obtain ⟨later, answers, same⟩ := inner
      rw [answers]
      refine ⟨later.leaveScope, rfl, ?_⟩
      rw [Survey.leaveScope, Survey.leaveScope, same]
      cases later.symbols.leave? with
      | none => exact same
      | some answer => rfl
  | error error after =>
      rw [answer] at inner
      obtain ⟨later, answers⟩ := inner
      rw [answers]
      exact ⟨later.leaveScope, rfl⟩

theorem declare_run (line : Nat) (name : String) (survey : Survey) :
    declare line name survey = if survey.isDeclaredHere name then
      .error ⟨line, .redeclaration name⟩ survey else .ok () (survey.declare name) := by
  change (if survey.isDeclaredHere name then fail line (.redeclaration name)
    else modify (Survey.declare name)) survey = _
  cases survey.isDeclaredHere name <;> rfl

theorem follows_declare (line : Nat) (name : String) :
    Follows view (declare line name) (declare (view line) name) := by
  intro left right alike
  have here : left.isDeclaredHere name = right.isDeclaredHere name := by
    rw [Survey.isDeclaredHere, Survey.isDeclaredHere, alike]
  rw [declare_run, declare_run, here]
  cases right.isDeclaredHere name with
  | true => exact ⟨right, rfl⟩
  | false =>
      refine ⟨right.declare name, rfl, ?_⟩
      rw [Survey.declare, Survey.declare, alike]
      cases right.symbols.declare name .none with
      | none => exact alike
      | some answer => rfl

theorem identifier_run (line : Nat) (name : String) (survey : Survey) :
    (Expr.identifier line name).check survey = if survey.isVisible name then .ok () survey
      else .error ⟨line, .undefinedVariable name⟩ survey := by
  simp only [Expr.check]
  change (if !survey.isVisible name then fail line (.undefinedVariable name) else pure ()) survey = _
  cases survey.isVisible name <;> rfl

theorem follows_identifier (line : Nat) (name : String) :
    Follows view (Expr.identifier line name).check (Expr.identifier (view line) name).check := by
  intro left right alike
  have visible : left.isVisible name = right.isVisible name := by
    rw [Survey.isVisible, Survey.isVisible, alike]
  rw [identifier_run, identifier_run, visible]
  cases right.isVisible name with
  | true => exact ⟨right, rfl, alike⟩
  | false => exact ⟨right, rfl⟩

end Checks

end Check

section Trees

open Check

@[simp] theorem never_boolean_map_lines (view : Nat → Nat) (expr : Expr) :
    (expr.mapLines view).isNeverBoolean = expr.isNeverBoolean := by
  cases expr with
  | declare _ _ initializer => cases initializer <;> rfl
  | branch _ _ _ elseBranch => cases elseBranch <;> rfl
  | _ => rfl

@[simp] theorem is_identifier_map_lines (view : Nat → Nat) (expr : Expr) :
    (expr.mapLines view).isIdentifier = expr.isIdentifier := by
  cases expr with
  | declare _ _ initializer => cases initializer <;> rfl
  | branch _ _ _ elseBranch => cases elseBranch <;> rfl
  | _ => rfl

mutual

theorem check_follows (view : Nat → Nat) (expr : Expr) :
    Follows view expr.check (expr.mapLines view).check := by
  match expr with
  | .block _ statements =>
      simp only [Expr.mapLines, Expr.check]
      exact follows_in_scope (check_all_follows view statements)
  | .declare line name none => exact follows_declare line name
  | .declare line name (some initializer) =>
      simp only [Expr.mapLines, Expr.check]
      exact follows_bind (check_follows view initializer) fun _ => follows_declare line name
  | .branch _ condition thenBranch none =>
      simp only [Expr.mapLines, Expr.check, never_boolean_map_lines, line_map_lines]
      apply follows_unless
      apply follows_bind (check_follows view condition)
      intro _
      exact follows_bind (check_follows view thenBranch) fun _ => follows_pure ()
  | .branch _ condition thenBranch (some elseBranch) =>
      simp only [Expr.mapLines, Expr.check, never_boolean_map_lines, line_map_lines]
      apply follows_unless
      apply follows_bind (check_follows view condition)
      intro _
      exact follows_bind (check_follows view thenBranch) fun _ => check_follows view elseBranch
  | .loop _ condition body =>
      simp only [Expr.mapLines, Expr.check, never_boolean_map_lines, line_map_lines]
      apply follows_unless
      exact follows_bind (check_follows view condition) fun _ => check_follows view body
  | .binary line operator left right =>
      simp only [Expr.mapLines, Expr.check, is_identifier_map_lines]
      apply follows_unless
      exact follows_bind (check_follows view left) fun _ => check_follows view right
  | .unary _ _ operand =>
      simp only [Expr.mapLines, Expr.check]
      exact check_follows view operand
  | .literal _ _ => exact follows_pure ()
  | .identifier line name => exact follows_identifier line name
  | .call line name arguments =>
      simp only [Expr.mapLines, Expr.check]
      apply follows_unless
      exact check_all_follows view arguments
  | .empty _ => exact follows_pure ()

theorem check_all_follows (view : Nat → Nat) (exprs : List Expr) :
    Follows view (checkAll exprs) (checkAll (mapLinesOfAll view exprs)) := by
  match exprs with
  | [] => exact follows_pure ()
  | first :: others =>
      simp only [mapLinesOfAll, checkAll]
      exact follows_bind (check_follows view first) fun _ => check_all_follows view others

end

theorem program_check_follows (view : Nat → Nat) (program : Program) :
    Follows view program.check (Program.check ⟨mapLinesOfAll view program.statements⟩) := by
  apply follows_bind (follows_in_scope (check_all_follows view program.statements))
  intro _ left right alike
  exact ⟨_, rfl, alike⟩

end Trees

section Programs

theorem analyze_map_lines (view : Nat → Nat) (program : Program) :
    Program.analyze ⟨mapLinesOfAll view program.statements⟩ =
      program.analyze.mapError (Located.mapLine view) := by
  have follows := program_check_follows view program {} {} rfl
  rw [Program.analyze, Program.analyze]
  cases answer : program.check {} with
  | ok result after =>
      rw [answer] at follows
      obtain ⟨later, answers, -⟩ := follows
      rw [answers]
      rfl
  | error error after =>
      rw [answer] at follows
      obtain ⟨later, answers⟩ := follows
      rw [answers]
      rfl

theorem check_analyzes (program : Program) (log : Log) :
    (∃ after, program.check { log } = .ok () after ∧ program.analyze = .ok ()) ∨
      ∃ error after, program.check { log } = .error error after ∧ program.analyze = .error error := by
  have follows := program_check_follows id program { log } {} rfl
  rw [map_lines_of_all_id] at follows
  rw [Program.analyze]
  cases answer : program.check { log } with
  | ok result after =>
      rw [answer] at follows
      obtain ⟨later, answers, -⟩ := follows
      exact .inl ⟨after, rfl, by rw [answers]⟩
  | error error after =>
      rw [answer] at follows
      obtain ⟨later, answers⟩ := follows
      exact .inr ⟨error, after, rfl, by rw [answers]; rfl⟩

theorem check_line (program : Program) (survey after : Survey) (error : SemanticError)
    (failed : program.check survey = .error error after) :
    ∃ node ∈ nodesOfAll program.statements, node.line = error.line := by
  -- A view that moves all lines but those of the nodes leaves the tree as it is, and so the error as well.
  let view (line : Nat) : Nat :=
    if line ∈ (nodesOfAll program.statements).map Expr.line then line else line + 1
  have kept : mapLinesOfAll view program.statements = program.statements := by
    apply map_lines_of_all_fixed
    intro node member
    exact if_pos (List.mem_map_of_mem member)
  have follows := program_check_follows view program survey survey rfl
  rw [kept, failed] at follows
  obtain ⟨later, same⟩ := follows
  have fixed : error.line = view error.line := by
    injection same with errors
    exact congrArg Located.line errors
  by_cases member : error.line ∈ (nodesOfAll program.statements).map Expr.line
  · exact List.mem_map.mp member
  · have moved : view error.line = error.line + 1 := if_neg member
    omega

end Programs

end Scriptlet
