import Scriptlet.Proofs.Evaluation.Outcome
import Scriptlet.Proofs.Expr.Lines

/-!
Evaluations side by side.

One action follows another if it ends in the same way when it starts from a related context, unless the
other runs out of fuel; in step, it then runs out of fuel as well. `Transparent` lists what a relation has to
withstand, and `eval_follows` says what comes of it: an evaluation with at least as much fuel follows, with the
same fuel it follows in step, and lines show up in errors only.
-/

set_option autoImplicit false

namespace Scriptlet

open Eval

-- Related contexts have the same variables and the same depth, and they stay related whatever is done to
-- both of them. Output may differ as long as no function can tell.
structure Transparent (related : Context → Context → Prop) : Prop where
  symbols : ∀ {left right : Context}, related left right → left.symbols = right.symbols
  depth : ∀ {left right : Context}, related left right → left.depth = right.depth
  setSymbols : ∀ {left right : Context}, related left right → ∀ symbols : SymbolTable,
    related { left with symbols } { right with symbols }
  setDepth : ∀ {left right : Context}, related left right → ∀ depth : Nat,
    related { left with depth } { right with depth }
  record : ∀ {left right : Context}, related left right → ∀ entry : Record,
    related (left.record entry) (right.record entry)
  invoke : ∀ {left right : Context}, related left right → ∀ (builtin : Builtin) (arguments : List Value),
    (∃ value output other, builtin.invoke arguments left.output = .ok value output ∧
      builtin.invoke arguments right.output = .ok value other ∧
      related { left with output } { right with output := other }) ∨
    ∃ fault output other, builtin.invoke arguments left.output = .error fault output ∧
      builtin.invoke arguments right.output = .error fault other ∧
      related { left with output } { right with output := other }

def EndsAlike {α : Type} (view : Nat → Nat) (related : Context → Context → Prop) (inStep : Prop) :
    (first second : EStateM.Result (Stop RuntimeError) Context α) → Prop
  | .ok result after, second => ∃ later, second = .ok result later ∧ related after later
  | .error (.failed error) after, second =>
      ∃ later, second = .error (.failed (error.mapLine view)) later ∧ related after later
  | .error .outOfFuel after, second =>
      inStep → ∃ later, second = .error .outOfFuel later ∧ related after later

def Follows {α : Type} (view : Nat → Nat) (related : Context → Context → Prop) (inStep : Prop)
    (first second : Eval α) : Prop :=
  ∀ left right, related left right → EndsAlike view related inStep (first left) (second right)

def Suffices (inStep : Prop) (fuel more : Nat) : Prop := fuel ≤ more ∧ (inStep → more = fuel)

section Contexts

variable {related : Context → Context → Prop} {left right : Context} (transparent : Transparent related)
include transparent

theorem related_trace (alike : related left right) (event : Event) :
    related (left.trace event) (right.trace event) := by
  change related (left.record (.step left.depth event)) (right.record (.step right.depth event))
  rw [transparent.depth alike]
  exact transparent.record alike (.step right.depth event)

theorem related_indent (alike : related left right) : related left.indent right.indent := by
  unfold Context.indent
  rw [transparent.depth alike]
  exact transparent.setDepth alike (right.depth + 1)

theorem related_unindent (alike : related left right) : related left.unindent right.unindent := by
  unfold Context.unindent
  rw [transparent.depth alike]
  exact transparent.setDepth alike (right.depth - 1)

theorem related_enter (alike : related left right) : related left.enterScope right.enterScope := by
  unfold Context.enterScope
  rw [transparent.symbols alike]
  exact transparent.setSymbols alike right.symbols.enter

theorem related_leave (alike : related left right) : related left.leaveScope right.leaveScope := by
  unfold Context.leaveScope
  rw [transparent.symbols alike]
  cases right.symbols.leave? with
  | none => exact alike
  | some answer => exact transparent.record (transparent.setSymbols alike answer.2) (.released answer.1)

theorem related_declare (alike : related left right) (name : String) (value : Value) :
    related (left.declare name value) (right.declare name value) := by
  unfold Context.declare
  rw [transparent.symbols alike]
  cases right.symbols.declare name value with
  | none => exact alike
  | some answer => exact transparent.setSymbols alike answer.2

end Contexts

section Actions

variable {α β : Type} {view : Nat → Nat} {related : Context → Context → Prop} {inStep : Prop}

theorem follows_pure (result : α) : Follows view related inStep (pure result) (pure result) :=
  fun _ right alike => ⟨right, rfl, alike⟩

theorem follows_fail (line : Nat) (fault : RuntimeFault) :
    Follows view related inStep (fail line fault : Eval α) (fail (view line) fault) :=
  fun _ right alike => ⟨right, rfl, alike⟩

theorem follows_bind {first second : Eval α} {next further : α → Eval β}
    (begins : Follows view related inStep first second)
    (continues : ∀ result, Follows view related inStep (next result) (further result)) :
    Follows view related inStep (first >>= next) (second >>= further) := by
  intro left right alike
  have begun := begins left right alike
  change EndsAlike view related inStep (EStateM.bind first next left) (EStateM.bind second further right)
  unfold EStateM.bind
  match answer : first left with
  | .ok result after =>
      rw [answer] at begun
      obtain ⟨later, answers, alike⟩ := begun
      rw [answers]
      exact continues result after later alike
  | .error (.failed error) after =>
      rw [answer] at begun
      obtain ⟨later, answers, alike⟩ := begun
      rw [answers]
      exact ⟨later, rfl, alike⟩
  | .error .outOfFuel after =>
      intro step
      rw [answer] at begun
      obtain ⟨later, answers, alike⟩ := begun step
      rw [answers]
      exact ⟨later, rfl, alike⟩

theorem follows_on_line (line : Nat) (outcome : Except RuntimeFault α) :
    Follows view related inStep (onLine line outcome) (onLine (view line) outcome) := by
  cases outcome with
  | ok result => exact follows_pure result
  | error fault => exact follows_fail line fault

theorem follows_modify {change : Context → Context}
    (keeps : ∀ left right, related left right → related (change left) (change right)) :
    Follows view related inStep (modify change) (modify change) :=
  fun left right alike => ⟨change right, rfl, keeps left right alike⟩

theorem follows_between {before after : Context → Context} {first second : Eval α}
    (entering : ∀ left right, related left right → related (before left) (before right))
    (leaving : ∀ left right, related left right → related (after left) (after right))
    (follows : Follows view related inStep first second) :
    Follows view related inStep (between before after first) (between before after second) := by
  intro left right alike
  have inner := follows (before left) (before right) (entering left right alike)
  unfold between
  match answer : first (before left) with
  | .ok result middle =>
      rw [answer] at inner
      obtain ⟨later, answers, alike⟩ := inner
      rw [answers]
      exact ⟨after later, rfl, leaving middle later alike⟩
  | .error (.failed error) middle =>
      rw [answer] at inner
      obtain ⟨later, answers, alike⟩ := inner
      rw [answers]
      exact ⟨after later, rfl, leaving middle later alike⟩
  | .error .outOfFuel middle =>
      intro step
      rw [answer] at inner
      obtain ⟨later, answers, alike⟩ := inner step
      rw [answers]
      exact ⟨after later, rfl, leaving middle later alike⟩

-- More turns are allowed on the right, but only as many are taken as on the left.
theorem follows_repeat {test otherTest : Eval Bool} {body otherBody : Eval Value}
    (tests : Follows view related inStep test otherTest)
    (turns : Follows view related inStep body otherBody) (fuel more : Nat)
    (bound : Suffices inStep fuel more) (last : Value) :
    Follows view related inStep (repeatWhile test body fuel last)
      (repeatWhile otherTest otherBody more last) := by
  induction fuel generalizing more last with
  | zero =>
      intro left right alike step
      obtain rfl := bound.2 step
      exact ⟨right, rfl, alike⟩
  | succ fuel ih =>
      obtain ⟨least, tied⟩ := bound
      obtain ⟨more, rfl⟩ : ∃ less, more = less + 1 := ⟨more - 1, by omega⟩
      apply follows_bind tests
      intro goesOn
      cases goesOn with
      | false => exact follows_pure last
      | true =>
          apply follows_bind turns
          have less : Suffices inStep fuel more := ⟨by omega, fun step => Nat.succ.inj (tied step)⟩
          exact fun value => ih more less value

section Transparent

variable (transparent : Transparent related)
include transparent

theorem follows_trace (event : Event) : Follows view related inStep (trace event) (trace event) :=
  follows_modify fun _ _ alike => related_trace transparent alike event

theorem follows_indented {first second : Eval α} (follows : Follows view related inStep first second) :
    Follows view related inStep (indented first) (indented second) :=
  follows_between (fun _ _ => related_indent transparent) (fun _ _ => related_unindent transparent) follows

theorem follows_in_scope {first second : Eval α} (follows : Follows view related inStep first second) :
    Follows view related inStep (inScope first) (inScope second) :=
  follows_between (fun _ _ alike => related_indent transparent (related_enter transparent alike))
    (fun _ _ alike => related_leave transparent (related_unindent transparent alike)) follows

theorem follows_declare (name : String) (value : Value) :
    Follows view related inStep (declare name value) (declare name value) := by
  apply follows_bind (follows_trace transparent _)
  intro _
  apply follows_bind (follows_modify fun _ _ alike => related_declare transparent alike name value)
  exact fun _ => follows_pure value

theorem follows_read (line : Nat) (name : String) :
    Follows view related inStep (readVariable line name) (readVariable (view line) name) := by
  intro left right alike
  rw [read_variable_run, read_variable_run, transparent.symbols alike]
  cases (right.symbols.lookup name).bind right.symbols.get? with
  | none => exact follows_fail line (.undefinedSymbol name) left right alike
  | some value =>
      exact follows_bind (follows_trace transparent (.identifier name value))
        (fun _ => follows_pure value) left right alike

theorem follows_assign_variable (line : Nat) (name : String) (value : Value) :
    Follows view related inStep (assignVariable line name value) (assignVariable (view line) name value) := by
  intro left right alike
  rw [assign_variable_run, assign_variable_run, transparent.symbols alike]
  cases (right.symbols.lookup name).bind (right.symbols.set? · value) with
  | none => exact follows_fail line (.undefinedSymbol name) left right alike
  | some symbols =>
      exact follows_bind (follows_modify fun _ _ alike => transparent.setSymbols alike symbols)
        (fun _ => follows_pure value) left right alike

theorem follows_assign (line : Nat) (value : Value) (target : Expr) :
    Follows view related inStep (assign line value target)
      (assign (view line) value (target.mapLines view)) := by
  cases target with
  | identifier _ name => exact follows_assign_variable transparent line name value
  | declare _ _ initializer => cases initializer <;> exact follows_fail line .invalidAssignmentTarget
  | branch _ _ _ elseBranch => cases elseBranch <;> exact follows_fail line .invalidAssignmentTarget
  | _ => exact follows_fail line .invalidAssignmentTarget

theorem follows_invoke (line : Nat) (builtin : Builtin) (arguments : List Value) :
    Follows view related inStep (invoke line builtin arguments) (invoke (view line) builtin arguments) := by
  intro left right alike
  obtain ⟨symbols, output, depth, log⟩ := left
  obtain ⟨otherSymbols, otherOutput, otherDepth, otherLog⟩ := right
  unfold invoke
  dsimp only
  rcases transparent.invoke alike builtin arguments with
    ⟨value, written, otherWritten, first, second, later⟩ | ⟨fault, written, otherWritten, first, second, later⟩
  · dsimp only at first second
    rw [first, second]
    exact ⟨_, rfl, later⟩
  · dsimp only at first second
    rw [first, second]
    exact ⟨_, rfl, later⟩

theorem follows_call (line : Nat) (name : String) (arguments : List Value) :
    Follows view related inStep (call line name arguments) (call (view line) name arguments) := by
  apply follows_bind (follows_trace transparent _)
  intro _
  cases Builtin.find? name with
  | none => exact follows_fail line (.undefinedFunction name)
  | some builtin => exact follows_invoke transparent line builtin arguments

theorem follows_then_trace {event : Event} {first second : Eval α}
    (follows : Follows view related inStep first second) :
    Follows view related inStep (do let value ← first; trace event; return value)
      (do let value ← second; trace event; return value) := by
  apply follows_bind follows
  intro value
  apply follows_bind (follows_trace transparent event)
  exact fun _ => follows_pure value

end Transparent

end Actions

section Trees

variable {view : Nat → Nat} {related : Context → Context → Prop} {inStep : Prop} {fuel more : Nat}

mutual

theorem eval_follows (transparent : Transparent related) (bound : Suffices inStep fuel more) (expr : Expr) :
    Follows view related inStep (expr.eval fuel) ((expr.mapLines view).eval more) := by
  match expr with
  | .block _ statements =>
      simp only [Expr.mapLines, Expr.eval]
      apply follows_bind (follows_trace transparent .blockBegin)
      intro _
      exact follows_then_trace transparent
        (follows_in_scope transparent (all_follow transparent bound statements .none))
  | .declare _ name none => exact follows_declare transparent name .none
  | .declare _ name (some initializer) =>
      simp only [Expr.mapLines, Expr.eval]
      apply follows_bind (eval_follows transparent bound initializer)
      exact fun value => follows_declare transparent name value
  | .branch line condition thenBranch none =>
      simp only [Expr.mapLines, Expr.eval]
      apply follows_bind (follows_trace transparent .branchBegin)
      intro _
      apply follows_bind (eval_follows transparent bound condition)
      intro value
      apply follows_bind (follows_on_line line value.asBoolean)
      intro holds
      cases holds with
      | true => exact follows_then_trace transparent (eval_follows transparent bound thenBranch)
      | false => exact follows_then_trace transparent (follows_pure Value.none)
  | .branch line condition thenBranch (some elseBranch) =>
      simp only [Expr.mapLines, Expr.eval]
      apply follows_bind (follows_trace transparent .branchBegin)
      intro _
      apply follows_bind (eval_follows transparent bound condition)
      intro value
      apply follows_bind (follows_on_line line value.asBoolean)
      intro holds
      cases holds with
      | true => exact follows_then_trace transparent (eval_follows transparent bound thenBranch)
      | false => exact follows_then_trace transparent (eval_follows transparent bound elseBranch)
  | .loop line condition body =>
      have test : Follows view related inStep (do onLine line (← condition.eval fuel).asBoolean)
          (do onLine (view line) (← (condition.mapLines view).eval more).asBoolean) := by
        apply follows_bind (eval_follows transparent bound condition)
        exact fun value => follows_on_line line value.asBoolean
      simp only [Expr.mapLines, Expr.eval]
      apply follows_bind (follows_trace transparent .loopBegin)
      intro _
      exact follows_then_trace transparent
        (follows_repeat test (eval_follows transparent bound body) fuel more bound .none)
  | .binary line operator left right =>
      have operands : Follows view related inStep
          (do
            let x ← left.eval fuel
            let y ← right.eval fuel
            return (x, y))
          (do
            let x ← (left.mapLines view).eval more
            let y ← (right.mapLines view).eval more
            return (x, y)) := by
        apply follows_bind (eval_follows transparent bound left)
        intro x
        apply follows_bind (eval_follows transparent bound right)
        exact fun y => follows_pure (x, y)
      simp only [Expr.mapLines, Expr.eval]
      apply follows_bind (follows_trace transparent (.binary operator))
      intro _
      apply follows_bind (follows_indented transparent operands)
      intro values
      by_cases assigns : operator = "="
      · rw [if_pos assigns, if_pos assigns]
        exact follows_assign transparent line values.2 left
      · rw [if_neg assigns, if_neg assigns]
        exact follows_on_line line (applyBinary operator values.1 values.2)
  | .unary line operator operand =>
      simp only [Expr.mapLines, Expr.eval]
      apply follows_bind (follows_trace transparent (.unary operator))
      intro _
      apply follows_bind (follows_indented transparent (eval_follows transparent bound operand))
      exact fun value => follows_on_line line (applyUnary operator value)
  | .literal line text =>
      simp only [Expr.mapLines, Expr.eval]
      apply follows_bind (follows_trace transparent (.literal text))
      exact fun _ => follows_on_line line (Value.ofLiteral text)
  | .identifier line name => exact follows_read transparent line name
  | .call line name arguments =>
      simp only [Expr.mapLines, Expr.eval]
      apply follows_bind (arguments_follow transparent bound arguments)
      exact fun values => follows_call transparent line name values
  | .empty _ => exact follows_pure Value.none

theorem all_follow (transparent : Transparent related) (bound : Suffices inStep fuel more)
    (exprs : List Expr) (last : Value) :
    Follows view related inStep (evalAll fuel exprs last) (evalAll more (mapLinesOfAll view exprs) last) := by
  match exprs with
  | [] => exact follows_pure last
  | first :: others =>
      simp only [mapLinesOfAll, evalAll]
      apply follows_bind (eval_follows transparent bound first)
      exact fun value => all_follow transparent bound others value

theorem arguments_follow (transparent : Transparent related) (bound : Suffices inStep fuel more)
    (exprs : List Expr) :
    Follows view related inStep (evalArguments fuel exprs)
      (evalArguments more (mapLinesOfAll view exprs)) := by
  match exprs with
  | [] => exact follows_pure []
  | first :: others =>
      simp only [mapLinesOfAll, evalArguments]
      apply follows_bind (eval_follows transparent bound first)
      intro value
      apply follows_bind (arguments_follow transparent bound others)
      exact fun values => follows_pure (value :: values)

end

theorem execute_follows (transparent : Transparent related) (bound : Suffices inStep fuel more)
    (program : Program) :
    Follows view related inStep (program.execute fuel)
      (Program.execute more ⟨mapLinesOfAll view program.statements⟩) := by
  apply follows_bind (follows_trace transparent .programBegin)
  intro _
  apply follows_bind (follows_in_scope transparent (all_follow transparent bound program.statements .none))
  intro value
  apply follows_bind (follows_trace transparent .programEnd)
  intro _
  apply follows_bind (follows_modify fun _ _ alike => transparent.record alike (.evaluated value))
  exact fun _ => follows_pure value

theorem execute_follows_itself (transparent : Transparent related) (bound : Suffices inStep fuel more)
    (program : Program) :
    Follows id related inStep (program.execute fuel) (program.execute more) := by
  have follows : Follows id related inStep (program.execute fuel)
      (Program.execute more ⟨mapLinesOfAll id program.statements⟩) := execute_follows transparent bound program
  rwa [map_lines_of_all_id] at follows

end Trees

end Scriptlet
