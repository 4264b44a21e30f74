import Scriptlet.Proofs.Evaluation.Emission

/-!
Executions that tell where their steps come from.

`Expr.watched` is an evaluation that also says of each step which node emits it and which nodes are being
evaluated around that node. Whatever such an evaluation is put together from, the log gains these steps and no
others (`Watched.shows`), and what it does is what the evaluation does (`watched_action`).
-/

set_option autoImplicit false

namespace Scriptlet

open Eval

structure Watched (program : Program) (around : List Node) (α : Type) where
  action : Eval α
  emits : Context → List (Emission program)
  shows : ∀ context, context.depth = depthWithin around →
    Meets (fun _ after => Shows True (emits context) context after)
      (fun _ after => Shows False (emits context) context after) action context

def Untraced {α : Type} (action : Eval α) : Prop :=
  ∀ context, Meets (fun _ after => after.depth = context.depth ∧ after.log.steps = context.log.steps)
    (fun _ after => after.depth = context.depth ∧ after.log.steps = context.log.steps) action context

section Untraced

variable {α : Type}

theorem untraced_throw (stop : Stop RuntimeError) : Untraced (throw stop : Eval α) := fun _ => ⟨rfl, rfl⟩

theorem untraced_on_line (line : Nat) (outcome : Except RuntimeFault α) : Untraced (onLine line outcome) :=
  fun _ => meets_on_line (fun _ _ => ⟨rfl, rfl⟩) fun _ _ => ⟨rfl, rfl⟩

theorem untraced_get : Untraced (get : Eval Context) := fun _ => ⟨rfl, rfl⟩

theorem untraced_assign (line : Nat) (value : Value) (target : Expr) : Untraced (assign line value target) := by
  intro context
  cases target with
  | identifier _ name => exact meets_assign (fun _ _ => ⟨rfl, rfl⟩) fun _ => ⟨rfl, rfl⟩
  | _ => exact meets_fail ⟨rfl, rfl⟩

theorem untraced_invoke (line : Nat) (builtin : Builtin) (values : List Value) :
    Untraced (invoke line builtin values) :=
  fun _ => meets_invoke (fun _ _ _ => ⟨rfl, rfl⟩) fun _ _ _ => ⟨rfl, rfl⟩

theorem untraced_declare (name : String) (value : Value) :
    Untraced (modify (Context.declare name value) : Eval Unit) := by
  intro context
  exact ⟨context.declare_depth name value, congrArg Log.steps (context.declare_log name value)⟩

theorem untraced_record {entry : Record} (hidden : entry.step? = none) :
    Untraced (modify (Context.record entry) : Eval Unit) := by
  intro context
  refine ⟨rfl, (steps_cons entry context.log).trans ?_⟩
  rw [hidden, Option.toList_none, List.append_nil]

end Untraced

structure Deepens (before after : Context → Context) : Prop where
  depthBefore : ∀ context, (before context).depth = context.depth + 1
  stepsBefore : ∀ context, (before context).log.steps = context.log.steps
  depthAfter : ∀ context, (after context).depth = context.depth - 1
  stepsAfter : ∀ context, (after context).log.steps = context.log.steps

theorem indent_deepens : Deepens Context.indent Context.unindent :=
  ⟨fun _ => rfl, fun _ => rfl, fun _ => rfl, fun _ => rfl⟩

theorem scope_deepens : Deepens (Context.indent ∘ Context.enterScope) (Context.leaveScope ∘ Context.unindent) := by
  have steps : ∀ context : Context, context.leaveScope.log.steps = context.log.steps := by
    intro context
    unfold Context.leaveScope
    cases context.symbols.leave? with
    | none => rfl
    | some left => exact (steps_cons _ _).trans (List.append_nil _)
  exact ⟨fun _ => rfl, fun _ => rfl, fun context => context.unindent.leave_scope_depth,
    fun context => steps context.unindent⟩

theorem shows_between {program : Program} {returned : Prop} {emitted : List (Emission program)}
    {before after : Context → Context} (deepens : Deepens before after) {context middle : Context}
    (shown : Shows returned emitted (before context) middle) : Shows returned emitted context (after middle) where
  depth := by rw [deepens.depthAfter, shown.depth, deepens.depthBefore, Nat.add_sub_cancel]
  steps := by rw [deepens.stepsAfter, shown.steps, deepens.stepsBefore]
  brackets := shown.brackets

namespace Watched

variable {program : Program} {around : List Node} {node : Node} {α β : Type}

def quiet (action : Eval α) (untraced : Untraced action) : Watched program around α where
  action := action
  emits _ := []
  shows context _ := meets_mono (untraced context) (fun _ _ kept => shows_nothing kept.1 kept.2)
    fun _ _ kept => shows_nothing kept.1 kept.2

def bind (first : Watched program around α) (next : α → Watched program around β) :
    Watched program around β where
  action := first.action >>= fun result => (next result).action
  emits context := first.emits context ++
    match first.action context with
    | .ok result after => (next result).emits after
    | .error _ _ => []
  shows context here := by
    have begun := first.shows context here
    change Meets _ _ (EStateM.bind first.action fun result => (next result).action) context
    unfold Meets at begun
    unfold Meets EStateM.bind
    cases answer : first.action context with
    | ok result middle =>
        rw [answer] at begun
        have continued := (next result).shows middle (begun.depth.trans here)
        unfold Meets at continued
        dsimp only
        cases further : (next result).action middle with
        | ok last after =>
            rw [further] at continued
            exact shows_append begun continued
        | error stop after =>
            rw [further] at continued
            exact shows_append begun continued
    | error stop middle =>
        rw [answer] at begun
        dsimp only
        rwa [List.append_nil]

instance : Monad (Watched program around) where
  pure result := quiet (pure result) fun _ => meets_pure ⟨rfl, rfl⟩
  bind := bind

def step (path : Path program node around) (event : Event) (own : node.Emits event)
    (plain : event.edge? = none) : Watched program around Unit where
  action := trace event
  emits _ := [⟨node, around, event, path, own⟩]
  shows context here := by
    apply meets_trace
    constructor
    · rfl
    · rw [steps_trace, here]
      rfl
    · intro unmatched
      exact ⟨[], match_steps_plain unmatched _ [] plain, fun _ => rfl⟩

def bracketed (path : Path program node around) (construct : Construct)
    (begins : node.Emits construct.opening) (ends : node.Emits construct.closing)
    (inner : Watched program around α) : Watched program around α where
  action := do
    trace construct.opening
    let result ← inner.action
    trace construct.closing
    return result
  emits context := ⟨node, around, construct.opening, path, begins⟩ ::
    (inner.emits (context.trace construct.opening) ++
      match inner.action (context.trace construct.opening) with
      | .ok _ _ => [⟨node, around, construct.closing, path, ends⟩]
      | .error _ _ => [])
  shows context here := by
    have within := inner.shows (context.trace construct.opening) here
    change Meets _ _ (EStateM.bind inner.action _) (context.trace construct.opening)
    unfold Meets at within
    unfold Meets EStateM.bind
    cases answer : inner.action (context.trace construct.opening) with
    | ok result middle =>
        rw [answer] at within
        exact shows_closed path begins here ends within
    | error stop middle =>
        rw [answer] at within
        dsimp only
        rw [List.append_nil]
        exact shows_opened path begins here within

def deeper {before after : Context → Context} (deepens : Deepens before after) (indents : node.indents = true)
    (inner : Watched program (node :: around) α) : Watched program around α where
  action := between before after inner.action
  emits context := inner.emits (before context)
  shows context here := by
    have inside : (before context).depth = depthWithin (node :: around) := by
      rw [deepens.depthBefore, here, depthWithin, depthWithin, List.countP_cons_of_pos indents]
    exact meets_between (meets_mono (inner.shows (before context) inside) (fun _ _ => shows_between deepens)
      fun _ _ => shows_between deepens)

def indented (indents : node.indents = true) (inner : Watched program (node :: around) α) :
    Watched program around α :=
  deeper indent_deepens indents inner

def inScope (indents : node.indents = true) (inner : Watched program (node :: around) α) :
    Watched program around α :=
  deeper scope_deepens indents inner

def level (flat : node.indents = false) (inner : Watched program (node :: around) α) :
    Watched program around α where
  action := inner.action
  emits := inner.emits
  shows context here := by
    have same : depthWithin (node :: around) = depthWithin around :=
      List.countP_cons_of_neg (by rw [flat]; exact Bool.false_ne_true)
    exact inner.shows context (here.trans same.symm)

def declare (path : Path program node around) (name : String) (value : Value)
    (own : node.Emits (.declaration name value)) : Watched program around Value := do
  step path (.declaration name value) own rfl
  quiet (modify (Context.declare name value)) (untraced_declare name value)
  return value

def repeatWhile (test : Watched program around Bool) (body : Watched program around Value) :
    Nat → Value → Watched program around Value
  | 0, _ => quiet (throw .outOfFuel) (untraced_throw _)
  | fuel + 1, last => do
      if ← test then repeatWhile test body fuel (← body) else return last

end Watched

open Watched

variable {program : Program}

mutual

-- The evaluation of a node at its place in the program. The parts that it evaluates are evaluated within it.
def Expr.watched (fuel : Nat) : (expr : Expr) → (around : List Node) → Path program (.expr expr) around →
    Watched program around Value
  | .block _ statements, _, path =>
      bracketed path .block (.inl rfl) (.inr rfl)
        (Watched.inScope rfl (watchedAll fuel statements .none path fun _ member => member))
  | .declare _ name none, _, path => Watched.declare path name .none ⟨.none, rfl⟩
  | .declare _ name (some initializer), _, path => do
      let value ← level rfl (initializer.watched fuel _ (path.part initializer List.mem_cons_self))
      Watched.declare path name value ⟨value, rfl⟩
  | .branch line condition thenBranch none, _, path =>
      bracketed path .branch (.inl rfl) (.inr rfl) (level rfl do
        let value ← condition.watched fuel _ (path.part condition List.mem_cons_self)
        if ← quiet (onLine line value.asBoolean) (untraced_on_line line _) then
          thenBranch.watched fuel _ (path.part thenBranch (by simp))
        else return .none)
  | .branch line condition thenBranch (some elseBranch), _, path =>
      bracketed path .branch (.inl rfl) (.inr rfl) (level rfl do
        let value ← condition.watched fuel _ (path.part condition List.mem_cons_self)
        if ← quiet (onLine line value.asBoolean) (untraced_on_line line _) then
          thenBranch.watched fuel _ (path.part thenBranch (by simp))
        else elseBranch.watched fuel _ (path.part elseBranch (by simp)))
  | .loop line condition body, _, path =>
      bracketed path .loop (.inl rfl) (.inr rfl) (level rfl (Watched.repeatWhile
        (do
          let value ← condition.watched fuel _ (path.part condition List.mem_cons_self)
          quiet (onLine line value.asBoolean) (untraced_on_line line _))
        (body.watched fuel _ (path.part body (by simp))) fuel .none))
  | .binary line operator left right, _, path => do
      step path (.binary operator) rfl rfl
      let (x, y) ← Watched.indented rfl do
        let x ← left.watched fuel _ (path.part left List.mem_cons_self)
        let y ← right.watched fuel _ (path.part right (by simp))
        return (x, y)
      if operator = "=" then quiet (assign line y left) (untraced_assign line y left)
      else quiet (onLine line (applyBinary operator x y)) (untraced_on_line line _)
  | .unary line operator operand, _, path => do
      step path (.unary operator) rfl rfl
      let x ← Watched.indented rfl (operand.watched fuel _ (path.part operand List.mem_cons_self))
      quiet (onLine line (applyUnary operator x)) (untraced_on_line line _)
  | .literal line text, _, path => do
      step path (.literal text) rfl rfl
      quiet (onLine line (Value.ofLiteral text)) (untraced_on_line line _)
  | .identifier line name, _, path => do
      let context ← quiet get untraced_get
      match (context.symbols.lookup name).bind context.symbols.get? with
      | none => quiet (fail line (.undefinedSymbol name)) (untraced_throw _)
      | some value =>
          step path (.identifier name value) ⟨value, rfl⟩ rfl
          return value
  | .call line name arguments, _, path => do
      let values ← level rfl (watchedArguments fuel arguments path fun _ member => member)
      step path (.call name values.length) ⟨values.length, rfl⟩ rfl
      match Builtin.find? name with
      | none => quiet (fail line (.undefinedFunction name)) (untraced_throw _)
      | some builtin => quiet (invoke line builtin values) (untraced_invoke line builtin values)
  | .empty _, _, _ => return .none

def watchedAll (fuel : Nat) : (exprs : List Expr) → Value → {node : Node} → {around : List Node} →
    Path program node around → (∀ expr ∈ exprs, expr ∈ node.parts) → Watched program (node :: around) Value
  | [], last, _, _, _, _ => return last
  | first :: others, _, _, _, path, members => do
      let value ← first.watched fuel _ (path.part first (members first List.mem_cons_self))
      watchedAll fuel others value path fun expr member => members expr (List.mem_cons_of_mem first member)

def watchedArguments (fuel : Nat) : (exprs : List Expr) → {node : Node} → {around : List Node} →
    Path program node around → (∀ expr ∈ exprs, expr ∈ node.parts) → Watched program (node :: around) (List Value)
  | [], _, _, _, _ => return []
  | first :: others, _, _, path, members => do
      let value ← first.watched fuel _ (path.part first (members first List.mem_cons_self))
      return value :: (← watchedArguments fuel others path fun expr member =>
        members expr (List.mem_cons_of_mem first member))

end

section Actions

variable {around : List Node} {node : Node} {α β : Type} {action : Eval α}

theorem bind_action {first : Watched program around α} {next : α → Watched program around β}
    {further : α → Eval β} (begins : first.action = action)
    (continues : ∀ result, (next result).action = further result) :
    (first >>= next).action = action >>= further := by
  change (first.action >>= fun result => (next result).action) = _
  rw [begins, funext continues]

theorem bracketed_action {path : Path program node around} {construct : Construct}
    {begins : node.Emits construct.opening} {ends : node.Emits construct.closing}
    {inner : Watched program around α} (same : inner.action = action) :
    (bracketed path construct begins ends inner).action = (do
      trace construct.opening
      let result ← action
      trace construct.closing
      return result) := by
  rw [← same]
  rfl

theorem level_action {flat : node.indents = false} {inner : Watched program (node :: around) α}
    (same : inner.action = action) : (level flat inner).action = action := same

theorem indented_action {indents : node.indents = true} {inner : Watched program (node :: around) α}
    (same : inner.action = action) : (Watched.indented indents inner).action = Eval.indented action :=
  congrArg Eval.indented same

theorem in_scope_action {indents : node.indents = true} {inner : Watched program (node :: around) α}
    (same : inner.action = action) : (Watched.inScope indents inner).action = Eval.inScope action :=
  congrArg Eval.inScope same

theorem choice_action {test : Prop} [Decidable test] {first second : Watched program around α}
    {taken passed : Eval α} (same : first.action = taken) (sameToo : second.action = passed) :
    (if test then first else second).action = if test then taken else passed := by
  rw [← same, ← sameToo]
  exact apply_ite Watched.action test first second

theorem repeat_action {test : Watched program around Bool} {body : Watched program around Value}
    {tested : Eval Bool} {turn : Eval Value} (tests : test.action = tested) (turns : body.action = turn)
    (fuel : Nat) (last : Value) :
    (Watched.repeatWhile test body fuel last).action = Eval.repeatWhile tested turn fuel last := by
  induction fuel generalizing last with
  | zero => rfl
  | succ fuel ih =>
      apply bind_action tests
      intro goesOn
      cases goesOn with
      | false => rfl
      | true => exact bind_action turns ih

end Actions

-- The end of a conditional stands behind either way through it.
theorem branch_run (line : Nat) (condition first second : Eval Value) :
    (do
      trace .branchBegin
      let value ← (do if ← onLine line (← condition).asBoolean then first else second : Eval Value)
      trace .branchEnd
      return value) =
    (do
      trace .branchBegin
      let value ← if ← onLine line (← condition).asBoolean then first else second
      trace .branchEnd
      return value) := by
  simp only [bind_assoc]
  exact bind_congr fun _ => bind_congr fun _ => bind_congr fun holds => by cases holds <;> rfl

mutual

theorem watched_action (fuel : Nat) (expr : Expr) (around : List Node) (path : Path program (.expr expr) around) :
    (expr.watched fuel around path).action = expr.eval fuel := by
  match expr with
  | .block _ statements =>
      rw [Expr.watched, Expr.eval]
      exact bracketed_action (in_scope_action (watched_all_action fuel statements .none path _))
  | .declare _ name none =>
      rw [Expr.watched, Expr.eval]
      rfl
  | .declare _ name (some initializer) =>
      rw [Expr.watched, Expr.eval]
      exact bind_action (level_action (watched_action fuel initializer _ _)) fun _ => rfl
  | .branch line condition thenBranch none =>
      rw [Expr.watched, Expr.eval]
      refine (bracketed_action (level_action (bind_action (watched_action fuel condition _ _) fun _ =>
        bind_action rfl fun _ => choice_action (watched_action fuel thenBranch _ _) rfl))).trans ?_
      exact branch_run line _ _ _
  | .branch line condition thenBranch (some elseBranch) =>
      rw [Expr.watched, Expr.eval]
      refine (bracketed_action (level_action (bind_action (watched_action fuel condition _ _) fun _ =>
        bind_action rfl fun _ => choice_action (watched_action fuel thenBranch _ _)
          (watched_action fuel elseBranch _ _)))).trans ?_
      exact branch_run line _ _ _
  | .loop line condition body =>
      rw [Expr.watched, Expr.eval]
      exact bracketed_action (level_action (repeat_action
        (bind_action (watched_action fuel condition _ _) fun _ => rfl) (watched_action fuel body _ _) fuel .none))
  | .binary line operator left right =>
      rw [Expr.watched, Expr.eval]
      refine bind_action rfl fun _ => bind_action (indented_action ?_) fun values => ?_
      · exact bind_action (watched_action fuel left _ _) fun x =>
          bind_action (watched_action fuel right _ _) fun y => rfl
      · exact choice_action rfl rfl
  | .unary line operator operand =>
      rw [Expr.watched, Expr.eval]
      exact bind_action rfl fun _ =>
        bind_action (indented_action (watched_action fuel operand _ _)) fun _ => rfl
  | .literal line text =>
      rw [Expr.watched, Expr.eval]
      rfl
  | .identifier line name =>
      rw [Expr.watched, Expr.eval]
      refine bind_action rfl fun context => ?_
      dsimp only
      cases (context.symbols.lookup name).bind context.symbols.get? with
      | none => rfl
      | some value => rfl
  | .call line name arguments =>
      rw [Expr.watched, Expr.eval]
      refine bind_action (level_action (watched_arguments_action fuel arguments path _)) fun values =>
        bind_action rfl fun _ => ?_
      cases Builtin.find? name with
      | none => rfl
      | some builtin => rfl
  | .empty _ =>
      rw [Expr.watched, Expr.eval]
      rfl

theorem watched_all_action (fuel : Nat) (exprs : List Expr) (last : Value) {node : Node} {around : List Node}
    (path : Path program node around) (members : ∀ expr ∈ exprs, expr ∈ node.parts) :
    (watchedAll fuel exprs last path members).action = evalAll fuel exprs last := by
  match exprs with
  | [] =>
      rw [watchedAll, evalAll]
      rfl
  | first :: others =>
      rw [watchedAll, evalAll]
      exact bind_action (watched_action fuel first _ _) fun value => watched_all_action fuel others value path _

theorem watched_arguments_action (fuel : Nat) (exprs : List Expr) {node : Node} {around : List Node}
    (path : Path program node around) (members : ∀ expr ∈ exprs, expr ∈ node.parts) :
    (watchedArguments fuel exprs path members).action = evalArguments fuel exprs := by
  match exprs with
  | [] =>
      rw [watchedArguments, evalArguments]
      rfl
  | first :: others =>
      rw [watchedArguments, evalArguments]
      exact bind_action (watched_action fuel first _ _) fun value =>
        bind_action (watched_arguments_action fuel others path _) fun values => rfl

end

def Program.watched (fuel : Nat) (program : Program) : Watched program [] Value := do
  let value ← bracketed .root .program (.inl rfl) (.inr rfl)
    (Watched.inScope rfl (watchedAll fuel program.statements .none .root fun _ member => member))
  quiet (modify (Context.record (.evaluated value))) (untraced_record rfl)
  return value

theorem program_watched_action (fuel : Nat) (program : Program) :
    (program.watched fuel).action = program.execute fuel := by
  refine (bind_action (bracketed_action (in_scope_action (watched_all_action fuel _ .none .root _))) fun _ =>
    bind_action rfl fun _ => rfl).trans ?_
  simp only [bind_assoc, pure_bind]
  rfl

theorem execution_shows {fuel : Nat} {program : Program} {context after : Context}
    {outcome : Except RuntimeError Value} (fresh : context.depth = 0)
    (ends : program.execute fuel context = finished outcome after) :
    Shows (∃ value, outcome = .ok value) ((program.watched fuel).emits context) context after := by
  have shown := (program.watched fuel).shows context fresh
  unfold Meets at shown
  rw [program_watched_action, ends] at shown
  cases outcome with
  | ok value => exact shows_mono (fun _ => trivial) shown
  | error error => exact shows_mono (fun ⟨_, impossible⟩ => nomatch impossible) shown

/-- In the trace of an execution that ends, every END matches the newest BEGIN that is unmatched, in construct and
in indentation, and none is left unmatched if the execution succeeds. Each message comes from a node of the
program and stands behind two blanks for each of the nodes around it that indent what is within them. -/
theorem trace_well_bracketed (program : Program) (fuel : Nat) (output : Sink)
    (outcome : Except RuntimeError Value) (after : Context)
    (ends : program.execute fuel { output } = finished outcome after) :
    (∃ unmatched, matchSteps [] after.log.steps = some unmatched ∧
      ∀ value, outcome = .ok value → unmatched = []) ∧
    (program.watched fuel).action = program.execute fuel ∧
    after.log.steps = ((program.watched fuel).emits { output }).map Emission.step ∧
    after.log.messages = ((program.watched fuel).emits { output }).map fun emission =>
      String.ofList (List.replicate (2 * emission.around.countP Node.indents) ' ') ++ emission.event.message := by
  have shown := execution_shows rfl ends
  have listed : after.log.steps = ((program.watched fuel).emits { output }).map Emission.step := shown.steps
  obtain ⟨unmatched, matched, closed⟩ := shown.brackets []
  rw [← listed, List.append_nil] at matched
  refine ⟨⟨unmatched, matched, fun value succeeds => closed ⟨value, succeeds⟩⟩,
    program_watched_action fuel program, listed, ?_⟩
  rw [messages_of_steps, listed, List.map_map]
  rfl

-- The program `let x = true; while (x) { x = !x }`.
def loopingProgram : Program :=
  ⟨[.declare 1 "x" (some (.literal 1 "true")),
    .loop 1 (.identifier 1 "x") (.block 1 [.binary 1 "=" (.identifier 1 "x") (.unary 1 "!" (.identifier 1 "x"))])]⟩

theorem looping_and_failing_traces :
    (∃ after, loopingProgram.execute 2 {} = finished (.ok (.boolean false)) after ∧
      matchSteps [] after.log.steps = some []) ∧
    ∃ after, failingProgram.execute 1 {} = finished (.error ⟨1, .expectedNumber .boolean⟩) after ∧
      matchSteps [] after.log.steps = some [⟨.block, 1⟩, ⟨.program, 0⟩] ∧
      after.log.messages = ["PROGRAM BEGIN", "  LITERAL: true", "  VAR: x = true", "  BLOCK BEGIN",
        "    BINARY: +", "      ID: x = true", "      ID: x = true"] := by
  constructor
  · obtain ⟨⟨unmatched, matched, closed⟩, -⟩ := trace_well_bracketed loopingProgram 2 {}
      (.ok (.boolean false)) ((loopingProgram.execute 2).after {}) rfl
    obtain rfl := closed _ rfl
    exact ⟨_, rfl, matched⟩
  · obtain ⟨-, -, -, messages⟩ := trace_well_bracketed failingProgram 1 {}
      (.error ⟨1, .expectedNumber .boolean⟩) ((failingProgram.execute 1).after {}) rfl
    exact ⟨_, rfl, by decide +kernel, messages.trans (by decide +kernel)⟩

end Scriptlet
