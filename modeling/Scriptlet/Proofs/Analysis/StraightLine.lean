import Scriptlet.Proofs.Analysis.Lines
import Scriptlet.Proofs.Analysis.Scopes
import Scriptlet.Proofs.Evaluation.Declarations

/-!
The check of programs without branches and loops.

Such a program is evaluated in the order in which it is checked. The relation `Mirrors` takes the two walks side by
side: if an evaluation returns, then the check of the same tree gets through with the same names in its scopes, or
it stops at the first declaration that the evaluation repeats. The induction `eval_mirrors` over the tree carries it
along.
-/

set_option autoImplicit false

namespace Scriptlet

open Eval Listing

def Expr.isControl : Expr → Bool
  | .branch _ _ _ _ => true
  | .loop _ _ _ => true
  | _ => false

def Program.IsStraight (program : Program) : Prop :=
  ∀ node ∈ nodesOfAll program.statements, node.isControl = false

def Agrees (survey : Survey) (table : SymbolTable) : Prop := survey.scopes = table.declared

section Scopes

variable {survey : Survey} {context : Context} {table : SymbolTable}

theorem agrees_enter (agree : Agrees survey context.symbols) :
    Agrees survey.enterScope context.enterScope.symbols :=
  congrArg (List.cons []) agree

theorem leave_scope_declared (context : Context) :
    context.leaveScope.symbols.declared = context.symbols.declared.tail := by
  unfold Context.leaveScope
  cases left : context.symbols.leave? with
  | none =>
      dsimp only
      rw [context.symbols.leave_closed left, List.tail_nil]
  | some answer => exact context.symbols.leave_declared answer.2 answer.1 left

theorem agrees_leave (agree : Agrees survey context.symbols) :
    Agrees survey.leaveScope context.leaveScope.symbols := by
  rw [Agrees, survey.scopes_leave, leave_scope_declared, agree]

theorem agrees_here (agree : Agrees survey table) (name : String) :
    survey.isDeclaredHere name = table.isDeclaredHere name := by
  rw [Bool.eq_iff_iff, table.declared_here_iff, ← agree]
  exact survey.symbols.declared_here_iff name

theorem declare_declared_fresh (name : String) (value : Value) (context : Context)
    (fresh : context.symbols.isDeclaredHere name = false) :
    (context.declare name value).symbols.declared = context.symbols.declared.modifyHead (name :: ·) := by
  unfold Context.declare
  cases done : context.symbols.declare name value with
  | none =>
      dsimp only
      rw [context.symbols.declare_closed name value done, List.modifyHead_nil]
  | some answer => exact context.symbols.declare_fresh answer.2 name value answer.1 fresh done

theorem agrees_declare (name : String) (value : Value) (agree : Agrees survey context.symbols)
    (fresh : context.symbols.isDeclaredHere name = false) :
    Agrees (survey.declare name) (context.declare name value).symbols := by
  have unknown : survey.isDeclaredHere name = false := by rw [agrees_here agree name, fresh]
  rw [Agrees, survey.scopes_declare name unknown, declare_declared_fresh name value context fresh, agree]

theorem agrees_visible {name : String} (agree : Agrees survey table) (found : table.lookup name ≠ none) :
    survey.isVisible name = true := by
  rw [← Option.isSome_iff_ne_none, table.lookup_is_some, ← agree] at found
  exact (survey.symbols.lookup_is_some name).mpr found

end Scopes

def Concurs (made : List Declaration) (check : Check Unit) (survey : Survey) (table : SymbolTable) : Prop :=
  match made.find? Declaration.isRepeated with
  | none => ∃ left, check survey = .ok () left ∧ Agrees left table
  | some declaration =>
      ∃ left, check survey = .error ⟨declaration.line, .redeclaration declaration.name⟩ left

section Checks

variable {made further : List Declaration} {first second check : Check Unit} {survey left : Survey}
  {middle table : SymbolTable}

theorem check_behind (passed : first survey = .ok () left) : (do first; second) survey = second left := by
  change EStateM.bind first (fun _ => second) survey = _
  rw [EStateM.bind, passed]

theorem check_stopped {error : SemanticError} (stopped : first survey = .error error left) :
    (do first; second) survey = .error error left := by
  change EStateM.bind first (fun _ => second) survey = _
  rw [EStateM.bind, stopped]

theorem concurs_bind (begins : Concurs made first survey middle)
    (continues : ∀ left, Agrees left middle → Concurs further second left table) :
    Concurs (made ++ further) (do first; second) survey table := by
  unfold Concurs at begins ⊢
  rw [List.find?_append]
  cases repeated : made.find? Declaration.isRepeated with
  | some declaration =>
      rw [repeated] at begins
      obtain ⟨left, stopped⟩ := begins
      exact ⟨left, check_stopped stopped⟩
  | none =>
      rw [repeated] at begins
      obtain ⟨left, passed, agree⟩ := begins
      rw [check_behind passed]
      exact continues left agree

theorem concurs_in_scope (inner : Context) (within : Concurs made check survey.enterScope inner.symbols) :
    Concurs made (Check.inScope check) survey inner.leaveScope.symbols := by
  unfold Concurs at within ⊢
  unfold Check.inScope
  cases repeated : made.find? Declaration.isRepeated with
  | some declaration =>
      rw [repeated] at within
      obtain ⟨left, stopped⟩ := within
      exact ⟨left.leaveScope, by rw [stopped]⟩
  | none =>
      rw [repeated] at within
      obtain ⟨left, passed, agree⟩ := within
      exact ⟨left.leaveScope, by rw [passed], agrees_leave agree⟩

end Checks

def Mirrors {α : Type} (action : Eval α) (made : Listing) (check : Check Unit) : Prop :=
  ∀ survey context, Agrees survey context.symbols →
    Meets (fun _ after => Concurs (made context) check survey after.symbols) (fun _ _ => True) action context

section Actions

variable {α β : Type} {action : Eval α} {made : Listing} {check : Check Unit}

theorem mirrors_nothing (kept : ∀ context, Meets (fun _ after => after.symbols.declared = context.symbols.declared)
    (fun _ _ => True) action context) : Mirrors action nothing (pure ()) := by
  intro survey context agree
  apply meets_mono (kept context) _ fun _ _ _ => trivial
  intro _ after same
  refine ⟨survey, rfl, ?_⟩
  rw [Agrees, same]
  exact agree

theorem mirrors_pure (result : α) : Mirrors (pure result : Eval α) nothing (pure ()) :=
  mirrors_nothing fun _ => meets_pure rfl

theorem mirrors_fail (line : Nat) (fault : RuntimeFault) : Mirrors (fail line fault : Eval α) made check :=
  fun _ _ _ => meets_fail trivial

theorem mirrors_on_line (line : Nat) (outcome : Except RuntimeFault α) :
    Mirrors (onLine line outcome) nothing (pure ()) :=
  mirrors_nothing fun _ => meets_on_line (fun _ _ => rfl) fun _ _ => trivial

theorem mirrors_bind {next : α → Eval β} {further : α → Listing} {second : Check Unit}
    (begins : Mirrors action made check) (continues : ∀ result, Mirrors (next result) (further result) second) :
    Mirrors (action >>= next) (made.andThen action further) (do check; second) := by
  intro survey context agree
  have begun := begins survey context agree
  change Meets _ _ (EStateM.bind action next) context
  unfold Meets at begun
  unfold Meets EStateM.bind Listing.andThen
  cases answer : action context with
  | error stop middle => trivial
  | ok result middle =>
      rw [answer] at begun
      dsimp only
      cases ending : next result middle with
      | error stop after => trivial
      | ok value after =>
          refine concurs_bind begun fun left agreed => ?_
          have rest := continues result left middle agreed
          unfold Meets at rest
          rwa [ending] at rest

theorem mirrors_bind_nothing {next : α → Eval β} (begins : Mirrors action made check)
    (continues : ∀ result, Mirrors (next result) nothing (pure ())) : Mirrors (action >>= next) made check := by
  have whole := mirrors_bind begins continues
  rwa [and_then_nothing, bind_pure_unit] at whole

theorem mirrors_traced {event : Event} (acts : Mirrors action made check) :
    Mirrors (do trace event; action) (fun context => made (context.trace event)) check :=
  fun survey context agree => acts survey (context.trace event) agree

theorem mirrors_then_trace {event : Event} (acts : Mirrors action made check) :
    Mirrors (do let value ← action; trace event; return value) made check :=
  mirrors_bind_nothing acts fun value => mirrors_traced (mirrors_pure value)

theorem mirrors_indented (acts : Mirrors action made check) :
    Mirrors (indented action) (fun context => made context.indent) check :=
  fun survey context agree => meets_between (acts survey context.indent agree)

theorem mirrors_in_scope (acts : Mirrors action made check) :
    Mirrors (inScope action) (fun context => made context.enterScope.indent) (Check.inScope check) := by
  intro survey context agree
  apply meets_between
  apply meets_mono (acts survey.enterScope context.enterScope.indent (agrees_enter agree))
  · exact fun _ inner within => concurs_in_scope inner.unindent within
  · exact fun _ _ _ => trivial

theorem mirrors_declare (line : Nat) (name : String) (value : Value) :
    Mirrors (declare name value) (fun context => [⟨line, name, context.symbols⟩]) (Check.declare line name) := by
  intro survey context agree
  apply meets_declare
  unfold Concurs
  rw [List.find?_singleton, Declaration.isRepeated, Check.declare_run, agrees_here agree name]
  cases fresh : context.symbols.isDeclaredHere name with
  | true => exact ⟨survey, rfl⟩
  | false => exact ⟨survey.declare name, rfl, agrees_declare name value agree fresh⟩

theorem mirrors_read (line : Nat) (name : String) :
    Mirrors (readVariable line name) nothing (Expr.identifier line name).check := by
  intro survey context agree
  apply meets_read _ fun _ => trivial
  intro value read
  have found : context.symbols.lookup name ≠ none := by
    intro absent
    rw [absent] at read
    cases read
  refine ⟨survey, ?_, agree⟩
  rw [Check.identifier_run, if_pos (agrees_visible agree found)]

theorem mirrors_assign (line : Nat) (value : Value) (target : Expr) :
    Mirrors (assign line value target) nothing (pure ()) := by
  cases target with
  | identifier _ name =>
      refine mirrors_nothing fun context => meets_assign (fun symbols assigned => ?_) fun _ => trivial
      obtain ⟨handle, -, done⟩ := Option.bind_eq_some_iff.mp assigned
      rw [context.symbols.set_eq_some symbols handle value done]
      rfl
  | _ => exact mirrors_fail line .invalidAssignmentTarget

theorem mirrors_call (line : Nat) (name : String) (values : List Value) :
    Mirrors (call line name values) nothing (pure ()) := by
  unfold call
  cases Builtin.find? name with
  | none =>
      have failed : Mirrors (fail line (.undefinedFunction name) : Eval Value) nothing (pure ()) :=
        mirrors_fail line _
      exact mirrors_traced failed
  | some builtin =>
      have invoked : Mirrors (invoke line builtin values) nothing (pure ()) :=
        mirrors_nothing fun _ => meets_invoke (fun _ _ _ => rfl) fun _ _ _ => trivial
      exact mirrors_traced invoked

-- The check looks at targets and functions first, and the evaluation looks at them last. So what is refused here
-- is an action that does not return, whatever its parts declare on the way.
theorem mirrors_unless {condition : Bool} {line : Nat} {fault : SemanticFault}
    (passes : ∀ context, Returns (fun _ => condition = false) action context) (acts : Mirrors action made check) :
    Mirrors action made (if condition then do Check.fail line fault; check else check) := by
  cases condition with
  | false => exact acts
  | true =>
      intro survey context _
      exact meets_mono (passes context) (fun _ _ impossible => nomatch impossible) fun _ _ _ => trivial

end Actions

theorem binary_target (line fuel : Nat) (operator : String) (left right : Expr) (context : Context) :
    Returns (fun _ => (operator = "=" && !left.isIdentifier) = false)
      ((Expr.binary line operator left right).eval fuel) context := by
  simp only [Expr.eval]
  apply returns_behind
  intro _ begun
  apply returns_behind
  intro operands after
  by_cases assigns : operator = "="
  · rw [if_pos assigns]
    cases left with
    | identifier _ name => exact returns_any fun _ => Bool.and_false _
    | _ => exact meets_fail trivial
  · rw [if_neg assigns]
    exact returns_any fun _ => by rw [decide_eq_false assigns, Bool.false_and]

theorem call_known (line fuel : Nat) (name : String) (arguments : List Expr) (context : Context) :
    Returns (fun _ => (Builtin.find? name).isNone = false) ((Expr.call line name arguments).eval fuel) context := by
  simp only [Expr.eval]
  apply returns_behind
  intro values evaluated
  apply returns_behind
  intro _ after
  cases found : Builtin.find? name with
  | none => exact meets_fail trivial
  | some builtin => exact returns_any fun _ => rfl

-- The induction is on the tree, as for `eval_logs`; a branch or a loop is none of its nodes.
mutual

theorem eval_mirrors (fuel : Nat) (expr : Expr) (straight : ∀ node ∈ expr.nodes, node.isControl = false) :
    Mirrors (expr.eval fuel) (expr.declarations fuel) expr.check := by
  match expr with
  | .block _ statements =>
      simp only [Expr.nodes, List.forall_mem_cons] at straight
      simp only [Expr.eval, Expr.declarations, Expr.check]
      exact mirrors_traced (mirrors_then_trace (mirrors_in_scope (all_mirror fuel statements .none straight.2)))
  | .declare line name none => exact mirrors_declare line name .none
  | .declare line name (some initializer) =>
      simp only [Expr.nodes, List.forall_mem_cons] at straight
      simp only [Expr.eval, Expr.declarations, Expr.check]
      exact mirrors_bind (eval_mirrors fuel initializer straight.2) (mirrors_declare line name)
  | .branch _ _ _ none => cases straight _ List.mem_cons_self
  | .branch _ _ _ (some _) => cases straight _ List.mem_cons_self
  | .loop _ _ _ => cases straight _ List.mem_cons_self
  | .binary line operator left right =>
      simp only [Expr.nodes, List.forall_mem_cons, List.forall_mem_append] at straight
      obtain ⟨-, inLeft, inRight⟩ := straight
      have operands : Mirrors (do
          let x ← left.eval fuel
          let y ← right.eval fuel
          return (x, y)) ((left.declarations fuel).andThen (left.eval fuel) fun _ => right.declarations fuel)
          (do left.check; right.check) :=
        mirrors_bind (eval_mirrors fuel left inLeft) fun x =>
          mirrors_bind_nothing (eval_mirrors fuel right inRight) fun y => mirrors_pure (x, y)
      have applied : ∀ values : Value × Value, Mirrors (if operator = "=" then assign line values.2 left
          else onLine line (applyBinary operator values.1 values.2)) nothing (pure ()) := by
        intro values
        by_cases assigns : operator = "="
        · rw [if_pos assigns]
          exact mirrors_assign line values.2 left
        · rw [if_neg assigns]
          exact mirrors_on_line line (applyBinary operator values.1 values.2)
      have passes := binary_target line fuel operator left right
      simp only [Expr.eval, Expr.declarations, Expr.check] at passes ⊢
      exact mirrors_unless passes (mirrors_traced (mirrors_bind_nothing (mirrors_indented operands) applied))
  | .unary line operator operand =>
      simp only [Expr.nodes, List.forall_mem_cons] at straight
      simp only [Expr.eval, Expr.declarations, Expr.check]
      exact mirrors_traced (mirrors_bind_nothing (mirrors_indented (eval_mirrors fuel operand straight.2))
        fun value => mirrors_on_line line (applyUnary operator value))
  | .literal line text => exact mirrors_traced (mirrors_on_line line (Value.ofLiteral text))
  | .identifier line name => exact mirrors_read line name
  | .call line name arguments =>
      simp only [Expr.nodes, List.forall_mem_cons] at straight
      have passes := call_known line fuel name arguments
      simp only [Expr.eval, Expr.declarations, Expr.check] at passes ⊢
      exact mirrors_unless passes
        (mirrors_bind_nothing (arguments_mirror fuel arguments straight.2) (mirrors_call line name))
  | .empty _ => exact mirrors_pure Value.none

theorem all_mirror (fuel : Nat) (exprs : List Expr) (last : Value)
    (straight : ∀ node ∈ nodesOfAll exprs, node.isControl = false) :
    Mirrors (evalAll fuel exprs last) (declarationsOfAll fuel exprs) (checkAll exprs) := by
  match exprs with
  | [] => exact mirrors_pure last
  | first :: others =>
      rw [nodesOfAll, List.forall_mem_append] at straight
      simp only [evalAll, declarationsOfAll, checkAll]
      exact mirrors_bind (eval_mirrors fuel first straight.1) fun value =>
        all_mirror fuel others value straight.2

theorem arguments_mirror (fuel : Nat) (exprs : List Expr)
    (straight : ∀ node ∈ nodesOfAll exprs, node.isControl = false) :
    Mirrors (evalArguments fuel exprs) (declarationsOfAll fuel exprs) (checkAll exprs) := by
  match exprs with
  | [] => exact mirrors_pure []
  | first :: others =>
      rw [nodesOfAll, List.forall_mem_append] at straight
      simp only [evalArguments, declarationsOfAll, checkAll]
      exact mirrors_bind (eval_mirrors fuel first straight.1) fun value =>
        mirrors_bind_nothing (arguments_mirror fuel others straight.2) fun values => mirrors_pure (value :: values)

end

theorem execute_mirrors (fuel : Nat) (program : Program) (straight : program.IsStraight) :
    Mirrors (program.execute fuel) (program.declarations fuel) program.check := by
  have concluded : ∀ value, Mirrors (do trace .programEnd; modify (Context.record (.evaluated value)); return value)
      nothing (modify fun survey => { survey with log := .checked :: survey.log }) :=
    fun value survey context agree => ⟨_, rfl, agree⟩
  have whole := mirrors_bind (mirrors_in_scope (all_mirror fuel program.statements .none straight)) concluded
  rw [and_then_nothing] at whole
  exact mirrors_traced whole

theorem analyze_of_concurs {program : Program} {made : List Declaration} {table : SymbolTable}
    (concurs : Concurs made program.check {} table) :
    program.analyze = match made.find? Declaration.isRepeated with
      | none => .ok ()
      | some declaration => .error ⟨declaration.line, .redeclaration declaration.name⟩ := by
  unfold Concurs at concurs
  unfold Program.analyze
  cases repeated : made.find? Declaration.isRepeated with
  | none =>
      rw [repeated] at concurs
      obtain ⟨left, passed, -⟩ := concurs
      rw [passed]
  | some declaration =>
      rw [repeated] at concurs
      obtain ⟨left, stopped⟩ := concurs
      rw [stopped]

/-- If a program without branches and loops runs to its end, then the check accepts it, unless it declares a name
twice in one scope. This is so exactly if one of the declarations that the run comes to names a variable that the
scope at that point declares already; the log shows the same declarations. -/
theorem straight_program_checked (program : Program) (straight : program.IsStraight) (fuel : Nat) (output : Sink)
    (log : Log) (value : Value) (after : Context)
    (returned : program.execute fuel { output, log } = .ok value after) :
    (program.analyze = .ok () ∨ ∃ line name, program.analyze = .error ⟨line, .redeclaration name⟩) ∧
    ((∃ line name, program.analyze = .error ⟨line, .redeclaration name⟩) ↔
      ∃ declaration ∈ program.declarations fuel { output, log }, declaration.isRepeated = true) ∧
    declaredIn after.log =
      declaredIn log ++ (program.declarations fuel { output, log }).map Declaration.name := by
  have concurs := execute_mirrors fuel program straight {} { output, log } rfl
  have logs := execute_logs fuel program { output, log }
  unfold Meets at concurs
  unfold Eval.after at logs
  rw [returned] at concurs logs
  have analyzed := analyze_of_concurs concurs
  cases repeated : (program.declarations fuel { output, log }).find? Declaration.isRepeated with
  | none =>
      rw [repeated] at analyzed
      refine ⟨.inl analyzed, ⟨?_, ?_⟩, logs⟩
      · rintro ⟨line, name, refused⟩
        rw [analyzed] at refused
        cases refused
      · rintro ⟨declaration, member, again⟩
        exact absurd again (List.find?_eq_none.mp repeated declaration member)
  | some declaration =>
      rw [repeated] at analyzed
      have refused : ∃ line name, program.analyze = .error ⟨line, .redeclaration name⟩ := ⟨_, _, analyzed⟩
      refine ⟨.inr refused, ⟨fun _ => ?_, fun _ => refused⟩, logs⟩
      exact ⟨declaration, List.mem_of_find?_eq_some repeated, List.find?_some repeated⟩

-- The program `let x = true; { let x = let y; y = print(x, let y); } x`: the inner `x` is another variable, but the
-- argument declares `y` once more in the block.
def nestedDeclarations : Program :=
  ⟨[.declare 1 "x" (some (.literal 1 "true")),
    .block 2 [.declare 2 "x" (some (.declare 2 "y" none)),
      .binary 3 "=" (.identifier 3 "y") (.call 3 "print" [.identifier 3 "x", .declare 3 "y" none])],
    .identifier 4 "x"]⟩

theorem nested_declarations_checked : nestedDeclarations.IsStraight ∧
    ∃ value after, nestedDeclarations.execute 1 {} = .ok value after ∧
      (∃ line name, nestedDeclarations.analyze = .error ⟨line, .redeclaration name⟩) ∧
      declaredIn after.log = ["x", "y", "x", "y"] := by
  have straight : nestedDeclarations.IsStraight := by
    unfold Program.IsStraight
    decide
  have checked := straight_program_checked nestedDeclarations straight 1 {} [] _ _ rfl
  refine ⟨straight, _, _, rfl, checked.2.1.mpr ?_, checked.2.2⟩
  exact ⟨_, .tail _ (.tail _ (.tail _ (.head _))), rfl⟩

end Scriptlet
