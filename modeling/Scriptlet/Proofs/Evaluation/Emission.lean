import Scriptlet.Proofs.Evaluation.Isolation

/-!
The steps that an execution logs, and where in the program they come from.

`matchSteps` scans steps for beginnings that have no end yet. An `Emission` is a step with the node that it is
about and the nodes around it, up to the program; `Shows` says that a log has gained such steps, each at the depth
that the nodes around it make, and what the scan finds in them.
-/

set_option autoImplicit false

namespace Scriptlet

structure Step where
  depth : Nat
  event : Event

def Step.message (step : Step) : String := (Record.step step.depth step.event).message

def Record.step? : Record → Option Step
  | .step depth event => some ⟨depth, event⟩
  | _ => none

def Log.steps (log : Log) : List Step := log.reverse.filterMap Record.step?

theorem messages_of_steps (log : Log) : log.messages = log.steps.map Step.message := by
  rw [Log.messages, Log.steps, List.map_filterMap]
  congr 1
  funext entry
  cases entry <;> rfl

theorem steps_cons (entry : Record) (log : Log) :
    Log.steps (entry :: log) = Log.steps log ++ entry.step?.toList := by
  rw [Log.steps, List.reverse_cons, List.filterMap_append]
  cases shown : entry.step? <;> simp [Log.steps, shown]

inductive Construct where
  | program
  | block
  | branch
  | loop
deriving DecidableEq, Repr

namespace Construct

def opening : Construct → Event
  | program => .programBegin
  | block => .blockBegin
  | branch => .branchBegin
  | loop => .loopBegin

def closing : Construct → Event
  | program => .programEnd
  | block => .blockEnd
  | branch => .branchEnd
  | loop => .loopEnd

end Construct

inductive Edge where
  | opening (construct : Construct)
  | closing (construct : Construct)
deriving DecidableEq, Repr

def Event.edge? : Event → Option Edge
  | .programBegin => some (.opening .program)
  | .programEnd => some (.closing .program)
  | .blockBegin => some (.opening .block)
  | .blockEnd => some (.closing .block)
  | .branchBegin => some (.opening .branch)
  | .branchEnd => some (.closing .branch)
  | .loopBegin => some (.opening .loop)
  | .loopEnd => some (.closing .loop)
  | _ => none

@[simp] theorem edge_of_opening (construct : Construct) : construct.opening.edge? = some (.opening construct) := by
  cases construct <;> rfl

@[simp] theorem edge_of_closing (construct : Construct) : construct.closing.edge? = some (.closing construct) := by
  cases construct <;> rfl

structure Bracket where
  construct : Construct
  depth : Nat
deriving DecidableEq, Repr

-- The brackets that are unmatched behind a step, the newest first. An end has to match the newest one.
def matchStep (unmatched : List Bracket) (step : Step) : Option (List Bracket) :=
  match step.event.edge? with
  | none => some unmatched
  | some (.opening construct) => some (⟨construct, step.depth⟩ :: unmatched)
  | some (.closing construct) =>
      match unmatched with
      | [] => none
      | newest :: others => if newest = ⟨construct, step.depth⟩ then some others else none

def matchSteps (unmatched : List Bracket) (steps : List Step) : Option (List Bracket) :=
  steps.foldlM matchStep unmatched

theorem match_steps_append (unmatched : List Bracket) (steps others : List Step) :
    matchSteps unmatched (steps ++ others) =
      (matchSteps unmatched steps).bind fun middle => matchSteps middle others :=
  List.foldlM_append

section Matching

variable (unmatched : List Bracket) (construct : Construct) (depth : Nat) (steps : List Step)

theorem match_steps_opening :
    matchSteps unmatched (⟨depth, construct.opening⟩ :: steps) =
      matchSteps (⟨construct, depth⟩ :: unmatched) steps := by
  simp [matchSteps, List.foldlM_cons, matchStep]

theorem match_steps_closing :
    matchSteps (⟨construct, depth⟩ :: unmatched) (⟨depth, construct.closing⟩ :: steps) =
      matchSteps unmatched steps := by
  simp [matchSteps, List.foldlM_cons, matchStep]

theorem match_steps_plain {event : Event} (plain : event.edge? = none) :
    matchSteps unmatched (⟨depth, event⟩ :: steps) = matchSteps unmatched steps := by
  simp [matchSteps, List.foldlM_cons, matchStep, plain]

end Matching

inductive Node where
  | program (program : Program)
  | expr (expr : Expr)

namespace Node

@[simp] def parts : Node → List Expr
  | program whole => whole.statements
  | expr inner => inner.parts

def indents : Node → Bool
  | program _ | expr (.block _ _) | expr (.binary _ _ _ _) | expr (.unary _ _ _) => true
  | expr _ => false

def Emits : Node → Event → Prop
  | program _, event => event = .programBegin ∨ event = .programEnd
  | expr (.block _ _), event => event = .blockBegin ∨ event = .blockEnd
  | expr (.declare _ name _), event => ∃ value, event = .declaration name value
  | expr (.branch _ _ _ _), event => event = .branchBegin ∨ event = .branchEnd
  | expr (.loop _ _ _), event => event = .loopBegin ∨ event = .loopEnd
  | expr (.binary _ operator _ _), event => event = .binary operator
  | expr (.unary _ operator _), event => event = .unary operator
  | expr (.literal _ text), event => event = .literal text
  | expr (.identifier _ name), event => ∃ value, event = .identifier name value
  | expr (.call _ name _), event => ∃ count, event = .call name count
  | expr (.empty _), _ => False

end Node

inductive Path (program : Program) : Node → List Node → Prop where
  | root : Path program (.program program) []
  | part {node : Node} {around : List Node} (outer : Path program node around) (expr : Expr)
      (member : expr ∈ node.parts) : Path program (.expr expr) (node :: around)

def depthWithin (around : List Node) : Nat := around.countP Node.indents

structure Emission (program : Program) where
  node : Node
  around : List Node
  event : Event
  path : Path program node around
  own : node.Emits event

def Emission.step {program : Program} (emission : Emission program) : Step :=
  ⟨depthWithin emission.around, emission.event⟩

-- How an action has changed the context that emits these steps and then returns or stops.
structure Shows {program : Program} (returned : Prop) (emitted : List (Emission program))
    (context after : Context) : Prop where
  depth : after.depth = context.depth
  steps : after.log.steps = context.log.steps ++ emitted.map Emission.step
  brackets : ∀ unmatched, ∃ further,
    matchSteps unmatched (emitted.map Emission.step) = some (further ++ unmatched) ∧ (returned → further = [])

section Shows

variable {program : Program} {returned : Prop} {emitted others : List (Emission program)}
  {context middle after : Context}

theorem shows_nothing (depth : after.depth = context.depth) (steps : after.log.steps = context.log.steps) :
    Shows returned ([] : List (Emission program)) context after where
  depth := depth
  steps := by rw [steps, List.map_nil, List.append_nil]
  brackets unmatched := ⟨[], rfl, fun _ => rfl⟩

theorem shows_mono {less : Prop} (implies : less → returned) (shown : Shows returned emitted context after) :
    Shows less emitted context after where
  depth := shown.depth
  steps := shown.steps
  brackets unmatched := by
    obtain ⟨further, matched, closed⟩ := shown.brackets unmatched
    exact ⟨further, matched, fun holds => closed (implies holds)⟩

theorem shows_append (first : Shows True emitted context middle) (second : Shows returned others middle after) :
    Shows returned (emitted ++ others) context after where
  depth := second.depth.trans first.depth
  steps := by rw [second.steps, first.steps, List.map_append, List.append_assoc]
  brackets unmatched := by
    obtain ⟨further, matched, closed⟩ := first.brackets unmatched
    obtain rfl := closed trivial
    rw [List.map_append, match_steps_append, matched]
    exact second.brackets unmatched

theorem steps_trace (context : Context) (event : Event) :
    (context.trace event).log.steps = context.log.steps ++ [⟨context.depth, event⟩] := steps_cons _ _

section Construct

variable {node : Node} {around : List Node} {construct : Construct} (path : Path program node around)
  (begins : node.Emits construct.opening)

theorem shows_opened (here : context.depth = depthWithin around)
    (inner : Shows returned emitted (context.trace construct.opening) middle) :
    Shows False (⟨node, around, construct.opening, path, begins⟩ :: emitted) context middle where
  depth := inner.depth
  steps := by
    rw [inner.steps, steps_trace, here, List.append_assoc]
    rfl
  brackets unmatched := by
    obtain ⟨further, matched, -⟩ := inner.brackets (⟨construct, depthWithin around⟩ :: unmatched)
    refine ⟨further ++ [⟨construct, depthWithin around⟩], ?_, False.elim⟩
    rw [List.map_cons, Emission.step, match_steps_opening, matched, List.append_assoc]
    rfl

theorem shows_closed (here : context.depth = depthWithin around) (ends : node.Emits construct.closing)
    (inner : Shows True emitted (context.trace construct.opening) middle) :
    Shows True (⟨node, around, construct.opening, path, begins⟩ ::
      (emitted ++ [⟨node, around, construct.closing, path, ends⟩])) context (middle.trace construct.closing) where
  depth := inner.depth
  steps := by
    have same : middle.depth = depthWithin around := inner.depth.trans here
    rw [steps_trace, inner.steps, steps_trace, here, same, List.map_cons, List.map_append, List.append_assoc,
      List.append_assoc]
    rfl
  brackets unmatched := by
    obtain ⟨further, matched, closed⟩ := inner.brackets (⟨construct, depthWithin around⟩ :: unmatched)
    obtain rfl := closed trivial
    refine ⟨[], ?_, fun _ => rfl⟩
    rw [List.map_cons, List.map_append, Emission.step, match_steps_opening, match_steps_append, matched]
    exact match_steps_closing unmatched construct (depthWithin around) []

end Construct

end Shows

end Scriptlet
