import Scriptlet.Evaluation

set_option autoImplicit false

namespace Scriptlet.Eval

variable {α β : Type} {returns : α → Context → Prop} {stops : Stop RuntimeError → Context → Prop}
  {context : Context}

def Meets (returns : α → Context → Prop) (stops : Stop RuntimeError → Context → Prop)
    (action : Eval α) (context : Context) : Prop :=
  match action context with
  | .ok result after => returns result after
  | .error stop after => stops stop after

def after (action : Eval α) (context : Context) : Context :=
  match action context with
  | .ok _ left => left
  | .error _ left => left

theorem meets_after {holds : Context → Prop} {action : Eval α}
    (meets : Meets (fun _ left => holds left) (fun _ left => holds left) action context) :
    holds (action.after context) := by
  unfold Meets at meets
  unfold after
  cases answer : action context with
  | ok result left =>
      rw [answer] at meets
      exact meets
  | error stop left =>
      rw [answer] at meets
      exact meets

theorem meets_pure {result : α} (holds : returns result context) :
    Meets returns stops (pure result) context := holds

theorem meets_fail {line : Nat} {fault : RuntimeFault} (holds : stops (.failed ⟨line, fault⟩) context) :
    Meets returns stops (fail line fault) context := holds

theorem meets_mono {returned : α → Context → Prop} {stopped : Stop RuntimeError → Context → Prop}
    {action : Eval α} (meets : Meets returns stops action context)
    (returning : ∀ result after, returns result after → returned result after)
    (stopping : ∀ stop after, stops stop after → stopped stop after) :
    Meets returned stopped action context := by
  unfold Meets at meets ⊢
  cases answer : action context with
  | ok result after =>
      rw [answer] at meets
      exact returning result after meets
  | error stop after =>
      rw [answer] at meets
      exact stopping stop after meets

theorem meets_bind {first : Eval α} {next : α → Eval β} {returned : β → Context → Prop}
    (meets : Meets returns stops first context)
    (continues : ∀ result after, returns result after → Meets returned stops (next result) after) :
    Meets returned stops (first >>= next) context := by
  unfold Meets at meets
  change Meets returned stops (EStateM.bind first next) context
  unfold Meets EStateM.bind
  cases answer : first context with
  | ok result after =>
      rw [answer] at meets
      exact continues result after meets
  | error stop after =>
      rw [answer] at meets
      exact meets

theorem meets_trace {event : Event} {returns : Unit → Context → Prop}
    (holds : returns () (context.trace event)) : Meets returns stops (trace event) context := holds

theorem meets_on_line {line : Nat} {outcome : Except RuntimeFault α}
    (returned : ∀ result, outcome = .ok result → returns result context)
    (failed : ∀ fault, outcome = .error fault → stops (.failed ⟨line, fault⟩) context) :
    Meets returns stops (onLine line outcome) context := by
  cases outcome with
  | ok result => exact meets_pure (returned result rfl)
  | error fault => exact meets_fail (failed fault rfl)

theorem meets_between {before after : Context → Context} {action : Eval α}
    (meets : Meets (fun result inner => returns result (after inner))
      (fun stop inner => stops stop (after inner)) action (before context)) :
    Meets returns stops (between before after action) context := by
  unfold Meets at meets
  unfold Meets between
  cases answer : action (before context) with
  | ok result inner =>
      rw [answer] at meets
      exact meets
  | error stop inner =>
      rw [answer] at meets
      exact meets

theorem meets_declare {name : String} {value : Value} {returns : Value → Context → Prop}
    (holds : returns value ((context.trace (.declaration name value)).declare name value)) :
    Meets returns stops (declare name value) context := holds

theorem read_variable_run (line : Nat) (name : String) (context : Context) :
    readVariable line name context =
      (match (context.symbols.lookup name).bind context.symbols.get? with
        | none => fail line (.undefinedSymbol name)
        | some value => do
            trace (.identifier name value)
            return value) context := rfl

theorem assign_variable_run (line : Nat) (name : String) (value : Value) (context : Context) :
    assignVariable line name value context =
      (match (context.symbols.lookup name).bind (context.symbols.set? · value) with
        | none => fail line (.undefinedSymbol name)
        | some symbols => do
            modify fun before : Context => { before with symbols }
            return value) context := rfl

theorem meets_read {line : Nat} {name : String} {returns : Value → Context → Prop}
    (found : ∀ value, (context.symbols.lookup name).bind context.symbols.get? = some value →
      returns value (context.trace (.identifier name value)))
    (missing : (context.symbols.lookup name).bind context.symbols.get? = none →
      stops (.failed ⟨line, .undefinedSymbol name⟩) context) :
    Meets returns stops (readVariable line name) context := by
  unfold Meets
  rw [read_variable_run]
  cases answer : (context.symbols.lookup name).bind context.symbols.get? with
  | none => exact missing answer
  | some value => exact found value answer

theorem meets_assign {line : Nat} {name : String} {value : Value} {returns : Value → Context → Prop}
    (found : ∀ symbols, (context.symbols.lookup name).bind (context.symbols.set? · value) = some symbols →
      returns value { context with symbols })
    (missing : (context.symbols.lookup name).bind (context.symbols.set? · value) = none →
      stops (.failed ⟨line, .undefinedSymbol name⟩) context) :
    Meets returns stops (assignVariable line name value) context := by
  unfold Meets
  rw [assign_variable_run]
  cases answer : (context.symbols.lookup name).bind (context.symbols.set? · value) with
  | none => exact missing answer
  | some symbols => exact found symbols answer

theorem meets_invoke {line : Nat} {builtin : Builtin} {arguments : List Value}
    {returns : Value → Context → Prop}
    (returned : ∀ result output, builtin.invoke arguments context.output = .ok result output →
      returns result { context with output })
    (failed : ∀ fault output, builtin.invoke arguments context.output = .error fault output →
      stops (.failed ⟨line, fault⟩) { context with output }) :
    Meets returns stops (invoke line builtin arguments) context := by
  obtain ⟨symbols, output, depth, log⟩ := context
  unfold Meets invoke
  dsimp only
  cases answer : builtin.invoke arguments output with
  | ok result later => exact returned result later answer
  | error fault later => exact failed fault later answer

theorem meets_repeat {test : Eval Bool} {body : Eval Value} {returns : Value → Context → Prop}
    (invariant ready : Context → Prop)
    (tests : ∀ context, invariant context →
      Meets (fun holds after => if holds then ready after else ∀ last, returns last after) stops test
        context)
    (turns : ∀ context, ready context → Meets (fun _ after => invariant after) stops body context)
    (exhausted : ∀ context, invariant context → stops .outOfFuel context)
    (fuel : Nat) (last : Value) (context : Context) (holds : invariant context) :
    Meets returns stops (repeatWhile test body fuel last) context := by
  induction fuel generalizing last context with
  | zero => exact exhausted context holds
  | succ fuel ih =>
      apply meets_bind (tests context holds)
      intro goesOn after tested
      cases goesOn with
      | false => exact meets_pure (tested last)
      | true =>
          apply meets_bind (turns after tested)
          intro value later again
          exact ih value later again

abbrev Returns (returns : α → Prop) (action : Eval α) (context : Context) : Prop :=
  Meets (fun result _ => returns result) (fun _ _ => True) action context

theorem returns_any {returns : α → Prop} {action : Eval α} (all : ∀ result, returns result) :
    Returns returns action context := by
  unfold Returns Meets
  cases action context with
  | ok result after => exact all result
  | error stop after => trivial

theorem returns_behind {returns : β → Prop} {first : Eval α} {next : α → Eval β}
    (continues : ∀ result after, Returns returns (next result) after) :
    Returns returns (first >>= next) context := by
  have anything : Returns (fun _ => True) first context := returns_any fun _ => trivial
  exact meets_bind anything fun result after _ => continues result after

theorem returns_result {returns : α → Prop} {action : Eval α} (meets : Returns returns action context)
    {result : α} {after : Context} (returned : action context = .ok result after) : returns result := by
  unfold Returns Meets at meets
  rw [returned] at meets
  exact meets

end Scriptlet.Eval
