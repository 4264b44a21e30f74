import Scriptlet.Proofs.Builtin.Output
import Scriptlet.Proofs.Evaluation.Composition
import Scriptlet.Proofs.Evaluation.Outcome
import Scriptlet.Proofs.Sink.Confinement

set_option autoImplicit false

namespace Scriptlet

open Eval

def contextOutlet : Outlet Context where
  sink := Context.output
  put output context := { context with output }
  sink_put _ _ := rfl
  put_put _ _ _ := rfl

structure MeetsLimit (prints : Nat → Prop) (error : RuntimeError) : Prop where
  cause : error.cause = .output .limitReached
  line : prints error.line

section Contexts

variable {bound : Nat}

theorem limited_symbols (context : Context) :
    (contextOutlet.limited bound context).symbols = context.symbols := rfl

theorem trace_inert (event : Event) : Inert contextOutlet bound (Context.trace event) :=
  ⟨fun _ => rfl, fun _ => rfl⟩

theorem record_inert (entry : Record) : Inert contextOutlet bound (Context.record entry) :=
  ⟨fun _ => rfl, fun _ => rfl⟩

theorem indent_inert : Inert contextOutlet bound Context.indent := ⟨fun _ => rfl, fun _ => rfl⟩

theorem unindent_inert : Inert contextOutlet bound Context.unindent := ⟨fun _ => rfl, fun _ => rfl⟩

theorem enter_inert : Inert contextOutlet bound Context.enterScope := ⟨fun _ => rfl, fun _ => rfl⟩

theorem leave_inert : Inert contextOutlet bound Context.leaveScope where
  keeps context := by
    rw [Context.leaveScope]
    cases context.symbols.leave? <;> rfl
  blind context := by
    rw [Context.leaveScope, Context.leaveScope, limited_symbols]
    cases context.symbols.leave? <;> rfl

theorem declare_inert (name : String) (value : Value) :
    Inert contextOutlet bound (Context.declare name value) where
  keeps context := by
    rw [Context.declare]
    cases context.symbols.declare name value <;> rfl
  blind context := by
    rw [Context.declare, Context.declare, limited_symbols]
    cases context.symbols.declare name value <;> rfl

end Contexts

section Actions

variable {α : Type} {bound : Nat} {cut : RuntimeError → Prop}

theorem between_run (before after : Context → Context) (action : Eval α) (context : Context) :
    between before after action context = mapState after (action (before context)) := by
  rw [between]
  cases action (before context) <;> rfl

theorem left_by_map (change : Context → Context) (result : EStateM.Result (Stop RuntimeError) Context α) :
    leftBy (mapState change result) = change (leftBy result) := by
  cases result <;> rfl

theorem confined_between {before after : Context → Context} (entering : Inert contextOutlet bound before)
    (leaving : Inert contextOutlet bound after) {action : Eval α}
    (confined : Confined contextOutlet bound cut action) :
    Confined contextOutlet bound cut (between before after action) where
  writes context unlimited := by
    have inside : Unlimited contextOutlet (before context) := by rwa [Unlimited, entering.keeps]
    obtain ⟨still, more, appended⟩ := confined.writes (before context) inside
    rw [between_run, left_by_map]
    refine ⟨by rwa [Unlimited, leaving.keeps], more, ?_⟩
    rw [leaving.keeps, appended, entering.keeps]
  ends context unlimited fits := by
    have inside : Unlimited contextOutlet (before context) := by rwa [Unlimited, entering.keeps]
    have room : Fits contextOutlet bound (before context) := by rwa [Fits, entering.keeps]
    rw [between_run, between_run, entering.blind]
    obtain ⟨last, exhausted⟩ | ⟨within, same⟩ | ⟨beyond, error, later, same, isCut, stored⟩ :=
      confined.ends (before context) inside room
    · exact .inl ⟨after last, by rw [exhausted]; rfl⟩
    · refine .inr (.inl ⟨by rwa [left_by_map, Fits, leaving.keeps], ?_⟩)
      rw [same]
      cases action (before context) with
      | ok result left => rw [mapState, mapState, mapState, mapState, leaving.blind]
      | error stop left => rw [mapState, mapState, mapState, mapState, leaving.blind]
    · refine .inr (.inr ⟨by rwa [left_by_map, Fits, leaving.keeps], error, after later, ?_, isCut, ?_⟩)
      · rw [same]
        rfl
      · rw [left_by_map, leaving.keeps, leaving.keeps, stored]

theorem confined_composes (bound : Nat) (cut : RuntimeError → Prop) :
    Composes (Confined contextOutlet bound cut) where
  pure := confined_pure
  exhausted := confined_throw .outOfFuel
  bind := confined_bind
  trace event := confined_modify (trace_inert event)
  record entry := confined_modify (record_inert entry)
  indented := confined_between indent_inert unindent_inert
  inScope := confined_between (inert_comp enter_inert indent_inert) (inert_comp unindent_inert leave_inert)

theorem confined_on_line (line : Nat) (outcome : Except RuntimeFault α) :
    Confined contextOutlet bound cut (onLine line outcome) := by
  cases outcome with
  | ok result => exact confined_pure result
  | error fault => exact confined_throw _

theorem confined_declare (name : String) (value : Value) :
    Confined contextOutlet bound cut (declare name value) := by
  apply confined_bind (confined_modify (trace_inert _))
  intro _
  apply confined_bind (confined_modify (declare_inert name value))
  exact fun _ => confined_pure value

theorem confined_read (line : Nat) (name : String) :
    Confined contextOutlet bound cut (readVariable line name) := by
  apply confined_silent
  constructor
  case keeps =>
    intro context
    rw [read_variable_run]
    cases (context.symbols.lookup name).bind context.symbols.get? <;> rfl
  case blind =>
    intro context
    rw [read_variable_run, read_variable_run, limited_symbols]
    cases (context.symbols.lookup name).bind context.symbols.get? <;> rfl

theorem confined_assign_variable (line : Nat) (name : String) (value : Value) :
    Confined contextOutlet bound cut (assignVariable line name value) := by
  apply confined_silent
  constructor
  case keeps =>
    intro context
    rw [assign_variable_run]
    cases (context.symbols.lookup name).bind (context.symbols.set? · value) <;> rfl
  case blind =>
    intro context
    rw [assign_variable_run, assign_variable_run, limited_symbols]
    cases (context.symbols.lookup name).bind (context.symbols.set? · value) <;> rfl

theorem confined_assign (line : Nat) (value : Value) (target : Expr) :
    Confined contextOutlet bound cut (assign line value target) := by
  cases target with
  | identifier _ name => exact confined_assign_variable line name value
  | _ => exact confined_throw _

end Actions

section Calls

variable {bound : Nat} {prints : Nat → Prop}

theorem confined_print {line : Nat} (isPrint : prints line) (arguments : List Value) :
    Confined contextOutlet bound (MeetsLimit prints) (invoke line .print arguments) := by
  apply confined_write (Builtin.printed arguments) Value.none ⟨line, .output .limitReached⟩ ⟨rfl, isPrint⟩
  rintro ⟨symbols, output, depth, log⟩
  simp only [invoke, print_invoke, contextOutlet]
  cases Sink.write (Builtin.printed arguments) output <;> rfl

theorem confined_quiet {builtin : Builtin} (quiet : builtin ≠ .print) (line : Nat) (arguments : List Value) :
    Confined contextOutlet bound (MeetsLimit prints) (invoke line builtin arguments) := by
  apply confined_silent
  obtain ⟨value, returns⟩ | ⟨fault, fails⟩ := invoke_quiet quiet arguments
  · constructor
    case keeps =>
      rintro ⟨symbols, output, depth, log⟩
      simp only [invoke, returns]
      rfl
    case blind =>
      rintro ⟨symbols, output, depth, log⟩
      simp only [invoke, returns, Outlet.limited, contextOutlet, mapState]
  · constructor
    case keeps =>
      rintro ⟨symbols, output, depth, log⟩
      simp only [invoke, fails]
      rfl
    case blind =>
      rintro ⟨symbols, output, depth, log⟩
      simp only [invoke, fails, Outlet.limited, contextOutlet, mapState]

theorem confined_call {line : Nat} {name : String} (isPrint : name = "print" → prints line)
    (values : List Value) : Confined contextOutlet bound (MeetsLimit prints) (call line name values) := by
  apply confined_bind (confined_modify (trace_inert _))
  intro _
  cases found : Builtin.find? name with
  | none => exact confined_throw _
  | some builtin =>
      by_cases print : builtin = .print
      · subst print
        have named : Builtin.print.name = name := by simpa using List.find?_some found
        exact confined_print (isPrint named.symm) values
      · exact confined_quiet print line values

end Calls

def Program.PrintsOn (program : Program) (line : Nat) : Prop :=
  ∃ arguments, Expr.call line "print" arguments ∈ nodesOfAll program.statements

theorem node_confined {bound : Nat} {program : Program} {node : Expr}
    (member : node ∈ nodesOfAll program.statements) :
    node.Acts (Confined contextOutlet bound (MeetsLimit program.PrintsOn)) := by
  cases node with
  | block | empty => trivial
  | declare line name initializer => exact fun value => confined_declare name value
  | branch line | loop line => exact fun value => confined_on_line line value.asBoolean
  | binary line operator left right =>
      intro x y
      by_cases assigns : operator = "="
      · rw [if_pos assigns]
        exact confined_assign line y left
      · rw [if_neg assigns]
        exact confined_on_line line (applyBinary operator x y)
  | unary line operator operand => exact fun value => confined_on_line line (applyUnary operator value)
  | literal line text => exact confined_on_line line (Value.ofLiteral text)
  | identifier line name => exact confined_read line name
  | call line name arguments =>
      apply confined_call
      rintro rfl
      exact ⟨arguments, member⟩

theorem execute_confined (bound fuel : Nat) (program : Program) :
    Confined contextOutlet bound (MeetsLimit program.PrintsOn) (program.execute fuel) :=
  execute_composes (confined_composes bound _) fuel program fun _ => node_confined

end Scriptlet
