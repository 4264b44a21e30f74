import Scriptlet.Proofs.Evaluation.Composition
import Scriptlet.Proofs.Evaluation.Outcome
import Scriptlet.Proofs.Evaluation.ValueFault
import Scriptlet.Proofs.Value.Literal

set_option autoImplicit false

namespace Scriptlet

open Eval

def Expr.MayRaise (fault : RuntimeFault) : Expr → Prop
  | .branch .. | .loop .. => fault.isAboutValues = true
  | .binary _ operator _ _ => fault.isAboutValues = true ∨ fault.isAboutNames = true ∨
      fault = .unsupportedOperator operator ∧ Operator.find? operator .binary = none
  | .unary _ operator _ => fault.isAboutValues = true ∨
      fault = .unsupportedOperator operator ∧ Operator.find? operator .unary = none
  | .literal _ text => Value.ofLiteral text = .error fault
  | .identifier _ name => fault = .undefinedSymbol name
  | .call _ name _ => fault.isAboutValues = true ∨ fault = .undefinedFunction name
  | .block .. | .declare .. | .empty _ => False

def Eval.Raises {α : Type} (allowed : RuntimeError → Prop) (action : Eval α) : Prop :=
  ∀ context, Meets (fun _ _ => True) (fun stop _ => ∀ error, stop = .failed error → allowed error) action
    context

section Actions

variable {α β : Type} {allowed : RuntimeError → Prop}

theorem raises_pure (result : α) : Raises allowed (pure result) := fun _ => trivial

theorem raises_fail {line : Nat} {fault : RuntimeFault} (permitted : allowed ⟨line, fault⟩) :
    Raises allowed (fail line fault : Eval α) := by
  intro context error same
  cases same
  exact permitted

theorem raises_bind {action : Eval α} {next : α → Eval β} (raises : Raises allowed action)
    (continues : ∀ result, Raises allowed (next result)) : Raises allowed (action >>= next) :=
  fun context => meets_bind (raises context) fun result after _ => continues result after

theorem raises_trace (event : Event) : Raises allowed (trace event) := fun _ => trivial

theorem raises_on_line {line : Nat} {outcome : Except RuntimeFault α}
    (permitted : ∀ fault, outcome = .error fault → allowed ⟨line, fault⟩) :
    Raises allowed (onLine line outcome) := by
  cases outcome with
  | ok result => exact raises_pure result
  | error fault => exact raises_fail (permitted fault rfl)

theorem raises_between {before after : Context → Context} {action : Eval α}
    (raises : Raises allowed action) : Raises allowed (between before after action) :=
  fun context => meets_between (raises (before context))

theorem raises_declare (name : String) (value : Value) : Raises allowed (declare name value) :=
  fun _ => meets_declare trivial

theorem raises_read {line : Nat} {name : String} (permitted : allowed ⟨line, .undefinedSymbol name⟩) :
    Raises allowed (readVariable line name) := by
  intro context
  refine meets_read (fun _ _ => trivial) fun _ error same => ?_
  cases same
  exact permitted

theorem raises_assign {line : Nat} {value : Value} {target : Expr}
    (permitted : ∀ fault : RuntimeFault, fault.isAboutNames = true → allowed ⟨line, fault⟩) :
    Raises allowed (assign line value target) := by
  cases target with
  | identifier _ name =>
      intro context
      refine meets_assign (fun _ _ => trivial) fun _ error same => ?_
      cases same
      exact permitted _ rfl
  | _ => exact raises_fail (permitted _ rfl)

theorem raises_call {line : Nat} {name : String} {arguments : List Value}
    (permitted : ∀ fault : RuntimeFault, fault.isAboutValues = true ∨ fault = .undefinedFunction name →
      allowed ⟨line, fault⟩) :
    Raises allowed (call line name arguments) := by
  apply raises_bind (raises_trace _)
  intro _
  cases Builtin.find? name with
  | none => exact raises_fail (permitted _ (.inr rfl))
  | some builtin =>
      intro context
      refine meets_invoke (fun _ _ _ => trivial) fun fault _ failed error same => ?_
      cases same
      exact permitted fault (.inl (invocation_fault failed))

theorem raises_composes (allowed : RuntimeError → Prop) : Composes (Raises allowed) where
  pure := raises_pure
  exhausted _ _ impossible := nomatch impossible
  bind := raises_bind
  trace := raises_trace
  record _ _ := trivial
  indented := raises_between
  inScope := raises_between

theorem node_raises {node : Expr} (permitted : ∀ fault, node.MayRaise fault → allowed ⟨node.line, fault⟩) :
    node.Acts (Raises allowed) := by
  cases node with
  | block | empty => trivial
  | declare line name initializer => exact fun value => raises_declare name value
  | branch | loop =>
      exact fun value => raises_on_line fun fault failed => permitted fault (boolean_fault failed)
  | binary line operator left right =>
      intro x y
      by_cases assigns : operator = "="
      · rw [if_pos assigns]
        exact raises_assign fun fault names => permitted fault (.inr (.inl names))
      · rw [if_neg assigns]
        apply raises_on_line
        intro fault failed
        apply permitted fault
        rcases binary_fault failed with values | ⟨unsupported, isAssignment | unknown⟩
        · exact .inl values
        · exact absurd isAssignment assigns
        · exact .inr (.inr ⟨unsupported, unknown⟩)
  | unary line operator operand =>
      exact fun value => raises_on_line fun fault failed => permitted fault (unary_fault failed)
  | literal line text => exact raises_on_line permitted
  | identifier line name => exact raises_read (permitted _ rfl)
  | call line name arguments => exact fun values => raises_call permitted

end Actions

section Trees

variable (allowed : RuntimeError → Prop)

def Permitted (nodes : List Expr) : Prop :=
  ∀ node ∈ nodes, ∀ fault, node.MayRaise fault → allowed ⟨node.line, fault⟩

variable {allowed}

theorem execute_raises (fuel : Nat) (program : Program)
    (permitted : Permitted allowed (nodesOfAll program.statements)) :
    Raises allowed (program.execute fuel) :=
  execute_composes (raises_composes allowed) fuel program fun node member =>
    node_raises (permitted node member)

end Trees

def NotInternal (error : RuntimeError) : Prop := error.cause.isInternal = false

theorem not_internal_of_names {fault : RuntimeFault} (names : fault.isAboutNames = true) :
    fault.isInternal = false := by
  cases fault <;> cases names <;> rfl

theorem node_not_internal {node : Expr} {place : Place} (wellFormed : node.WellFormed place)
    (fault : RuntimeFault) (raised : node.MayRaise fault) : NotInternal ⟨node.line, fault⟩ := by
  cases node with
  | branch | loop => exact not_internal_of_values raised
  | binary line operator left right =>
      obtain ⟨⟨entry, known⟩, -⟩ := wellFormed
      rcases raised with values | names | ⟨-, unknown⟩
      · exact not_internal_of_values values
      · exact not_internal_of_names names
      · cases unknown.symm.trans known
  | unary line operator operand =>
      obtain ⟨⟨entry, known⟩, -⟩ := wellFormed
      rcases raised with values | ⟨-, unknown⟩
      · exact not_internal_of_values values
      · cases unknown.symm.trans known
  | literal line text =>
      obtain ⟨value, valid⟩ := literal_value text wellFormed
      cases raised.symm.trans valid
  | identifier line name =>
      cases raised
      rfl
  | call line name arguments =>
      rcases raised with values | rfl
      · exact not_internal_of_values values
      · rfl
  | block | declare | empty => exact raised.elim

theorem well_formed_permitted {exprs : List Expr} {place : Place} (wellFormed : WellFormedAll place exprs) :
    Permitted NotInternal (nodesOfAll exprs) := by
  intro node member
  obtain ⟨place, here⟩ := nodes_well_formed (well_formed_of_all wellFormed) node member
  exact node_not_internal here

end Scriptlet
