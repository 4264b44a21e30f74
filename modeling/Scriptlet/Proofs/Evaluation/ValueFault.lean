import Scriptlet.Builtin
import Scriptlet.Proofs.Operator.Table
import Scriptlet.Value.Literal

set_option autoImplicit false

namespace Scriptlet

def RuntimeFault.isAboutNames : RuntimeFault → Bool
  | .undefinedSymbol _ => true
  | .undefinedFunction _ => true
  | .invalidAssignmentTarget => true
  | _ => false

-- Faults that stand for a disagreement between the parts of the interpreter.
def RuntimeFault.isInternal : RuntimeFault → Bool
  | .unsupportedOperator _ => true
  | .invalidLiteral _ => true
  | .resultKindMismatch .. => true
  | _ => false

def RuntimeFault.isAboutValues (fault : RuntimeFault) : Bool := !fault.isAboutNames && !fault.isInternal

section Except

variable {ε α β : Type} {first : Except ε α} {next : α → Except ε β}

theorem except_bind_ok {result : β} (returned : first >>= next = .ok result) :
    ∃ a, first = .ok a ∧ next a = .ok result := by
  cases first with
  | error error => cases returned
  | ok a => exact ⟨a, rfl, returned⟩

theorem except_bind_error {error : ε} (failed : first >>= next = .error error) :
    first = .error error ∨ ∃ a, first = .ok a ∧ next a = .error error := by
  cases first with
  | error other =>
      cases failed
      exact .inl rfl
  | ok a => exact .inr ⟨a, rfl, failed⟩

end Except

variable {fault : RuntimeFault}

theorem not_names_of_values (values : fault.isAboutValues = true) : fault.isAboutNames = false := by
  simp only [RuntimeFault.isAboutValues, Bool.and_eq_true, Bool.not_eq_true'] at values
  exact values.1

theorem not_internal_of_values (values : fault.isAboutValues = true) : fault.isInternal = false := by
  simp only [RuntimeFault.isAboutValues, Bool.and_eq_true, Bool.not_eq_true'] at values
  exact values.2

theorem number_fault {value : Value} (failed : value.asNumber = .error fault) :
    fault.isAboutValues = true := by
  cases value <;> cases failed <;> rfl

theorem boolean_fault {value : Value} (failed : value.asBoolean = .error fault) :
    fault.isAboutValues = true := by
  cases value <;> cases failed <;> rfl

theorem numbers_fault {left right : Value} (failed : numbers left right = .error fault) :
    fault.isAboutValues = true := by
  rcases except_bind_error failed with first | ⟨x, -, failed⟩
  · exact number_fault first
  rcases except_bind_error failed with second | ⟨y, -, ⟨⟩⟩
  exact number_fault second

theorem booleans_fault {left right : Value} (failed : booleans left right = .error fault) :
    fault.isAboutValues = true := by
  rcases except_bind_error failed with first | ⟨a, -, failed⟩
  · exact boolean_fault first
  rcases except_bind_error failed with second | ⟨b, -, ⟨⟩⟩
  exact boolean_fault second

theorem arithmetic_known {operator : String} (known : operator ∈ ["+", "-", "*", "/", "%"]) (x y : Float) :
    ∃ result, arithmetic operator x y = .ok result := by
  simp only [List.mem_cons, List.not_mem_nil, or_false] at known
  rcases known with rfl | rfl | rfl | rfl | rfl <;> exact ⟨_, rfl⟩

theorem comparison_known {operator : String} (known : operator ∈ ["<", "<=", ">", ">="]) (x y : Float) :
    ∃ result, comparison operator x y = .ok result := by
  simp only [List.mem_cons, List.not_mem_nil, or_false] at known
  rcases known with rfl | rfl | rfl | rfl <;> exact ⟨_, rfl⟩

theorem on_numbers_fault {α : Type} {operation : Float → Float → Except RuntimeFault α} {wrap : α → Value}
    {left right : Value} (defined : ∀ x y, ∃ result, operation x y = .ok result)
    (failed : (do let (x, y) ← numbers left right
                  return wrap (← operation x y)) = .error fault) : fault.isAboutValues = true := by
  rcases except_bind_error failed with operands | ⟨⟨x, y⟩, -, failed⟩
  · exact numbers_fault operands
  · obtain ⟨result, computed⟩ := defined x y
    rcases except_bind_error failed with refused | ⟨_, -, ⟨⟩⟩
    cases computed.symm.trans refused

theorem on_booleans_fault {operation : Bool → Bool → Bool} {left right : Value}
    (failed : (do let (a, b) ← booleans left right
                  return Value.boolean (operation a b)) = .error fault) : fault.isAboutValues = true := by
  rcases except_bind_error failed with operands | ⟨_, -, ⟨⟩⟩
  exact booleans_fault operands

theorem binary_fault {operator : String} {left right : Value}
    (failed : applyBinary operator left right = .error fault) :
    fault.isAboutValues = true ∨ fault = .unsupportedOperator operator ∧
      (operator = "=" ∨ Operator.find? operator .binary = none) := by
  unfold applyBinary at failed
  split at failed
  · exact .inl (on_numbers_fault (arithmetic_known (by decide)) failed)
  · exact .inl (on_numbers_fault (arithmetic_known (by decide)) failed)
  · exact .inl (on_numbers_fault (arithmetic_known (by decide)) failed)
  · exact .inl (on_numbers_fault (arithmetic_known (by decide)) failed)
  · exact .inl (on_numbers_fault (arithmetic_known (by decide)) failed)
  · exact .inl (on_numbers_fault (comparison_known (by decide)) failed)
  · exact .inl (on_numbers_fault (comparison_known (by decide)) failed)
  · exact .inl (on_numbers_fault (comparison_known (by decide)) failed)
  · exact .inl (on_numbers_fault (comparison_known (by decide)) failed)
  · cases failed
  · cases failed
  · exact .inl (on_booleans_fault failed)
  · exact .inl (on_booleans_fault failed)
  · cases failed
    refine .inr ⟨rfl, ?_⟩
    cases found : Operator.find? operator .binary with
    | none => exact .inr rfl
    | some entry =>
        obtain ⟨member, binary, rfl⟩ := find_eq_some found
        have known : ∀ entry ∈ Operator.table, entry.arity = .binary → entry.lexeme ∈ ["+", "-", "*", "/",
          "%", "<", "<=", ">", ">=", "==", "!=", "&&", "||", "="] := by decide
        have listed := known entry member binary
        simp_all

theorem unary_fault {operator : String} {operand : Value}
    (failed : applyUnary operator operand = .error fault) :
    fault.isAboutValues = true ∨
      fault = .unsupportedOperator operator ∧ Operator.find? operator .unary = none := by
  unfold applyUnary at failed
  split at failed
  · cases number : operand.asNumber <;> rw [number] at failed <;> cases failed
    exact .inl (number_fault number)
  · cases number : operand.asNumber <;> rw [number] at failed <;> cases failed
    exact .inl (number_fault number)
  · cases boolean : operand.asBoolean <;> rw [boolean] at failed <;> cases failed
    exact .inl (boolean_fault boolean)
  · cases failed
    refine .inr ⟨rfl, ?_⟩
    cases found : Operator.find? operator .unary with
    | none => rfl
    | some entry =>
        obtain ⟨member, unary, rfl⟩ := find_eq_some found
        have known : ∀ entry ∈ Operator.table, entry.arity = .unary →
          entry.lexeme ∈ ["+", "-", "!"] := by decide
        have listed := known entry member unary
        simp_all

theorem literal_fault {text : String} (failed : Value.ofLiteral text = .error fault) :
    fault = .invalidLiteral text := by
  unfold Value.ofLiteral at failed
  split at failed
  · cases failed
  split at failed
  · cases failed
  split at failed
  · cases failed
  split at failed
  · cases failed
  split at failed
  · cases failed
  · cases failed
    rfl

theorem check_kinds_fault {builtin : Builtin} {position : Nat} {kinds : List ValueKind}
    {arguments : List Value} (failed : builtin.checkKinds position kinds arguments = .error fault) :
    fault.isAboutValues = true := by
  induction kinds generalizing position arguments with
  | nil => cases failed
  | cons kind kinds ih =>
      cases arguments with
      | nil => cases failed
      | cons argument arguments =>
          rw [Builtin.checkKinds] at failed
          by_cases same : argument.kind = kind
          · rw [if_pos same] at failed
            exact ih failed
          · rw [if_neg same] at failed
            cases failed
            rfl

theorem check_arguments_fault {builtin : Builtin} {arguments : List Value}
    (failed : builtin.checkArguments arguments = .error fault) : fault.isAboutValues = true := by
  unfold Builtin.checkArguments at failed
  cases parameters : builtin.parameters with
  | variadic =>
      rw [parameters] at failed
      cases failed
  | fixed kinds =>
      simp only [parameters] at failed
      by_cases count : arguments.length = kinds.length
      · rw [if_pos count] at failed
        exact check_kinds_fault failed
      · rw [if_neg count] at failed
        cases failed
        rfl

theorem on_number_fault {function : Float → Float} {arguments : List Value} {output after : Sink}
    (failed : Builtin.onNumber function arguments output = .error fault after) :
    fault.isAboutValues = true := by
  match arguments with
  | [] => cases failed
  | [argument] =>
      simp only [Builtin.onNumber] at failed
      cases number : argument.asNumber with
      | ok x =>
          rw [number] at failed
          cases failed
      | error other =>
          rw [number] at failed
          cases failed
          exact number_fault number
  | _ :: _ :: _ => cases failed

theorem apply_fault {builtin : Builtin} {arguments : List Value} {output after : Sink}
    (failed : builtin.apply arguments output = .error fault after) : fault.isAboutValues = true := by
  cases builtin with
  | sin => exact on_number_fault failed
  | floor => exact on_number_fault failed
  | print =>
      simp only [Builtin.apply] at failed
      cases written : Sink.write (Builtin.printed arguments) output with
      | ok _ sink =>
          rw [written] at failed
          cases failed
      | error other sink =>
          rw [written] at failed
          cases failed
          rfl

theorem on_number_kind {function : Float → Float} {arguments : List Value} {output after : Sink}
    {result : Value} (single : arguments.length = 1)
    (returned : Builtin.onNumber function arguments output = .ok result after) :
    result.kind = .number := by
  obtain ⟨argument, rfl⟩ := List.length_eq_one_iff.mp single
  simp only [Builtin.onNumber] at returned
  cases number : argument.asNumber with
  | ok x =>
      rw [number] at returned
      cases returned
      rfl
  | error other =>
      rw [number] at returned
      cases returned

theorem apply_returns {builtin : Builtin} {arguments : List Value} {output after : Sink} {result : Value}
    (checked : builtin.checkArguments arguments = .ok ())
    (returned : builtin.apply arguments output = .ok result after) : result.kind = builtin.returns := by
  have single : ∀ kind, builtin.parameters = .fixed [kind] → arguments.length = 1 := by
    intro kind fixed
    rw [Builtin.checkArguments, fixed] at checked
    by_cases count : arguments.length = 1
    · exact count
    · simp [count] at checked
  cases builtin with
  | sin => exact on_number_kind (single .number rfl) returned
  | floor => exact on_number_kind (single .number rfl) returned
  | print =>
      simp only [Builtin.apply] at returned
      cases written : Sink.write (Builtin.printed arguments) output with
      | ok _ sink =>
          rw [written] at returned
          cases returned
          rfl
      | error fault sink =>
          rw [written] at returned
          cases returned

theorem invocation_fault {builtin : Builtin} {arguments : List Value} {output after : Sink}
    (failed : builtin.invoke arguments output = .error fault after) : fault.isAboutValues = true := by
  unfold Builtin.invoke at failed
  cases checked : builtin.checkArguments arguments with
  | error other =>
      rw [checked] at failed
      cases failed
      exact check_arguments_fault checked
  | ok =>
      rw [checked] at failed
      change EStateM.bind _ _ output = _ at failed
      unfold EStateM.bind at failed
      cases applied : builtin.apply arguments output with
      | error other later =>
          rw [applied] at failed
          cases failed
          exact apply_fault applied
      | ok result later =>
          rw [applied] at failed
          dsimp only at failed
          rw [if_pos (apply_returns checked applied)] at failed
          cases failed

theorem as_boolean_fault {value : Value} (failed : value.asBoolean = .error fault) :
    fault.isAboutNames = false :=
  not_names_of_values (boolean_fault failed)

theorem of_literal_fault {text : String} (failed : Value.ofLiteral text = .error fault) :
    fault.isAboutNames = false := by
  rw [literal_fault failed]
  rfl

theorem apply_binary_fault {operator : String} {left right : Value}
    (failed : applyBinary operator left right = .error fault) : fault.isAboutNames = false := by
  rcases binary_fault failed with values | ⟨rfl, -⟩
  · exact not_names_of_values values
  · rfl

theorem apply_unary_fault {operator : String} {operand : Value}
    (failed : applyUnary operator operand = .error fault) : fault.isAboutNames = false := by
  rcases unary_fault failed with values | ⟨rfl, -⟩
  · exact not_names_of_values values
  · rfl

theorem invoke_fault {builtin : Builtin} {arguments : List Value} {output after : Sink}
    (failed : builtin.invoke arguments output = .error fault after) : fault.isAboutNames = false :=
  not_names_of_values (invocation_fault failed)

end Scriptlet
