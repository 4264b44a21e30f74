import Scriptlet.Builtin

set_option autoImplicit false

namespace Scriptlet

theorem on_number_quiet (function : Float → Float) (arguments : List Value) :
    (∃ value, ∀ output, Builtin.onNumber function arguments output = .ok value output) ∨
      ∃ fault, ∀ output, Builtin.onNumber function arguments output = .error fault output := by
  match arguments with
  | [] => exact .inl ⟨.none, fun _ => rfl⟩
  | [argument] =>
      simp only [Builtin.onNumber]
      cases argument.asNumber with
      | ok x => exact .inl ⟨.number (function x), fun _ => rfl⟩
      | error fault => exact .inr ⟨fault, fun _ => rfl⟩
  | _ :: _ :: _ => exact .inl ⟨.none, fun _ => rfl⟩

theorem apply_quiet {builtin : Builtin} (quiet : builtin ≠ .print) (arguments : List Value) :
    (∃ value, ∀ output, builtin.apply arguments output = .ok value output) ∨
      ∃ fault, ∀ output, builtin.apply arguments output = .error fault output := by
  cases builtin with
  | sin => exact on_number_quiet Float.sin arguments
  | floor => exact on_number_quiet Float.floor arguments
  | print => exact absurd rfl quiet

theorem invoke_quiet {builtin : Builtin} (quiet : builtin ≠ .print) (arguments : List Value) :
    (∃ value, ∀ output, builtin.invoke arguments output = .ok value output) ∨
      ∃ fault, ∀ output, builtin.invoke arguments output = .error fault output := by
  unfold Builtin.invoke
  cases builtin.checkArguments arguments with
  | error fault => exact .inr ⟨fault, fun _ => rfl⟩
  | ok =>
      obtain ⟨value, returns⟩ | ⟨fault, fails⟩ := apply_quiet quiet arguments
      · by_cases kind : value.kind = builtin.returns
        · refine .inl ⟨value, fun output => ?_⟩
          change EStateM.bind _ _ output = _
          simp only [EStateM.bind, returns, if_pos kind]
          rfl
        · refine .inr ⟨.resultKindMismatch builtin.name builtin.returns value.kind, fun output => ?_⟩
          change EStateM.bind _ _ output = _
          simp only [EStateM.bind, returns, if_neg kind]
          rfl
      · refine .inr ⟨fault, fun output => ?_⟩
        change EStateM.bind _ _ output = _
        simp only [EStateM.bind, fails]

theorem print_invoke (arguments : List Value) (output : Sink) :
    Builtin.print.invoke arguments output =
      match Sink.write (Builtin.printed arguments) output with
      | .ok _ output => .ok .none output
      | .error fault output => .error (.output fault) output := by
  change EStateM.bind (Builtin.print.apply arguments) _ output = _
  simp only [EStateM.bind, Builtin.apply]
  cases Sink.write (Builtin.printed arguments) output <;> rfl

def Appends (call : EStateM RuntimeFault Sink Value) : Prop :=
  ∃ written, (∃ value, ∀ bytes, call ⟨none, bytes⟩ = .ok value ⟨none, bytes ++ written⟩) ∨
    ∃ fault, ∀ bytes, call ⟨none, bytes⟩ = .error fault ⟨none, bytes ++ written⟩

theorem invoke_appends (builtin : Builtin) (arguments : List Value) :
    Appends (builtin.invoke arguments) := by
  by_cases prints : builtin = .print
  · subst prints
    refine ⟨(Builtin.printed arguments).toUTF8, .inl ⟨.none, fun bytes => ?_⟩⟩
    rw [print_invoke]
    rfl
  · obtain ⟨value, returns⟩ | ⟨fault, fails⟩ := invoke_quiet prints arguments
    · exact ⟨.empty, .inl ⟨value, fun bytes => by rw [returns, ByteArray.append_empty]⟩⟩
    · exact ⟨.empty, .inr ⟨fault, fun bytes => by rw [fails, ByteArray.append_empty]⟩⟩

end Scriptlet
