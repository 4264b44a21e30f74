import Scriptlet.Proofs.Evaluation.Raised
import Scriptlet.Proofs.Grammar.Blame
import Scriptlet.Proofs.Grammar.RoundTrip
import Scriptlet.Proofs.Script.Conclusion

set_option autoImplicit false

namespace Scriptlet

def SyntacticFault.isInternal : SyntacticFault → Bool
  | .unknownBinaryOperator _ => true
  | _ => false

def Failure.isInternal : Failure → Bool
  | .syntactic error => error.cause.isInternal
  | .runtime error => error.cause.isInternal
  | _ => false

theorem blamed_not_internal {endLine : Nat} {tokens : List Token} {error : SyntacticError}
    (blames : Grammar.Blames endLine tokens error) : error.cause.isInternal = false := by
  cases blames <;> rfl

namespace Script

abbrev NotInternalFailure (failure : Failure) : Prop := failure.isInternal = false

theorem stages_not_internal (source : String) : Stages source NotInternalFailure where
  scanning _ := rfl
  reading _ failed := blamed_not_internal (Grammar.program_blames _ _ failed)
  checking _ _ _ := rfl
  executing := by
    intro tokens program fuel context after error scanned read failed
    have wellFormed := program_well_formed source tokens program scanned read
    have raises := execute_raises fuel program (well_formed_permitted wellFormed) context
    unfold Eval.Meets at raises
    rw [failed] at raises
    exact raises error rfl
  writing _ := rfl

theorem concludes_evaluate (fuel : Nat) (source : String) :
    Concludes (fun _ => True) NotInternalFailure (evaluate fuel source) :=
  evaluate_concludes (stages_not_internal source) fuel

theorem concludes_run (fuel : Nat) (options : Options) (source : String) :
    Concludes (fun _ => True) NotInternalFailure (run fuel options source) :=
  run_concludes (stages_not_internal source) fuel options

end Script

/-- No run of a source text that ends, whatever sections are asked for and wherever the output goes, ends
with an internal failure. -/
theorem no_internal_failure (fuel : Nat) (options : Options) (source : String)
    (transcript after : Transcript) (failure : Failure) :
    (Script.evaluate fuel source transcript = .error (.failed failure) after →
      failure.isInternal = false) ∧
    (Script.run fuel options source transcript = .error (.failed failure) after →
      failure.isInternal = false) := by
  constructor
  · intro failed
    have concluded := Script.concludes_evaluate fuel source transcript
    rw [failed] at concluded
    exact concluded
  · intro failed
    have concluded := Script.concludes_run fuel options source transcript
    rw [failed] at concluded
    exact concluded

theorem negated_text_fails :
    (∃ after, Script.evaluate 0 "!\"a\"" {} =
      .error (.failed (.runtime ⟨1, .expectedBoolean .string⟩)) after) ∧
    (Failure.runtime ⟨1, .expectedBoolean .string⟩).isInternal = false := by
  have scanned : tokenize "!\"a\"" =
      .ok [⟨⟨.operator, "!"⟩, 1⟩, ⟨⟨.literal, "\"a\""⟩, 1⟩] := by decide +kernel
  have failed : ∃ after, Script.evaluate 0 "!\"a\"" {} =
      .error (.failed (.runtime ⟨1, .expectedBoolean .string⟩)) after := by
    unfold Script.evaluate Script.scan
    rw [scanned]
    exact ⟨_, rfl⟩
  obtain ⟨after, failed⟩ := failed
  exact ⟨⟨after, failed⟩, (no_internal_failure 0 {} _ {} after _).1 failed⟩

end Scriptlet
