import Scriptlet.Grammar.Cursor
import Scriptlet.Parser.Refinement

set_option autoImplicit false

namespace Scriptlet

namespace Parse

def answer {α : Type} (parse : Parse α) (parser : Parser) : Except (Stop SyntacticError) α :=
  match parse parser with
  | .ok read _ => .ok read
  | .error stop _ => .error stop

theorem program_agrees (tokens : List Token) (fuel position : Nat) :
    Agrees tokens (fun read _ other => read = other) position (program fuel ⟨tokens, position⟩)
      (Grammar.program (lastLine tokens) fuel (ahead tokens position)) := by
  rw [program, Grammar.program]
  refine agrees_bind ((rules_agree tokens fuel).statements position) fun statements _ later alike => ?_
  cases alike
  obtain ⟨last, peeked, moves, -, -⟩ := @peek_finds tokens later
  rw [bind_of_read peeked]
  cases ahead tokens later with
  | nil => exact .read moves rfl
  | cons token rest => exact .stopped moves

theorem program_answers (tokens : List Token) (fuel : Nat) :
    (program fuel).answer ⟨tokens, 0⟩ = Grammar.program (lastLine tokens) fuel (ahead tokens 0) := by
  have agrees := program_agrees tokens fuel 0
  rw [answer]
  generalize program fuel ⟨tokens, 0⟩ = result, Grammar.program _ _ _ = other at agrees ⊢
  cases agrees with
  | read moves alike => rw [alike]
  | stopped moves => rfl

theorem program_enough (tokens : List Token) :
    (program (Cursor.ofTokens tokens).fuel).answer ⟨tokens, 0⟩ ≠ .error .outOfFuel := by
  rw [program_answers]
  exact (Cursor.ofTokens tokens).program_enough

end Parse

def Program.ofTokens (tokens : List Token) : Except SyntacticError Program :=
  Stop.settle _ (Parse.program_enough tokens)

theorem program_of_tokens (tokens : List Token) :
    Program.ofTokens tokens = (Cursor.ofTokens tokens).program := by
  rw [Program.ofTokens, Cursor.program]
  have enough := Parse.program_enough tokens
  change Stop.settle _ enough = _
  revert enough
  rw [Parse.program_answers]
  exact fun _ => rfl

end Scriptlet
