import Mathlib.Data.List.Forall2
import Scriptlet.Proofs.Builtin.Output
import Scriptlet.Proofs.Evaluation.Restoration
import Scriptlet.Proofs.Evaluation.Simulation

set_option autoImplicit false

namespace Scriptlet

open Eval

theorem equal_transparent : Transparent (· = ·) where
  symbols same := congrArg Context.symbols same
  depth same := congrArg Context.depth same
  setSymbols same symbols := by rw [same]
  setDepth same depth := by rw [same]
  record same entry := by rw [same]
  invoke := by
    rintro left _ rfl builtin arguments
    cases answer : builtin.invoke arguments left.output with
    | ok value output => exact .inl ⟨value, output, output, rfl, rfl, rfl⟩
    | error fault output => exact .inr ⟨fault, output, output, rfl, rfl, rfl⟩

theorem swapped_transparent {related : Context → Context → Prop} (transparent : Transparent related) :
    Transparent fun left right => related right left where
  symbols alike := (transparent.symbols alike).symm
  depth alike := (transparent.depth alike).symm
  setSymbols alike := transparent.setSymbols alike
  setDepth alike := transparent.setDepth alike
  record alike := transparent.record alike
  invoke := by
    intro left right alike builtin arguments
    rcases transparent.invoke alike builtin arguments with
      ⟨value, output, other, first, second, later⟩ | ⟨fault, output, other, first, second, later⟩
    · exact .inl ⟨value, other, output, second, first, later⟩
    · exact .inr ⟨fault, other, output, second, first, later⟩

def Context.behind (context earlier : Context) : Context :=
  { context with
    output := { context.output with bytes := earlier.output.bytes ++ context.output.bytes }
    log := context.log ++ earlier.log }

def StandsBehind (earlier left right : Context) : Prop :=
  left.output.limit = none ∧ right = left.behind earlier

theorem behind_transparent (earlier : Context) : Transparent (StandsBehind earlier) where
  symbols alike := by rw [alike.2]; rfl
  depth alike := by rw [alike.2]; rfl
  setSymbols alike symbols := ⟨alike.1, by rw [alike.2]; rfl⟩
  setDepth alike depth := ⟨alike.1, by rw [alike.2]; rfl⟩
  record alike entry := ⟨alike.1, by rw [alike.2]; rfl⟩
  invoke := by
    rintro ⟨symbols, ⟨limit, bytes⟩, depth, log⟩ _ ⟨unlimited, rfl⟩ builtin arguments
    dsimp only at unlimited
    subst unlimited
    obtain ⟨written, ⟨value, invoked⟩ | ⟨fault, failed⟩⟩ := invoke_appends builtin arguments
    · refine .inl ⟨value, _, _, invoked bytes, invoked (earlier.output.bytes ++ bytes), rfl, ?_⟩
      rw [ByteArray.append_assoc]
      rfl
    · refine .inr ⟨fault, _, _, failed bytes, failed (earlier.output.bytes ++ bytes), rfl, ?_⟩
      rw [ByteArray.append_assoc]
      rfl

def finished {α : Type} : Except RuntimeError α → Context → EStateM.Result (Stop RuntimeError) Context α
  | .ok result, after => .ok result after
  | .error error, after => .error (.failed error) after

theorem finished_injective {α : Type} {outcome other : Except RuntimeError α} {after later : Context}
    (same : finished outcome after = finished other later) : outcome = other ∧ after = later := by
  cases outcome with
  | ok result =>
      cases other with
      | ok _ =>
          cases same
          exact ⟨rfl, rfl⟩
      | error _ => cases same
  | error error =>
      cases other with
      | ok _ => cases same
      | error _ =>
          cases same
          exact ⟨rfl, rfl⟩

def Program.Ends (program : Program) (context : Context) (outcome : Except RuntimeError Value)
    (after : Context) : Prop :=
  ∃ fuel, program.execute fuel context = finished outcome after

theorem execute_finished {related : Context → Context → Prop} (transparent : Transparent related)
    {fuel more : Nat} (bound : fuel ≤ more) (program : Program) {left right after : Context}
    {outcome : Except RuntimeError Value} (alike : related left right)
    (ends : program.execute fuel left = finished outcome after) :
    ∃ later, program.execute more right = finished outcome later ∧ related after later := by
  have follows : Follows id related False (program.execute fuel) (program.execute more) :=
    execute_follows_itself transparent ⟨bound, False.elim⟩ program
  have related := follows left right alike
  rw [ends] at related
  cases outcome with
  | ok value => exact related
  | error error => exact related

theorem ends_unique {program : Program} {context after later : Context}
    {outcome other : Except RuntimeError Value} (first : program.Ends context outcome after)
    (second : program.Ends context other later) : outcome = other ∧ after = later := by
  obtain ⟨fuel, ends⟩ := first
  obtain ⟨more, ends'⟩ := second
  obtain ⟨_, answer, rfl⟩ :=
    execute_finished equal_transparent (Nat.le_max_left fuel more) program rfl ends
  obtain ⟨_, answer', rfl⟩ :=
    execute_finished equal_transparent (Nat.le_max_right fuel more) program rfl ends'
  exact finished_injective (answer.symm.trans answer')

theorem after_of_finished {fuel : Nat} {program : Program} {context after : Context}
    {outcome : Except RuntimeError Value} (ends : program.execute fuel context = finished outcome after) :
    (program.execute fuel).after context = after := by
  unfold Eval.after
  rw [ends]
  cases outcome <;> rfl

-- Between programs no scope is open; nothing but the output and the log tells them from a new context.
structure Context.Ready (context : Context) : Prop where
  idle : context.Idle
  closed : context.symbols.scopes = []
  unlimited : context.output.limit = none

theorem ready_behind {context : Context} (ready : context.Ready) : StandsBehind context {} context := by
  obtain ⟨⟨depth, valid⟩, closed, unlimited⟩ := ready
  have cells := cells_of_closed valid closed
  obtain ⟨⟨row, scopes⟩, ⟨limit, bytes⟩, level, log⟩ := context
  dsimp only at depth closed cells unlimited
  subst depth closed cells unlimited
  refine ⟨rfl, ?_⟩
  simp [Context.behind, ByteArray.append_empty]

theorem finished_behind {context after : Context} (ready : context.Ready) (fuel : Nat) (program : Program)
    (outcome : Except RuntimeError Value) :
    program.execute fuel context = finished outcome after ↔
      ∃ alone, program.execute fuel {} = finished outcome alone ∧ after = alone.behind context := by
  constructor
  · intro ends
    obtain ⟨alone, answer, -, behind⟩ := execute_finished
      (swapped_transparent (behind_transparent context)) (Nat.le_refl fuel) program (ready_behind ready) ends
    exact ⟨alone, answer, behind⟩
  · rintro ⟨alone, ends, rfl⟩
    obtain ⟨later, answer, -, behind⟩ := execute_finished (behind_transparent context) (Nat.le_refl fuel)
      program (ready_behind ready) ends
    rw [← behind]
    exact answer

theorem ends_behind {context after : Context} (ready : context.Ready) (program : Program)
    (outcome : Except RuntimeError Value) :
    program.Ends context outcome after ↔
      ∃ alone, program.Ends {} outcome alone ∧ after = alone.behind context := by
  constructor
  · rintro ⟨fuel, ends⟩
    obtain ⟨alone, answer, behind⟩ := (finished_behind ready fuel program outcome).mp ends
    exact ⟨alone, ⟨fuel, answer⟩, behind⟩
  · rintro ⟨alone, ⟨fuel, ends⟩, behind⟩
    exact ⟨fuel, (finished_behind ready fuel program outcome).mpr ⟨alone, ends, behind⟩⟩

theorem ready_ends {program : Program} {context after : Context} {outcome : Except RuntimeError Value}
    (ready : context.Ready) (ends : program.Ends context outcome after) : after.Ready := by
  obtain ⟨fuel, answer⟩ := ends
  obtain ⟨depth, gains⟩ := execute_gains fuel program context
  obtain ⟨alone, -, unlimited, behind⟩ := execute_finished
    (swapped_transparent (behind_transparent context)) (Nat.le_refl fuel) program (ready_behind ready) answer
  rw [after_of_finished answer] at depth gains
  refine ⟨⟨depth.trans ready.idle.depth, SymbolTable.gains_valid gains ready.idle.valid⟩, ?_, ?_⟩
  · rw [gains.scopes, ready.closed]
    rfl
  · rw [behind]
    exact unlimited

inductive EndInOrder : List Program → Context → List (Except RuntimeError Value) → Context → Prop where
  | none (context : Context) : EndInOrder [] context [] context
  | next {program : Program} {others : List Program} {context middle after : Context}
      {outcome : Except RuntimeError Value} {outcomes : List (Except RuntimeError Value)}
      (first : program.Ends context outcome middle) (rest : EndInOrder others middle outcomes after) :
      EndInOrder (program :: others) context (outcome :: outcomes) after

def EndAlone (programs : List Program) (runs : List (Except RuntimeError Value × Context)) : Prop :=
  List.Forall₂ (fun program run => program.Ends {} run.1 run.2) programs runs

theorem in_order_iff (programs : List Program) (context after : Context) (ready : context.Ready)
    (outcomes : List (Except RuntimeError Value)) :
    EndInOrder programs context outcomes after ↔
      ∃ runs, EndAlone programs runs ∧ outcomes = runs.map Prod.fst ∧
        after = runs.foldl (fun earlier run => run.2.behind earlier) context := by
  induction programs generalizing context outcomes with
  | nil =>
      constructor
      · intro ends
        cases ends
        exact ⟨[], .nil, rfl, rfl⟩
      · rintro ⟨runs, alone, rfl, rfl⟩
        cases alone
        exact .none context
  | cons program others ih =>
      constructor
      · intro ends
        cases ends with
        | next first rest =>
            obtain ⟨alone, ends, rfl⟩ := (ends_behind ready program _).mp first
            obtain ⟨runs, further, rfl, rfl⟩ := (ih _ (ready_ends ready first) _).mp rest
            exact ⟨(_, alone) :: runs, .cons ends further, rfl, rfl⟩
      · rintro ⟨runs, alone, rfl, rfl⟩
        cases alone with
        | @cons _ run _ others ends further =>
            have first := (ends_behind ready program run.1).mpr ⟨run.2, ends, rfl⟩
            exact .next first ((ih _ (ready_ends ready first) _).mpr ⟨others, further, rfl, rfl⟩)

def Log.messages (log : Log) : List String :=
  log.reverse.filterMap fun
    | .step depth event => some (Record.step depth event).message
    | _ => none

theorem messages_behind (context earlier : Context) :
    (context.behind earlier).log.messages = earlier.log.messages ++ context.log.messages := by
  simp [Context.behind, Log.messages, List.filterMap_append]

theorem end_alone_unique {programs : List Program} {runs others : List (Except RuntimeError Value × Context)}
    (first : EndAlone programs runs) (second : EndAlone programs others) : runs = others := by
  induction first generalizing others with
  | nil =>
      cases second
      rfl
  | cons ends further ih =>
      cases second with
      | cons ends' further' =>
          obtain ⟨outcome, after⟩ := ends_unique ends ends'
          rw [Prod.ext outcome after, ih further']

theorem messages_in_order (runs : List (Except RuntimeError Value × Context)) (context : Context) :
    (runs.foldl (fun earlier run => run.2.behind earlier) context).log.messages =
      context.log.messages ++ runs.flatMap fun run => run.2.log.messages := by
  induction runs generalizing context with
  | nil => simp
  | cons run others ih => rw [List.foldl_cons, ih, messages_behind, List.flatMap_cons, List.append_assoc]

/-- Programs executed in order on one context end if each of them ends on a new context. Each has the outcome
that it has there, and what they write and trace is what they write and trace there, in this order. -/
theorem programs_isolated (context : Context) (reachable : context.Reachable)
    (closed : context.symbols.scopes = []) (unlimited : context.output.limit = none)
    (programs : List Program) :
    ((∃ outcomes after, EndInOrder programs context outcomes after) ↔ ∃ runs, EndAlone programs runs) ∧
    ∀ runs outcomes after, EndAlone programs runs → EndInOrder programs context outcomes after →
      outcomes = runs.map Prod.fst ∧
      after.output.bytes = runs.foldl (fun bytes run => bytes ++ run.2.output.bytes) context.output.bytes ∧
      after.log.messages = context.log.messages ++ runs.flatMap fun run => run.2.log.messages := by
  have ready : context.Ready := ⟨reachable_idle reachable, closed, unlimited⟩
  refine ⟨⟨?_, ?_⟩, ?_⟩
  · rintro ⟨outcomes, after, ends⟩
    obtain ⟨runs, alone, -⟩ := (in_order_iff programs context after ready outcomes).mp ends
    exact ⟨runs, alone⟩
  · rintro ⟨runs, alone⟩
    exact ⟨_, _, (in_order_iff programs context _ ready _).mpr ⟨runs, alone, rfl, rfl⟩⟩
  · intro runs outcomes after alone ends
    obtain ⟨others, alone', rfl, rfl⟩ := (in_order_iff programs context after ready outcomes).mp ends
    obtain rfl := end_alone_unique alone alone'
    refine ⟨rfl, ?_, messages_in_order runs context⟩
    exact (List.foldl_hom (fun context : Context => context.output.bytes) fun _ _ => rfl).symm

-- The program `let x = true; { x + x }`, which fails while two scopes are open.
def failingProgram : Program :=
  ⟨[.declare 1 "x" (some (.literal 1 "true")),
    .block 1 [.binary 1 "+" (.identifier 1 "x") (.identifier 1 "x")]]⟩

def readingProgram : Program := ⟨[.identifier 1 "x"]⟩

theorem failing_program_isolated :
    ∃ after, EndInOrder [failingProgram, readingProgram] {}
      [.error ⟨1, .expectedNumber .boolean⟩, .error ⟨1, .undefinedSymbol "x"⟩] after := by
  have alone : EndAlone [failingProgram, readingProgram]
      [(.error ⟨1, .expectedNumber .boolean⟩, (failingProgram.execute 1).after {}),
        (.error ⟨1, .undefinedSymbol "x"⟩, (readingProgram.execute 1).after {})] :=
    .cons ⟨1, rfl⟩ (.cons ⟨1, rfl⟩ .nil)
  obtain ⟨ended, isolated⟩ :=
    programs_isolated {} (.fresh {} []) rfl rfl [failingProgram, readingProgram]
  obtain ⟨outcomes, after, ends⟩ := ended.mpr ⟨_, alone⟩
  obtain ⟨rfl, -⟩ := isolated _ outcomes after alone ends
  exact ⟨after, ends⟩

end Scriptlet
