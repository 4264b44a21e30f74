import Mathlib.Data.List.Basic
import Scriptlet.Proofs.Analysis.Lines
import Scriptlet.Proofs.Evaluation.Simulation
import Scriptlet.Proofs.Grammar.Reading
import Scriptlet.Script

/-!
Texts that differ in their layout only.

Such texts have the same lexemes apart from trivia, so that their tokens differ in nothing but lines. The
stages hand lines on to errors and look at them nowhere: the texts are read alike (`read_alike`), checked alike
and executed alike, and `layout_never_matters` puts the stages together.
-/

set_option autoImplicit false

namespace Scriptlet

def SameLexemes (tokens others : List Token) : Prop :=
  (tokens.filter Token.isSignificant).map Token.toLexeme =
    (others.filter Token.isSignificant).map Token.toLexeme

inductive SameUpToLine {κ α : Type} (same : α → α → Prop) :
    (left right : Except (Located κ) α) → Prop where
  | results {left right : α} (alike : same left right) : SameUpToLine same (.ok left) (.ok right)
  | errors {left right : Located κ} (causes : left.cause = right.cause) :
      SameUpToLine same (.error left) (.error right)

def Program.SameUpToLines (program other : Program) : Prop := program.withoutLines = other.withoutLines

theorem map_line_eq {κ : Type} {left right : Located κ} (causes : left.cause = right.cause) :
    left.mapLine (fun _ => 0) = right.mapLine fun _ => 0 := by
  rw [Located.mapLine, Located.mapLine, causes]

section Reading

variable {tokens others : List Token} (same : SameLexemes tokens others)
include same

theorem alike_of_lexemes :
    Grammar.Alike (fun _ => 0) [] (Cursor.ofTokens tokens).tokens (Cursor.ofTokens others).tokens := by
  apply Grammar.alike_of_map_eq rfl
  have paired := congrArg (List.map fun lexeme => (lexeme, 0)) same
  rwa [List.map_map, List.map_map] at paired

theorem fuel_of_lexemes : (Cursor.ofTokens tokens).fuel = (Cursor.ofTokens others).fuel := by
  have lengths := congrArg List.length same
  rw [List.length_map, List.length_map] at lengths
  rw [Cursor.fuel, Cursor.fuel, Cursor.ofTokens, Cursor.ofTokens, lengths]

theorem read_alike :
    SameUpToLine Program.SameUpToLines (Program.ofTokens tokens) (Program.ofTokens others) := by
  have rules : Grammar.RulesFollow (fun _ => 0) [] (Cursor.ofTokens tokens).endLine
      (Cursor.ofTokens others).endLine (Cursor.ofTokens tokens).fuel (Cursor.ofTokens others).fuel :=
    Grammar.rules_follow (fun _ => rfl) (Nat.le_of_eq (fuel_of_lexemes same))
  have follows := rules.statements (alike_of_lexemes same)
  cases answer : Program.ofTokens tokens with
  | ok program =>
      rw [(Grammar.program_ok_iff tokens program).mp answer] at follows
      obtain ⟨⟨read, rest⟩, answers, alike, behind⟩ := follows
      obtain rfl := Grammar.alike_nil behind
      rw [(Grammar.program_ok_iff others ⟨read⟩).mpr answers]
      exact .results (congrArg Program.mk alike)
  | error error =>
      rcases (Grammar.program_error_iff tokens error).mp answer with stopped | ⟨read, token, rest, left, rfl⟩
      · rw [stopped] at follows
        obtain ⟨other, answers, -, causes⟩ := follows rfl
        rw [(Grammar.program_error_iff others other).mpr (.inl answers)]
        exact .errors causes
      · rw [left] at follows
        obtain ⟨⟨read, rest⟩, answers, alike, behind⟩ := follows
        cases behind with
        | taken first second lefts rights agree =>
            rw [(Grammar.program_error_iff others _).mpr (.inr ⟨read, second, rights, answers, rfl⟩)]
            exact .errors (congrArg SyntacticFault.trailingInput agree.1)

theorem listing_of_lexemes : Script.listing tokens = Script.listing others := by
  have lines := congrArg (List.map fun lexeme : Lexeme => lexeme.render ++ "\n") same
  rw [List.map_map, List.map_map] at lines
  exact congrArg String.join lines

end Reading

theorem same_up_to_line_of_views {κ α : Type} {left right : Except (Located κ) α}
    (views : left.mapError (Located.mapLine fun _ => 0) = right.mapError (Located.mapLine fun _ => 0)) :
    SameUpToLine (· = ·) left right := by
  cases left with
  | ok result =>
      cases right with
      | ok other =>
          injection views with results
          exact .results results
      | error _ => cases views
  | error error =>
      cases right with
      | ok _ => cases views
      | error other =>
          injection views with errors
          injection errors with _ causes
          exact .errors causes

theorem analyzed_alike {program other : Program} (same : program.SameUpToLines other) :
    SameUpToLine (· = ·) program.analyze other.analyze := by
  apply same_up_to_line_of_views
  rw [← analyze_map_lines, ← analyze_map_lines]
  exact congrArg Program.analyze same

theorem tree_of_lineless {program other : Program} (same : program.SameUpToLines other) :
    program.tree = other.tree := by
  rw [← tree_without_lines program, ← tree_without_lines other]
  exact congrArg Program.tree same

-- The log says how many tokens there are, trivia included, and no evaluation looks at it.
structure SameButLog (left right : Context) : Prop where
  symbols : left.symbols = right.symbols
  output : left.output = right.output
  depth : left.depth = right.depth

theorem same_but_log_transparent : Transparent SameButLog where
  symbols alike := alike.symbols
  depth alike := alike.depth
  setSymbols alike symbols := ⟨rfl, alike.output, alike.depth⟩
  setDepth alike depth := ⟨alike.symbols, alike.output, rfl⟩
  record alike entry := ⟨alike.symbols, alike.output, alike.depth⟩
  invoke := by
    intro left right alike builtin arguments
    rw [alike.output]
    cases builtin.invoke arguments right.output with
    | ok value output => exact .inl ⟨value, output, output, rfl, rfl, alike.symbols, rfl, alike.depth⟩
    | error fault output => exact .inr ⟨fault, output, output, rfl, rfl, alike.symbols, rfl, alike.depth⟩

def Failure.withoutLine : Failure → Failure
  | .lexical error => .lexical (error.mapLine fun _ => 0)
  | .syntactic error => .syntactic (error.mapLine fun _ => 0)
  | .semantic error => .semantic (error.mapLine fun _ => 0)
  | .runtime error => .runtime (error.mapLine fun _ => 0)
  | .output fault => .output fault

namespace Script

inductive EndAlike {α : Type} (same : α → α → Prop) :
    (left right : EStateM.Result (Stop Failure) Transcript α) → Prop where
  | returned {result other : α} {after later : Transcript} (alike : same result other)
      (outputs : after.output = later.output) : EndAlike same (.ok result after) (.ok other later)
  | failed {failure other : Failure} {after later : Transcript}
      (failures : failure.withoutLine = other.withoutLine) (outputs : after.output = later.output) :
      EndAlike same (.error (.failed failure) after) (.error (.failed other) later)
  | exhausted {after later : Transcript} (outputs : after.output = later.output) :
      EndAlike same (.error .outOfFuel after) (.error .outOfFuel later)

def Alike {α : Type} (same : α → α → Prop) (left right : Script α) : Prop :=
  ∀ first second : Transcript, first.output = second.output → EndAlike same (left first) (right second)

section Scripts

variable {α β : Type} {same : α → α → Prop}

theorem alike_symm {left right : Script α} (alike : Alike (· = ·) left right) : Alike (· = ·) right left := by
  intro first second outputs
  have ends := alike second first outputs.symm
  generalize left second = ended, right first = other at ends
  cases ends with
  | returned results outputs => exact .returned results.symm outputs.symm
  | failed failures outputs => exact .failed failures.symm outputs.symm
  | exhausted outputs => exact .exhausted outputs.symm

theorem alike_trans {left middle right : Script α} (begins : Alike (· = ·) left middle)
    (continues : Alike (· = ·) middle right) : Alike (· = ·) left right := by
  intro first second outputs
  have begun := begins first second outputs
  have ends := continues second second rfl
  generalize left first = ended, middle second = between, right second = other at begun ends
  cases begun with
  | returned results outputs =>
      cases ends with
      | returned results' outputs' => exact .returned (results.trans results') (outputs.trans outputs')
  | failed failures outputs =>
      cases ends with
      | failed failures' outputs' => exact .failed (failures.trans failures') (outputs.trans outputs')
  | exhausted outputs =>
      cases ends with
      | exhausted outputs' => exact .exhausted (outputs.trans outputs')

theorem alike_pure {result other : α} (alike : same result other) :
    Alike same (pure result) (pure other) :=
  fun _ _ outputs => .returned alike outputs

theorem alike_bind {agree : β → β → Prop} {left right : Script α} {next further : α → Script β}
    (begins : Alike same left right)
    (continues : ∀ result other, same result other → Alike agree (next result) (further other)) :
    Alike agree (left >>= next) (right >>= further) := by
  intro first second outputs
  have begun := begins first second outputs
  change EndAlike agree (EStateM.bind left next first) (EStateM.bind right further second)
  rw [EStateM.bind, EStateM.bind]
  cases answer : left first with
  | ok result after =>
      rw [answer] at begun
      cases answers : right second with
      | ok other later =>
          rw [answers] at begun
          cases begun with
          | returned alike outputs => exact continues result other alike after later outputs
      | error stop later =>
          rw [answers] at begun
          cases begun
  | error stop after =>
      rw [answer] at begun
      cases answers : right second with
      | ok other later =>
          rw [answers] at begun
          cases begun
      | error stop later =>
          rw [answers] at begun
          cases begun with
          | failed failures outputs => exact .failed failures outputs
          | exhausted outputs => exact .exhausted outputs

theorem alike_when {agree : β → β → Prop} {demanded : Bool} {left right : Script Unit}
    {next further : Unit → Script β} (begins : Alike (· = ·) left right)
    (continues : Alike agree (next ()) (further ())) :
    Alike agree (if demanded = true then left >>= next else next ())
      (if demanded = true then right >>= further else further ()) := by
  by_cases asked : demanded = true
  · rw [if_pos asked, if_pos asked]
    exact alike_bind begins fun _ _ _ => continues
  · rw [if_neg asked, if_neg asked]
    exact continues

theorem alike_record (entry other : Record) : Alike (· = ·) (record entry) (record other) :=
  fun _ _ outputs => .returned rfl outputs

theorem alike_write (text : String) : Alike (· = ·) (write text) (write text) := by
  rintro ⟨output, log⟩ ⟨_, log'⟩ rfl
  rw [write, write]
  cases Sink.write text output with
  | ok _ output => exact .returned rfl rfl
  | error fault output => exact .failed rfl rfl

end Scripts

section Stages

variable {tokens others : List Token} {program other : Program}

theorem alike_scan {source other : String} (scanned : tokenize source = .ok tokens)
    (scannedOther : tokenize other = .ok others) (same : SameLexemes tokens others) :
    Alike SameLexemes (scan source) (scan other) := by
  rw [scan, scan, scanned, scannedOther]
  exact alike_pure same

theorem alike_parse (same : SameLexemes tokens others) :
    Alike Program.SameUpToLines (parse tokens) (parse others) := by
  have reads := read_alike same
  rw [parse, parse]
  cases answer : Program.ofTokens tokens with
  | ok program =>
      rw [answer] at reads
      cases answers : Program.ofTokens others with
      | ok read =>
          rw [answers] at reads
          cases reads with
          | results alike => exact alike_bind (alike_record _ _) fun _ _ _ => alike_pure alike
      | error error =>
          rw [answers] at reads
          cases reads
  | error error =>
      rw [answer] at reads
      cases answers : Program.ofTokens others with
      | ok read =>
          rw [answers] at reads
          cases reads
      | error read =>
          rw [answers] at reads
          cases reads with
          | errors causes =>
              exact fun _ _ outputs => .failed (congrArg Failure.syntactic (map_line_eq causes)) outputs

theorem check_loses_lines (program : Program) :
    Alike (· = ·) (check program) (check program.withoutLines) := by
  rintro ⟨output, log⟩ ⟨_, log'⟩ rfl
  have follows := program_check_follows (fun _ => 0) program { log } { log := log' } rfl
  rw [check, check]
  cases answer : program.check { log } with
  | ok _ after =>
      rw [answer] at follows
      obtain ⟨later, answers, -⟩ := follows
      rw [Program.withoutLines, answers]
      exact .returned rfl rfl
  | error error after =>
      rw [answer] at follows
      obtain ⟨later, answers⟩ := follows
      rw [Program.withoutLines, answers]
      exact .failed rfl rfl

theorem execute_loses_lines (fuel : Nat) (program : Program) :
    Alike (· = ·) (execute fuel program) (execute fuel program.withoutLines) := by
  rintro ⟨output, log⟩ ⟨_, log'⟩ rfl
  have inStep : Follows (fun _ => 0) SameButLog True (program.execute fuel)
      (program.withoutLines.execute fuel) :=
    execute_follows same_but_log_transparent ⟨Nat.le_refl fuel, fun _ => rfl⟩ program
  have follows := inStep { output, log } { output, log := log' } ⟨rfl, rfl, rfl⟩
  rw [execute, execute]
  match answer : program.execute fuel { output, log } with
  | .ok value after =>
      rw [answer] at follows
      obtain ⟨later, answers, alike⟩ := follows
      rw [answers]
      exact .returned rfl alike.output
  | .error (.failed error) after =>
      rw [answer] at follows
      obtain ⟨later, answers, alike⟩ := follows
      rw [answers]
      exact .failed rfl alike.output
  | .error .outOfFuel after =>
      rw [answer] at follows
      obtain ⟨later, answers, alike⟩ := follows trivial
      rw [answers]
      exact .exhausted alike.output

-- What ends as it would without lines ends alike for programs that are the same without them.
theorem alike_of_lineless {α : Type} {stage : Program → Script α} (same : program.SameUpToLines other)
    (loses : ∀ program : Program, Alike (· = ·) (stage program) (stage program.withoutLines)) :
    Alike (· = ·) (stage program) (stage other) := by
  have middle : Alike (· = ·) (stage program) (stage other.withoutLines) := by
    rw [← show program.withoutLines = other.withoutLines from same]
    exact loses program
  exact alike_trans middle (alike_symm (loses other))

theorem alike_evaluate {source other : String} (scanned : tokenize source = .ok tokens)
    (scannedOther : tokenize other = .ok others) (same : SameLexemes tokens others) (fuel : Nat) :
    Alike (· = ·) (evaluate fuel source) (evaluate fuel other) := by
  rw [evaluate, evaluate]
  apply alike_bind (alike_scan scanned scannedOther same)
  intro _ _ lexemes
  apply alike_bind (alike_parse lexemes)
  intro _ _ lineless
  exact alike_of_lineless lineless (execute_loses_lines fuel)

theorem alike_run {source other : String} (scanned : tokenize source = .ok tokens)
    (scannedOther : tokenize other = .ok others) (same : SameLexemes tokens others) (fuel : Nat)
    (options : Options) : Alike (· = ·) (run fuel options source) (run fuel options other) := by
  rw [run, run]
  apply alike_bind (alike_scan scanned scannedOther same)
  intro _ _ lexemes
  apply alike_bind (alike_record _ _)
  intro _ _ _
  rw [listing_of_lexemes lexemes]
  apply alike_when (alike_write _)
  apply alike_bind (alike_parse lexemes)
  intro _ _ lineless
  rw [tree_of_lineless lineless]
  apply alike_when (alike_write _)
  apply alike_when (alike_of_lineless lineless check_loses_lines)
  apply alike_bind (alike_of_lineless lineless (execute_loses_lines fuel))
  intro value _ same
  subst same
  by_cases asked : (options.value && !value.isNone) = true
  · rw [if_pos asked]
    exact alike_write _
  · rw [if_neg asked]
    exact alike_pure rfl

end Stages

end Script

/-- Two texts with the same lexemes apart from trivia are read as programs that are the same up to lines, or
both are refused for the same cause; what they are read as has the same analysis up to lines; and with whatever
fuel they are evaluated, or run with whatever sections, both end in the same way up to lines, with the same
output. -/
theorem layout_never_matters (source other : String) (tokens others : List Token)
    (scanned : tokenize source = .ok tokens) (scannedOther : tokenize other = .ok others)
    (same : SameLexemes tokens others) :
    SameUpToLine Program.SameUpToLines (Program.ofTokens tokens) (Program.ofTokens others) ∧
    (∀ program read, Program.ofTokens tokens = .ok program → Program.ofTokens others = .ok read →
      SameUpToLine (· = ·) program.analyze read.analyze) ∧
    ∀ fuel, Script.Alike (· = ·) (Script.evaluate fuel source) (Script.evaluate fuel other) ∧
      ∀ options, Script.Alike (· = ·) (Script.run fuel options source) (Script.run fuel options other) := by
  have reads := read_alike same
  refine ⟨reads, ?_, fun fuel => ⟨?_, fun options => ?_⟩⟩
  · intro program read answer answers
    rw [answer, answers] at reads
    cases reads with
    | results alike => exact analyzed_alike alike
  · exact Script.alike_evaluate scanned scannedOther same fuel
  · exact Script.alike_run scanned scannedOther same fuel options

def compactText : String := "print(\"a\");x"

def spreadText : String := "print (\n\"a\")// done\n;\n x"

def compactTokens : List Token :=
  [⟨⟨.identifier, "print"⟩, 1⟩, ⟨⟨.separator, "("⟩, 1⟩, ⟨⟨.literal, "\"a\""⟩, 1⟩, ⟨⟨.separator, ")"⟩, 1⟩,
    ⟨⟨.separator, ";"⟩, 1⟩, ⟨⟨.identifier, "x"⟩, 1⟩]

def spreadTokens : List Token :=
  [⟨⟨.identifier, "print"⟩, 1⟩, ⟨⟨.whitespace, " "⟩, 1⟩, ⟨⟨.separator, "("⟩, 1⟩, ⟨⟨.whitespace, "\n"⟩, 1⟩,
    ⟨⟨.literal, "\"a\""⟩, 2⟩, ⟨⟨.separator, ")"⟩, 2⟩, ⟨⟨.comment, "// done"⟩, 2⟩, ⟨⟨.whitespace, "\n"⟩, 2⟩,
    ⟨⟨.separator, ";"⟩, 3⟩, ⟨⟨.whitespace, "\n "⟩, 3⟩, ⟨⟨.identifier, "x"⟩, 4⟩]

theorem spread_text_fails_alike :
    (∃ after, Script.evaluate 0 compactText {} =
      .error (.failed (.runtime ⟨1, .undefinedSymbol "x"⟩)) after ∧ after.output.bytes = "a\n".toUTF8) ∧
    ∃ failure after, Script.evaluate 0 spreadText {} = .error (.failed failure) after ∧
      failure.withoutLine = .runtime ⟨0, .undefinedSymbol "x"⟩ ∧ after.output.bytes = "a\n".toUTF8 := by
  have scanned : tokenize compactText = .ok compactTokens := by decide +kernel
  have scannedOther : tokenize spreadText = .ok spreadTokens := by decide +kernel
  obtain ⟨-, -, ends⟩ := layout_never_matters _ _ _ _ scanned scannedOther rfl
  have failed : ∃ after, Script.evaluate 0 compactText {} =
      .error (.failed (.runtime ⟨1, .undefinedSymbol "x"⟩)) after ∧ after.output.bytes = "a\n".toUTF8 := by
    rw [Script.evaluate, Script.scan, scanned]
    exact ⟨_, rfl, rfl⟩
  refine ⟨failed, ?_⟩
  obtain ⟨after, answer, written⟩ := failed
  have alike := (ends 0).1 {} {} rfl
  rw [answer] at alike
  generalize Script.evaluate 0 spreadText {} = other at alike
  cases alike with
  | @failed _ failure _ later failures outputs =>
      refine ⟨failure, later, rfl, failures.symm, ?_⟩
      rw [← outputs]
      exact written

end Scriptlet
