import Mathlib.Data.List.Basic
import Scriptlet.Proofs.Evaluation.Confinement
import Scriptlet.Proofs.Script.Sections

set_option autoImplicit false

namespace Scriptlet

-- The byte with the given index, counted from zero, is one that the program writes.
def Sections.InProgram (sections : Sections) (index : Nat) : Prop :=
  sections.listing.size + sections.tree.size ≤ index ∧
    index < sections.listing.size + sections.tree.size + sections.program.size

instance (sections : Sections) (index : Nat) : Decidable (sections.InProgram index) :=
  inferInstanceAs (Decidable (_ ∧ _))

def transcriptOutlet : Outlet Transcript where
  sink := Transcript.output
  put output transcript := { transcript with output }
  sink_put _ _ := rfl
  put_put _ _ _ := rfl

namespace Script

def PrintsOn (source : String) (line : Nat) : Prop :=
  ∃ tokens program, tokenize source = .ok tokens ∧ Program.ofTokens tokens = .ok program ∧
    program.PrintsOn line

structure CutAt (source : String) (sections : Sections) (bound : Nat) (failure : Failure) : Prop where
  inProgram : sections.InProgram bound →
    ∃ line, failure = .runtime ⟨line, .output .limitReached⟩ ∧ PrintsOn source line
  elsewhere : ¬ sections.InProgram bound → failure = .output .limitReached

structure CutsOff {α : Type} (source : String) (bound : Nat) (sections : Sections)
    (outcome limited : Except Failure α) (stored : ByteArray) : Prop where
  stored : stored = sections.bytes.extract 0 bound
  whole : sections.bytes.size ≤ bound → limited = outcome
  cut : bound < sections.bytes.size → ∃ failure, limited = .error failure ∧ CutAt source sections bound failure

def AtLimit (failure : Failure) : Prop := failure = .output .limitReached

def Overflows (program : Program) (failure : Failure) : Prop :=
  ∃ line, failure = .runtime ⟨line, .output .limitReached⟩ ∧ program.PrintsOn line

section Phases

variable {bound : Nat} {cut : Failure → Prop}

theorem confined_record (entry : Record) : Confined transcriptOutlet bound cut (record entry) :=
  confined_silent ⟨fun _ => rfl, fun _ => rfl⟩

theorem confined_when {α : Type} {demanded : Bool} {script : Script Unit} {next : Unit → Script α}
    (begins : Confined transcriptOutlet bound cut script)
    (continues : Confined transcriptOutlet bound cut (next ())) :
    Confined transcriptOutlet bound cut (if demanded = true then script >>= next else next ()) := by
  by_cases asked : demanded = true
  · rw [if_pos asked]
    exact confined_bind begins fun _ => continues
  · rw [if_neg asked]
    exact continues

theorem confined_write_text (text : String) :
    Confined transcriptOutlet bound AtLimit (write text) := by
  have isCut : AtLimit (.output .limitReached) := rfl
  apply confined_write text () _ isCut
  intro ⟨output, log⟩
  cases written : Sink.write text output with
  | ok _ after => simp only [write, transcriptOutlet, written]
  | error fault after =>
      cases fault
      simp only [write, transcriptOutlet, written]

theorem confined_scan (source : String) : Confined transcriptOutlet bound cut (scan source) := by
  rw [scan]
  cases tokenize source with
  | ok tokens => exact confined_pure tokens
  | error error => exact confined_throw _

theorem confined_parse (tokens : List Token) : Confined transcriptOutlet bound cut (parse tokens) := by
  rw [parse]
  cases Program.ofTokens tokens with
  | ok program => exact confined_bind (confined_record _) fun _ => confined_pure program
  | error error => exact confined_throw _

theorem confined_check (program : Program) : Confined transcriptOutlet bound cut (check program) := by
  apply confined_silent
  constructor
  case keeps =>
    rintro ⟨output, log⟩
    rw [check]
    cases program.check { log } <;> rfl
  case blind =>
    rintro ⟨output, log⟩
    change check program ⟨_, log⟩ = _
    rw [check, check]
    cases program.check { log } <;> rfl

theorem heading_confined (bound : Nat) (options : Options) (source : String) :
    Confined transcriptOutlet bound AtLimit (heading options source) := by
  apply confined_bind (confined_scan source)
  intro tokens
  apply confined_bind (confined_record _)
  intro _
  apply confined_when (confined_write_text (listing tokens))
  apply confined_bind (confined_parse tokens)
  intro program
  exact confined_when (confined_write_text program.tree) (confined_pure program)

theorem ending_confined (bound : Nat) (options : Options) (value : Value) :
    Confined transcriptOutlet bound AtLimit (ending options value) := by
  rw [ending]
  by_cases demanded : (options.value && !value.isNone) = true
  · rw [if_pos demanded]
    exact confined_write_text (value.text ++ "\n")
  · rw [if_neg demanded]
    exact confined_pure ()

def ofExecution :
    EStateM.Result (Stop RuntimeError) Context Value → EStateM.Result (Stop Failure) Transcript Value
  | .ok value context => .ok value ⟨context.output, context.log⟩
  | .error (.failed error) context => .error (.failed (.runtime error)) ⟨context.output, context.log⟩
  | .error .outOfFuel context => .error .outOfFuel ⟨context.output, context.log⟩

theorem execute_run (fuel : Nat) (program : Program) (output : Sink) (log : Log) :
    execute fuel program ⟨output, log⟩ = ofExecution (program.execute fuel { output, log }) := rfl

theorem left_by_execution (result : EStateM.Result (Stop RuntimeError) Context Value) :
    (leftBy (ofExecution result)).output = (leftBy result).output := by
  match result with
  | .ok value context => rfl
  | .error (.failed error) context => rfl
  | .error .outOfFuel context => rfl

theorem execution_limited (result : EStateM.Result (Stop RuntimeError) Context Value) :
    ofExecution (mapState (contextOutlet.limited bound) result) =
      mapState (transcriptOutlet.limited bound) (ofExecution result) := by
  match result with
  | .ok value context => rfl
  | .error (.failed error) context => rfl
  | .error .outOfFuel context => rfl

theorem fits_execution (result : EStateM.Result (Stop RuntimeError) Context Value) :
    Fits transcriptOutlet bound (leftBy (ofExecution result)) ↔ Fits contextOutlet bound (leftBy result) :=
  iff_of_eq (congrArg (fun sink : Sink => sink.bytes.size ≤ bound) (left_by_execution result))

theorem confined_execute (bound fuel : Nat) (program : Program) :
    Confined transcriptOutlet bound (Overflows program) (execute fuel program) where
  writes := by
    rintro ⟨output, log⟩ unlimited
    obtain ⟨still, more, appended⟩ := (execute_confined bound fuel program).writes { output, log } unlimited
    rw [execute_run]
    exact ⟨(congrArg Sink.limit (left_by_execution _)).trans still,
      more, (congrArg Sink.bytes (left_by_execution _)).trans appended⟩
  ends := by
    rintro ⟨output, log⟩ unlimited fits
    have within := (execute_confined bound fuel program).ends { output, log } unlimited fits
    change EndsWithin transcriptOutlet bound (Overflows program) (execute fuel program ⟨output, log⟩)
      (execute fuel program ⟨{ output with limit := some bound }, log⟩)
    rw [execute_run, execute_run]
    obtain ⟨last, exhausted⟩ | ⟨room, same⟩ | ⟨beyond, error, later, same, meets, stored⟩ := within
    · exact .inl ⟨⟨last.output, last.log⟩, by rw [exhausted]; rfl⟩
    · refine .inr (.inl ⟨(fits_execution _).mpr room, ?_⟩)
      rw [← execution_limited]
      exact congrArg ofExecution same
    · have left := left_by_execution (program.execute fuel { output, log })
      have overflows : Overflows program (.runtime error) := by
        obtain ⟨line, cause⟩ := error
        obtain ⟨rfl, prints⟩ := meets
        exact ⟨line, rfl, prints⟩
      refine .inr (.inr ⟨mt (fits_execution _).mp beyond, _, _, congrArg ofExecution same, overflows, ?_⟩)
      exact stored.trans (congrArg (fun sink : Sink => sink.bytes.extract 0 bound) left.symm)

theorem body_confined (bound fuel : Nat) (options : Options) (program : Program) :
    Confined transcriptOutlet bound (Overflows program) (body fuel options program) := by
  rw [body]
  exact confined_when (confined_check program) (confined_execute bound fuel program)

end Phases

section Runs

variable {fuel bound : Nat} {options : Options} {source : String} {outcome : Except Failure Unit}
  {sections : Sections}

theorem heading_writes (reports : Reports fuel options source outcome sections) (log : Log) :
    (leftBy (heading options source ⟨{}, log⟩)).output = ⟨none, sections.listing ++ sections.tree⟩ := by
  cases reports with
  | lexical scanned =>
      rw [heading_lexical scanned, leftBy, ByteArray.append_empty]
  | syntactic scanned listed read =>
      obtain rfl := (lists_tokens_iff _ _).mp listed
      rw [heading_syntactic scanned read, leftBy, ByteArray.empty_append, ByteArray.append_empty]
  | semantic scanned listed read | failed scanned listed read | returned scanned listed read =>
      obtain rfl := (lists_tokens_iff _ _).mp listed
      rw [heading_read scanned read, leftBy, ByteArray.empty_append]

theorem body_writes (reports : Reports fuel options source outcome sections) {log : Log} {program : Program}
    {middle : Transcript} (answer : heading options source ⟨{}, log⟩ = .ok program middle) :
    (leftBy (body fuel options program middle)).output =
      ⟨none, sections.listing ++ sections.tree ++ sections.program⟩ := by
  cases reports with
  | lexical scanned =>
      rw [heading_lexical scanned] at answer
      cases answer
  | syntactic scanned listed read =>
      rw [heading_syntactic scanned read] at answer
      cases answer
  | semantic scanned listed read checks analyzed =>
      obtain rfl := (lists_tokens_iff _ _).mp listed
      rw [heading_read scanned read, ByteArray.empty_append] at answer
      cases answer
      obtain ⟨_, stops⟩ := body_semantic fuel checks analyzed _ _
      rw [stops, leftBy, ByteArray.append_empty]
  | failed scanned listed read passed evaluated =>
      obtain rfl := (lists_tokens_iff _ _).mp listed
      rw [heading_read scanned read, ByteArray.empty_append] at answer
      cases answer
      obtain ⟨_, stops⟩ := body_evaluates (.error (.failed _)) scanned read passed evaluated _ _
      rw [stops, ended, leftBy]
  | returned scanned listed read passed evaluated =>
      obtain rfl := (lists_tokens_iff _ _).mp listed
      rw [heading_read scanned read, ByteArray.empty_append] at answer
      cases answer
      obtain ⟨_, returns⟩ := body_evaluates (.ok _) scanned read passed evaluated _ _
      rw [returns, ended, leftBy]

theorem heading_source {log : Log} {program : Program} {middle : Transcript}
    (answer : heading options source ⟨{}, log⟩ = .ok program middle) :
    ∃ tokens, tokenize source = .ok tokens ∧ Program.ofTokens tokens = .ok program := by
  cases scanned : tokenize source with
  | error error =>
      rw [heading_lexical scanned] at answer
      cases answer
  | ok tokens =>
      cases read : Program.ofTokens tokens with
      | error error =>
          rw [heading_syntactic scanned read] at answer
          cases answer
      | ok found =>
          rw [heading_read scanned read] at answer
          cases answer
          exact ⟨tokens, rfl, read⟩

theorem rest_confined (bound fuel : Nat) (options : Options) (program : Program) :
    Confined transcriptOutlet bound (fun _ => True) (body fuel options program >>= ending options) := by
  apply confined_bind (confined_mono (body_confined bound fuel options program) fun _ _ => trivial)
  exact fun value => confined_mono (ending_confined bound options value) fun _ _ => trivial

theorem rest_ends_within (reports : Reports fuel options source outcome sections) {log : Log}
    {program : Program} {middle : Transcript}
    (answer : heading options source ⟨{}, log⟩ = .ok program middle)
    (free : middle.output = ⟨none, sections.listing ++ sections.tree⟩)
    (fits : Fits transcriptOutlet bound middle) :
    EndsWithin transcriptOutlet bound (CutAt source sections bound)
      ((body fuel options program >>= ending options) middle)
      ((body fuel options program >>= ending options) (transcriptOutlet.limited bound middle)) := by
  obtain ⟨tokens, scanned, read⟩ := heading_source answer
  have bodied := body_writes reports answer
  have before : sections.listing.size + sections.tree.size ≤ bound := by
    rw [← ByteArray.size_append]
    exact (congrArg (fun sink : Sink => sink.bytes.size ≤ bound) free).mp fits
  apply ends_within_bind
  · have unlimited : Unlimited transcriptOutlet middle := congrArg Sink.limit free
    apply ends_within_mono ((body_confined bound fuel options program).ends middle unlimited fits)
    intro beyond failure ⟨line, same, prints⟩
    change ¬ (leftBy (body fuel options program middle)).output.bytes.size ≤ bound at beyond
    rw [bodied, ByteArray.size_append, ByteArray.size_append] at beyond
    have inProgram : sections.InProgram bound := ⟨before, by omega⟩
    exact ⟨fun _ => ⟨line, same, tokens, program, scanned, read, prints⟩,
      fun outside => absurd inProgram outside⟩
  · intro value last ended
    rw [ended] at bodied
    exact (ending_confined bound options value).writes last (congrArg Sink.limit bodied)
  · intro value last ended room
    rw [ended] at bodied
    have behind : last.output.bytes.size ≤ bound := room
    rw [show last.output = _ from bodied, ByteArray.size_append, ByteArray.size_append] at behind
    apply ends_within_mono ((ending_confined bound options value).ends last (congrArg Sink.limit bodied) room)
    intro _ failure atLimit
    exact ⟨fun inProgram => absurd inProgram.2 (by omega), fun _ => atLimit⟩

theorem run_ends_within (reports : Reports fuel options source outcome sections) (bound : Nat) (log : Log) :
    EndsWithin transcriptOutlet bound (CutAt source sections bound) (run fuel options source ⟨{}, log⟩)
      (run fuel options source (transcriptOutlet.limited bound ⟨{}, log⟩)) := by
  have headed := heading_writes reports log
  rw [run_phases]
  apply ends_within_bind
  · apply ends_within_mono ((heading_confined bound options source).ends ⟨{}, log⟩ rfl (Nat.zero_le bound))
    intro beyond failure atLimit
    change ¬ (leftBy (heading options source ⟨{}, log⟩)).output.bytes.size ≤ bound at beyond
    rw [headed, ByteArray.size_append] at beyond
    exact ⟨fun inProgram => absurd inProgram.1 beyond, fun _ => atLimit⟩
  · intro program middle answer
    rw [answer] at headed
    exact (rest_confined bound fuel options program).writes middle (congrArg Sink.limit headed)
  · intro program middle answer fits
    rw [answer] at headed
    exact rest_ends_within reports answer headed fits

theorem evaluate_ends_within (fuel bound : Nat) (source : String) (log : Log) :
    EndsWithin transcriptOutlet bound
      (CutAt source { program := (leftBy (evaluate fuel source ⟨{}, log⟩)).output.bytes } bound)
      (evaluate fuel source ⟨{}, log⟩) (evaluate fuel source (transcriptOutlet.limited bound ⟨{}, log⟩)) := by
  cases scanned : tokenize source with
  | error error =>
      rw [evaluate_lexical scanned, evaluate_lexical scanned]
      exact .inr (.inl ⟨Nat.zero_le bound, rfl⟩)
  | ok tokens =>
      cases read : Program.ofTokens tokens with
      | error error =>
          rw [evaluate_syntactic scanned read, evaluate_syntactic scanned read]
          exact .inr (.inl ⟨Nat.zero_le bound, rfl⟩)
      | ok program =>
          rw [evaluate_executes fuel scanned read, evaluate_executes fuel scanned read]
          let start : Transcript := ⟨{}, .parsed program.statements.length :: log⟩
          apply ends_within_mono ((confined_execute bound fuel program).ends start rfl (Nat.zero_le bound))
          intro beyond failure ⟨line, same, prints⟩
          let printed := (leftBy (execute fuel program start)).output.bytes
          have more : bound < printed.size := Nat.lt_of_not_le beyond
          have inProgram : Sections.InProgram { program := printed } bound :=
            ⟨Nat.zero_le bound, by simpa using more⟩
          exact ⟨fun _ => ⟨line, same, tokens, program, scanned, read, prints⟩,
            fun outside => absurd inProgram outside⟩

theorem left_by_finished {α : Type} (outcome : Except Failure α) (after : Transcript) :
    leftBy (finished outcome after) = after := by
  cases outcome <;> rfl

theorem cuts_off_of_within {α : Type} {outcome : Except Failure α} {after : Transcript}
    {confined : EStateM.Result (Stop Failure) Transcript α} (written : after.output.bytes = sections.bytes)
    (within : EndsWithin transcriptOutlet bound (CutAt source sections bound) (finished outcome after)
      confined) :
    ∃ limited later, confined = finished limited later ∧
      CutsOff source bound sections outcome limited later.output.bytes := by
  rw [EndsWithin, left_by_finished, Fits] at within
  change _ ∨ after.output.bytes.size ≤ bound ∧ _ ∨ ¬ after.output.bytes.size ≤ bound ∧ _ at within
  rw [written] at within
  obtain ⟨_, exhausted⟩ | ⟨fits, same⟩ | ⟨beyond, failure, later, same, cutAt, stored⟩ := within
  · cases outcome <;> cases exhausted
  · refine ⟨outcome, transcriptOutlet.limited bound after, ?_, ?_⟩
    · rw [same]
      cases outcome <;> rfl
    · constructor
      case stored =>
        have whole : max bound sections.bytes.size = bound := by omega
        rw [← whole, ByteArray.extract_zero_max_size]
        exact written
      case whole => exact fun _ => rfl
      case cut => exact fun beyond => absurd fits (Nat.not_le_of_lt beyond)
  · refine ⟨.error failure, later, same, ?_⟩
    constructor
    case stored =>
      rw [← written]
      exact stored
    case whole => exact fun fits => absurd fits beyond
    case cut => exact fun _ => ⟨failure, rfl, cutAt⟩

end Runs

end Script

/-- A limit cuts the output of a run and of an evaluation, and nothing else: what is stored is the beginning of
what is written without a limit, the outcome is the same if everything fits, and else it is the failure that goes
with the section of the first byte too many. -/
theorem limit_cuts_output (fuel bound : Nat) (options : Options) (source : String) (log : Log) :
    (∀ outcome after, Script.run fuel options source ⟨{}, log⟩ = Script.finished outcome after →
      ∃ sections limited later, Script.Reports fuel options source outcome sections ∧
        after.output.bytes = sections.bytes ∧
        Script.run fuel options source ⟨{ limit := some bound }, log⟩ = Script.finished limited later ∧
        Script.CutsOff source bound sections outcome limited later.output.bytes) ∧
    ∀ outcome after, Script.evaluate fuel source ⟨{}, log⟩ = Script.finished outcome after →
      ∃ limited later,
        Script.evaluate fuel source ⟨{ limit := some bound }, log⟩ = Script.finished limited later ∧
        Script.CutsOff source bound { program := after.output.bytes } outcome limited later.output.bytes := by
  constructor
  · intro outcome after ends
    obtain ⟨sections, reports, output⟩ := Script.reports_of_run ends
    have written : after.output.bytes = sections.bytes := by
      rw [output, ByteArray.empty_append]
    have within := Script.run_ends_within reports bound log
    rw [ends] at within
    obtain ⟨limited, later, answer, cuts⟩ := Script.cuts_off_of_within written within
    exact ⟨sections, limited, later, reports, written, answer, cuts⟩
  · intro outcome after ends
    have within := Script.evaluate_ends_within fuel bound source log
    rw [ends, Script.left_by_finished] at within
    apply Script.cuts_off_of_within _ within
    simp [Sections.bytes]

-- A text that prints three bytes and whose value takes two more.
def cutText : String := "print(\"ab\");\n\"c\""

def cutTokens : List Token :=
  [⟨⟨.identifier, "print"⟩, 1⟩, ⟨⟨.separator, "("⟩, 1⟩, ⟨⟨.literal, "\"ab\""⟩, 1⟩, ⟨⟨.separator, ")"⟩, 1⟩,
    ⟨⟨.separator, ";"⟩, 1⟩, ⟨⟨.whitespace, "\n"⟩, 1⟩, ⟨⟨.literal, "\"c\""⟩, 2⟩]

theorem short_text_cut :
    (∃ later, Script.run 0 { value := true } cutText ⟨{ limit := some 4 }, []⟩ =
      .error (.failed (.output .limitReached)) later ∧ later.output.bytes = "ab\nc".toUTF8) ∧
    ∃ line later, Script.evaluate 0 cutText ⟨{ limit := some 1 }, []⟩ =
      .error (.failed (.runtime ⟨line, .output .limitReached⟩)) later ∧ later.output.bytes = "a".toUTF8 := by
  have scanned : tokenize cutText = .ok cutTokens := by decide +kernel
  have evaluated : ∃ after, Script.evaluate 0 cutText {} = .ok (.string "c") after ∧
      after.output.bytes = "ab\n".toUTF8 := by
    rw [Script.evaluate, Script.scan, scanned]
    exact ⟨_, rfl, rfl⟩
  have ran : ∃ after, Script.run 0 { value := true } cutText {} = .ok () after := by
    rw [Script.run, Script.scan, scanned]
    exact ⟨_, rfl⟩
  obtain ⟨alone, returns, printed⟩ := evaluated
  obtain ⟨after, ends⟩ := ran
  constructor
  · obtain ⟨sections, limited, later, reports, -, answer, cuts⟩ :=
      (limit_cuts_output 0 4 { value := true } cutText []).1 (.ok ()) after ends
    cases reports with
    | returned _ _ _ _ evaluated =>
        rw [returns] at evaluated
        cases evaluated
        rw [printed] at cuts
        change Script.CutsOff cutText 4 { program := "ab\n".toUTF8, value := "c\n".toUTF8 } _ _ _ at cuts
        obtain ⟨failure, failed, cutAt⟩ := cuts.cut (by decide)
        rw [failed, cutAt.elsewhere (by decide)] at answer
        exact ⟨later, answer, cuts.stored⟩
  · obtain ⟨limited, later, answer, cuts⟩ :=
      (limit_cuts_output 0 1 {} cutText []).2 (.ok _) alone returns
    rw [printed] at cuts
    obtain ⟨failure, failed, cutAt⟩ := cuts.cut (by decide)
    obtain ⟨line, cause, -⟩ := cutAt.inProgram (by decide)
    rw [failed, cause] at answer
    exact ⟨line, later, answer, cuts.stored⟩
end Scriptlet
