import Scriptlet.Proofs.Analysis.Lines
import Scriptlet.Proofs.Evaluation.Isolation
import Scriptlet.Proofs.Sink.Confinement
import Scriptlet.Script

set_option autoImplicit false

namespace Scriptlet

structure Sections where
  listing : ByteArray := .empty
  tree : ByteArray := .empty
  program : ByteArray := .empty
  value : ByteArray := .empty

def Sections.bytes (sections : Sections) : ByteArray :=
  sections.listing ++ sections.tree ++ sections.program ++ sections.value

def Transcript.behind (transcript earlier : Transcript) : Transcript :=
  ⟨⟨none, earlier.output.bytes ++ transcript.output.bytes⟩, transcript.log ++ earlier.log⟩

namespace Script

def finished {α : Type} : Except Failure α → Transcript → EStateM.Result (Stop Failure) Transcript α
  | .ok result, after => .ok result after
  | .error failure, after => .error (.failed failure) after

def ended {α : Type} : Except (Stop Failure) α → Transcript → EStateM.Result (Stop Failure) Transcript α
  | .ok result, after => .ok result after
  | .error stop, after => .error stop after

def onDemand (demanded : Bool) (text : String) : ByteArray := if demanded then text.toUTF8 else .empty

-- A line for each token in its order, which shows its kind and its text. Blanks and comments have none.
inductive ListsTokens : List Token → String → Prop where
  | nothing : ListsTokens [] ""
  | trivia {token : Token} {rest : List Token} {lines : String}
      (skipped : token.kind = .whitespace ∨ token.kind = .comment) (listed : ListsTokens rest lines) :
      ListsTokens (token :: rest) lines
  | line {token : Token} {rest : List Token} {lines : String} (notBlank : token.kind ≠ .whitespace)
      (notComment : token.kind ≠ .comment) (listed : ListsTokens rest lines) :
      ListsTokens (token :: rest) ("(" ++ token.kind.name ++ ":" ++ token.text ++ ")\n" ++ lines)

inductive Reports (fuel : Nat) (options : Options) (source : String) :
    (outcome : Except Failure Unit) → (sections : Sections) → Prop where
  | lexical {error : LexicalError} (scanned : tokenize source = .error error) :
      Reports fuel options source (.error (.lexical error)) {}
  | syntactic {tokens : List Token} {lines : String} {error : SyntacticError}
      (scanned : tokenize source = .ok tokens) (listed : ListsTokens tokens lines)
      (read : Program.ofTokens tokens = .error error) :
      Reports fuel options source (.error (.syntactic error))
        { listing := onDemand options.tokens lines }
  | semantic {tokens : List Token} {lines : String} {program : Program} {error : SemanticError}
      (scanned : tokenize source = .ok tokens) (listed : ListsTokens tokens lines)
      (read : Program.ofTokens tokens = .ok program)
      (checks : options.check = true) (analyzed : program.analyze = .error error) :
      Reports fuel options source (.error (.semantic error))
        { listing := onDemand options.tokens lines
          tree := onDemand options.tree program.tree }
  | failed {tokens : List Token} {lines : String} {program : Program} {failure : Failure}
      {after : Transcript} (scanned : tokenize source = .ok tokens) (listed : ListsTokens tokens lines)
      (read : Program.ofTokens tokens = .ok program)
      (passed : options.check = true → program.analyze = .ok ())
      (evaluated : evaluate fuel source {} = .error (.failed failure) after) :
      Reports fuel options source (.error failure)
        { listing := onDemand options.tokens lines
          tree := onDemand options.tree program.tree
          program := after.output.bytes }
  | returned {tokens : List Token} {lines : String} {program : Program} {value : Value}
      {after : Transcript} (scanned : tokenize source = .ok tokens) (listed : ListsTokens tokens lines)
      (read : Program.ofTokens tokens = .ok program)
      (passed : options.check = true → program.analyze = .ok ())
      (evaluated : evaluate fuel source {} = .ok value after) :
      Reports fuel options source (.ok ())
        { listing := onDemand options.tokens lines
          tree := onDemand options.tree program.tree
          program := after.output.bytes
          value := onDemand (options.value && !value.isNone) (value.text ++ "\n") }

section Listing

variable {token : Token} {rest : List Token}

theorem listing_trivia (skipped : token.kind = .whitespace ∨ token.kind = .comment) :
    listing (token :: rest) = listing rest := by
  have trivial : token.isSignificant = false := by
    rcases skipped with kind | kind <;> rw [Token.isSignificant, kind] <;> rfl
  rw [listing, List.filter_cons_of_neg (by simp [trivial]), listing]

theorem listing_line (notBlank : token.kind ≠ .whitespace) (notComment : token.kind ≠ .comment) :
    listing (token :: rest) = "(" ++ token.kind.name ++ ":" ++ token.text ++ ")\n" ++ listing rest := by
  have significant : token.isSignificant = true := by
    cases kind : token.kind <;> simp_all [Token.isSignificant, TokenKind.isTrivia]
  rw [listing, List.filter_cons_of_pos significant, List.map_cons, String.join_cons, Lexeme.render, listing]
  simp only [String.append_assoc]
  rfl

theorem lists_tokens_iff (tokens : List Token) (lines : String) :
    ListsTokens tokens lines ↔ lines = listing tokens := by
  constructor
  · intro listed
    induction listed with
    | nothing => rfl
    | trivia skipped _ ih => rw [listing_trivia skipped, ih]
    | line notBlank notComment _ ih => rw [listing_line notBlank notComment, ih]
  · rintro rfl
    induction tokens with
    | nil => exact .nothing
    | cons token rest ih =>
        by_cases notBlank : token.kind = .whitespace
        · rw [listing_trivia (.inl notBlank)]
          exact .trivia (.inl notBlank) ih
        by_cases notComment : token.kind = .comment
        · rw [listing_trivia (.inr notComment)]
          exact .trivia (.inr notComment) ih
        · rw [listing_line notBlank notComment]
          exact .line notBlank notComment ih

theorem lists_tokens (tokens : List Token) : ListsTokens tokens (listing tokens) :=
  (lists_tokens_iff tokens _).mpr rfl

end Listing

def heading (options : Options) (source : String) : Script Program := do
  let tokens ← scan source
  record (.lexed tokens.length)
  if options.tokens then write (listing tokens)
  let program ← parse tokens
  if options.tree then write program.tree
  return program

def body (fuel : Nat) (options : Options) (program : Program) : Script Value := do
  if options.check then check program
  execute fuel program

def ending (options : Options) (value : Value) : Script Unit := do
  if options.value && !value.isNone then write (value.text ++ "\n")

theorem run_phases (fuel : Nat) (options : Options) (source : String) :
    run fuel options source =
      heading options source >>= fun program => body fuel options program >>= ending options := by
  obtain ⟨tokens, tree, check, value⟩ := options
  cases tokens <;> cases tree <;> cases check <;>
    simp only [run, heading, body, bind_assoc, pure_bind, if_true, if_false, Bool.false_eq_true] <;> rfl

section Steps

variable {α β : Type} {script : Script α} {next : α → Script β} {transcript after : Transcript}

theorem bind_of_ok {result : α} (ran : script transcript = .ok result after) :
    (script >>= next) transcript = next result after := by
  change EStateM.bind script next transcript = _
  rw [EStateM.bind, ran]

theorem bind_of_error {stop : Stop Failure} (ran : script transcript = .error stop after) :
    (script >>= next) transcript = .error stop after := by
  change EStateM.bind script next transcript = _
  rw [EStateM.bind, ran]

end Steps

theorem demanded_runs {α : Type} (demanded : Bool) (text : String) (next : Unit → Script α)
    (bytes : ByteArray) (log : Log) :
    (if demanded = true then write text >>= next else next ()) ⟨⟨none, bytes⟩, log⟩ =
      next () ⟨⟨none, bytes ++ onDemand demanded text⟩, log⟩ := by
  cases demanded with
  | true => rfl
  | false =>
      rw [onDemand, if_neg (by decide), if_neg (by decide), ByteArray.append_empty]

section Phases

variable {options : Options} {source : String} {tokens : List Token} {program : Program}

theorem scan_ok (scanned : tokenize source = .ok tokens) (transcript : Transcript) :
    scan source transcript = .ok tokens transcript := by
  rw [scan, scanned]
  rfl

theorem record_ok (entry : Record) (transcript : Transcript) :
    record entry transcript = .ok () { transcript with log := entry :: transcript.log } := rfl

theorem parse_ok (read : Program.ofTokens tokens = .ok program) (transcript : Transcript) :
    parse tokens transcript =
      .ok program { transcript with log := .parsed program.statements.length :: transcript.log } := by
  rw [parse, read]
  rfl

theorem parse_error {error : SyntacticError} (read : Program.ofTokens tokens = .error error)
    (transcript : Transcript) : parse tokens transcript = .error (.failed (.syntactic error)) transcript := by
  rw [parse, read]
  rfl

theorem heading_lexical {error : LexicalError} (scanned : tokenize source = .error error)
    (transcript : Transcript) :
    heading options source transcript = .error (.failed (.lexical error)) transcript := by
  rw [heading, scan, scanned]
  rfl

theorem heading_syntactic {error : SyntacticError} (scanned : tokenize source = .ok tokens)
    (read : Program.ofTokens tokens = .error error) (bytes : ByteArray) (log : Log) :
    heading options source ⟨⟨none, bytes⟩, log⟩ = .error (.failed (.syntactic error))
      ⟨⟨none, bytes ++ onDemand options.tokens (listing tokens)⟩, .lexed tokens.length :: log⟩ := by
  apply (bind_of_ok (scan_ok scanned _)).trans
  apply (bind_of_ok (record_ok _ _)).trans
  apply (demanded_runs options.tokens (listing tokens) _ _ _).trans
  exact bind_of_error (parse_error read _)

theorem heading_read (scanned : tokenize source = .ok tokens) (read : Program.ofTokens tokens = .ok program)
    (bytes : ByteArray) (log : Log) :
    heading options source ⟨⟨none, bytes⟩, log⟩ = .ok program
      ⟨⟨none, bytes ++ onDemand options.tokens (listing tokens) ++ onDemand options.tree program.tree⟩,
        .parsed program.statements.length :: .lexed tokens.length :: log⟩ := by
  apply (bind_of_ok (scan_ok scanned _)).trans
  apply (bind_of_ok (record_ok _ _)).trans
  apply (demanded_runs options.tokens (listing tokens) _ _ _).trans
  apply (bind_of_ok (parse_ok read _)).trans
  exact demanded_runs options.tree program.tree _ _ _

theorem body_passed (fuel : Nat) (passed : options.check = true → program.analyze = .ok ())
    (output : Sink) (log : Log) :
    ∃ log', body fuel options program ⟨output, log⟩ = execute fuel program ⟨output, log'⟩ := by
  by_cases checks : options.check = true
  · obtain ⟨after, ran, -⟩ | ⟨error, after, -, refused⟩ := check_analyzes program log
    · refine ⟨after.log, ?_⟩
      simp only [body, if_pos checks]
      apply bind_of_ok
      rw [check, ran]
    · rw [passed checks] at refused
      cases refused
  · exact ⟨log, by simp only [body, if_neg checks]⟩

theorem body_semantic (fuel : Nat) {error : SemanticError} (checks : options.check = true)
    (analyzed : program.analyze = .error error) (output : Sink) (log : Log) :
    ∃ log', body fuel options program ⟨output, log⟩ = .error (.failed (.semantic error)) ⟨output, log'⟩ := by
  obtain ⟨after, -, passed⟩ | ⟨found, after, ran, refused⟩ := check_analyzes program log
  · rw [analyzed] at passed
    cases passed
  · rw [analyzed] at refused
    cases refused
    refine ⟨after.log, ?_⟩
    simp only [body, if_pos checks]
    apply bind_of_error
    rw [check, ran]

theorem ending_runs (value : Value) (bytes : ByteArray) (log : Log) :
    ending options value ⟨⟨none, bytes⟩, log⟩ =
      .ok () ⟨⟨none, bytes ++ onDemand (options.value && !value.isNone) (value.text ++ "\n")⟩, log⟩ := by
  rw [ending]
  by_cases demanded : (options.value && !value.isNone) = true
  · rw [if_pos demanded, onDemand, if_pos demanded]
    rfl
  · rw [if_neg demanded, onDemand, if_neg demanded, ByteArray.append_empty]
    rfl

end Phases

section Execution

variable {fuel : Nat} {program : Program} {log : Log} {after : Transcript}

theorem execute_behind (fuel : Nat) (program : Program) (bytes : ByteArray) (log : Log) :
    execute fuel program ⟨⟨none, bytes⟩, log⟩ =
      mapState (Transcript.behind · ⟨⟨none, bytes⟩, log⟩) (execute fuel program {}) := by
  let start : Context := { output := ⟨none, bytes⟩, log }
  have inStep : Follows id (StandsBehind start) True (program.execute fuel) (program.execute fuel) :=
    execute_follows_itself (behind_transparent start) ⟨Nat.le_refl fuel, fun _ => rfl⟩ program
  have begins : StandsBehind start {} start :=
    ready_behind ⟨reachable_idle (.fresh ⟨none, bytes⟩ log), rfl, rfl⟩
  have follows := inStep {} start begins
  change execute fuel program ⟨start.output, start.log⟩ = _
  rw [execute, execute]
  match answer : program.execute fuel {} with
  | .ok value ⟨symbols, ⟨limit, written⟩, depth, steps⟩ =>
      rw [answer] at follows
      obtain ⟨later, answers, unlimited, rfl⟩ := follows
      cases unlimited
      rw [answers]
      rfl
  | .error (.failed error) ⟨symbols, ⟨limit, written⟩, depth, steps⟩ =>
      rw [answer] at follows
      obtain ⟨later, answers, unlimited, rfl⟩ := follows
      cases unlimited
      rw [answers]
      rfl
  | .error .outOfFuel ⟨symbols, ⟨limit, written⟩, depth, steps⟩ =>
      rw [answer] at follows
      obtain ⟨later, answers, unlimited, rfl⟩ := follows trivial
      cases unlimited
      rw [answers]
      rfl

theorem execute_anywhere {answer : Except (Stop Failure) Value}
    (alone : execute fuel program ⟨{}, log⟩ = ended answer after) (bytes : ByteArray) (log' : Log) :
    ∃ later, execute fuel program ⟨⟨none, bytes⟩, log'⟩ = ended answer later ∧
      later.output = ⟨none, bytes ++ after.output.bytes⟩ := by
  rw [execute_behind fuel program .empty log] at alone
  rw [execute_behind fuel program bytes log']
  cases executed : execute fuel program {} with
  | ok result state =>
      rw [executed] at alone
      cases answer with
      | ok value =>
          cases alone
          exact ⟨_, rfl, by simp [Transcript.behind]⟩
      | error stop => cases alone
  | error stop state =>
      rw [executed] at alone
      cases answer with
      | ok value => cases alone
      | error stop =>
          cases alone
          exact ⟨_, rfl, by simp [Transcript.behind]⟩

end Execution

section Runs

variable {fuel : Nat} {options : Options} {source : String} {tokens : List Token} {program : Program}
  {after : Transcript}

theorem evaluate_lexical {error : LexicalError} (scanned : tokenize source = .error error)
    (transcript : Transcript) :
    evaluate fuel source transcript = .error (.failed (.lexical error)) transcript := by
  rw [evaluate, scan, scanned]
  rfl

theorem evaluate_syntactic {error : SyntacticError} (scanned : tokenize source = .ok tokens)
    (read : Program.ofTokens tokens = .error error) (transcript : Transcript) :
    evaluate fuel source transcript = .error (.failed (.syntactic error)) transcript := by
  apply (bind_of_ok (scan_ok scanned _)).trans
  exact bind_of_error (parse_error read _)

theorem evaluate_executes (fuel : Nat) (scanned : tokenize source = .ok tokens)
    (read : Program.ofTokens tokens = .ok program) (transcript : Transcript) :
    evaluate fuel source transcript = execute fuel program
      { transcript with log := .parsed program.statements.length :: transcript.log } := by
  apply (bind_of_ok (scan_ok scanned _)).trans
  exact bind_of_ok (parse_ok read _)

theorem body_evaluates (answer : Except (Stop Failure) Value) (scanned : tokenize source = .ok tokens)
    (read : Program.ofTokens tokens = .ok program)
    (passed : options.check = true → program.analyze = .ok ())
    (evaluated : evaluate fuel source {} = ended answer after) (bytes : ByteArray) (log : Log) :
    ∃ log', body fuel options program ⟨⟨none, bytes⟩, log⟩ =
      ended answer ⟨⟨none, bytes ++ after.output.bytes⟩, log'⟩ := by
  obtain ⟨log', runs⟩ := body_passed fuel passed ⟨none, bytes⟩ log
  rw [evaluate_executes fuel scanned read] at evaluated
  obtain ⟨⟨output, log⟩, ends, rfl⟩ := execute_anywhere evaluated bytes log'
  exact ⟨log, runs.trans ends⟩

theorem run_of_reports {outcome : Except Failure Unit} {sections : Sections}
    (reports : Reports fuel options source outcome sections) (bytes : ByteArray) (log : Log) :
    ∃ after, run fuel options source ⟨⟨none, bytes⟩, log⟩ = finished outcome after ∧
      after.output = ⟨none, bytes ++ sections.bytes⟩ := by
  rw [run_phases]
  cases reports with
  | lexical scanned =>
      exact ⟨_, bind_of_error (heading_lexical scanned _), by simp [Sections.bytes]⟩
  | syntactic scanned listed read =>
      obtain rfl := (lists_tokens_iff _ _).mp listed
      exact ⟨_, bind_of_error (heading_syntactic scanned read bytes log), by simp [Sections.bytes]⟩
  | semantic scanned listed read checks analyzed =>
      obtain rfl := (lists_tokens_iff _ _).mp listed
      obtain ⟨log', stops⟩ := body_semantic fuel checks analyzed _ _
      refine ⟨_, (bind_of_ok (heading_read scanned read bytes log)).trans (bind_of_error stops), ?_⟩
      simp [Sections.bytes, ByteArray.append_assoc]
  | failed scanned listed read passed evaluated =>
      obtain rfl := (lists_tokens_iff _ _).mp listed
      obtain ⟨log', stops⟩ := body_evaluates (.error (.failed _)) scanned read passed evaluated _ _
      refine ⟨_, (bind_of_ok (heading_read scanned read bytes log)).trans (bind_of_error stops), ?_⟩
      simp [Sections.bytes, ByteArray.append_assoc]
  | returned scanned listed read passed evaluated =>
      obtain rfl := (lists_tokens_iff _ _).mp listed
      obtain ⟨log', returns⟩ := body_evaluates (.ok _) scanned read passed evaluated _ _
      refine ⟨_, (bind_of_ok (heading_read scanned read bytes log)).trans
        ((bind_of_ok returns).trans (ending_runs _ _ _)), ?_⟩
      simp [Sections.bytes, ByteArray.append_assoc]

theorem reports_or_exhausted (fuel : Nat) (options : Options) (source : String) (bytes : ByteArray)
    (log : Log) :
    (∃ outcome sections, Reports fuel options source outcome sections) ∨
      ∃ after, run fuel options source ⟨⟨none, bytes⟩, log⟩ = .error .outOfFuel after := by
  cases scanned : tokenize source with
  | error error => exact .inl ⟨_, _, .lexical scanned⟩
  | ok tokens =>
      cases read : Program.ofTokens tokens with
      | error error => exact .inl ⟨_, _, .syntactic scanned (lists_tokens tokens) read⟩
      | ok program =>
          by_cases passed : options.check = true → program.analyze = .ok ()
          · match evaluated : evaluate fuel source {} with
            | .ok value after => exact .inl ⟨_, _, .returned scanned (lists_tokens tokens) read passed evaluated⟩
            | .error (.failed failure) after =>
                exact .inl ⟨_, _, .failed scanned (lists_tokens tokens) read passed evaluated⟩
            | .error .outOfFuel after =>
                obtain ⟨log', stops⟩ := body_evaluates (.error .outOfFuel) scanned read passed evaluated _ _
                rw [run_phases]
                exact .inr ⟨_, (bind_of_ok (heading_read scanned read bytes log)).trans (bind_of_error stops)⟩
          · obtain ⟨checks, refused⟩ := Classical.not_imp.mp passed
            cases analyzed : program.analyze with
            | ok _ => exact absurd analyzed refused
            | error error => exact .inl ⟨_, _, .semantic scanned (lists_tokens tokens) read checks analyzed⟩

theorem finished_injective {α : Type} {outcome other : Except Failure α} {after later : Transcript}
    (same : finished outcome after = finished other later) : outcome = other ∧ after = later := by
  cases outcome with
  | ok result =>
      cases other with
      | ok _ =>
          cases same
          exact ⟨rfl, rfl⟩
      | error _ => cases same
  | error failure =>
      cases other with
      | ok _ => cases same
      | error _ =>
          cases same
          exact ⟨rfl, rfl⟩

theorem reports_of_run {outcome : Except Failure Unit} {bytes : ByteArray} {log : Log}
    (ends : run fuel options source ⟨⟨none, bytes⟩, log⟩ = finished outcome after) :
    ∃ sections, Reports fuel options source outcome sections ∧
      after.output = ⟨none, bytes ++ sections.bytes⟩ := by
  obtain ⟨reported, sections, reports⟩ | ⟨later, exhausted⟩ :=
    reports_or_exhausted fuel options source bytes log
  · obtain ⟨later, answer, written⟩ := run_of_reports reports bytes log
    obtain ⟨rfl, rfl⟩ := finished_injective (answer.symm.trans ends)
    exact ⟨sections, reports, written⟩
  · rw [exhausted] at ends
    cases outcome <;> cases ends

end Runs

end Script

/-- A run with whatever sections, on an output without a limit, ends with an outcome if it reports this
outcome, and the sections of the report are what it adds to the output. -/
theorem run_writes_sections (fuel : Nat) (options : Options) (source : String) (before : ByteArray)
    (log : Log) (outcome : Except Failure Unit) (output : Sink) :
    (∃ after, Script.run fuel options source ⟨⟨none, before⟩, log⟩ = Script.finished outcome after ∧
      after.output = output) ↔
    ∃ sections, Script.Reports fuel options source outcome sections ∧
      output = ⟨none, before ++ sections.bytes⟩ := by
  constructor
  · rintro ⟨after, ends, rfl⟩
    exact Script.reports_of_run ends
  · rintro ⟨sections, reports, rfl⟩
    exact Script.run_of_reports reports before log

-- A text with a blank, a comment and a literal of two lines.
def commentedText : String := "print (\"a\nb\") // done"

def commentedTokens : List Token :=
  [⟨⟨.identifier, "print"⟩, 1⟩, ⟨⟨.whitespace, " "⟩, 1⟩, ⟨⟨.separator, "("⟩, 1⟩, ⟨⟨.literal, "\"a\nb\""⟩, 1⟩,
    ⟨⟨.separator, ")"⟩, 2⟩, ⟨⟨.whitespace, " "⟩, 2⟩, ⟨⟨.comment, "// done"⟩, 2⟩]

theorem commented_text_listed : ∃ after,
    Script.run 0 { tokens := true, value := true } commentedText {} = .ok () after ∧ after.output = ⟨none,
      "(Identifier:print)\n(Separator:()\n(Literal:\"a\nb\")\n(Separator:))\na\nb\n".toUTF8⟩ := by
  have scanned : tokenize commentedText = .ok commentedTokens := by decide +kernel
  have evaluated : ∃ after, Script.evaluate 0 commentedText {} = .ok .none after ∧
      after.output.bytes = "a\nb\n".toUTF8 := by
    rw [Script.evaluate, Script.scan, scanned]
    exact ⟨_, rfl, rfl⟩
  obtain ⟨after, returns, printed⟩ := evaluated
  have listed : Script.ListsTokens commentedTokens
      "(Identifier:print)\n(Separator:()\n(Literal:\"a\nb\")\n(Separator:))\n" :=
    .line (by decide) (by decide) <| .trivia (by decide) <| .line (by decide) (by decide) <|
      .line (by decide) (by decide) <| .line (by decide) (by decide) <| .trivia (by decide) <|
      .trivia (by decide) .nothing
  have read : Program.ofTokens commentedTokens =
      .ok ⟨[.call 1 "print" [.literal 1 "\"a\nb\""]]⟩ := rfl
  have unchecked : ({ tokens := true, value := true } : Options).check = true →
      Program.analyze ⟨[.call 1 "print" [.literal 1 "\"a\nb\""]]⟩ = .ok () := by
    intro checks
    cases checks
  have reports := Script.Reports.returned scanned listed read unchecked returns
  apply (run_writes_sections 0 { tokens := true, value := true } commentedText .empty [] (.ok ()) _).mpr
  refine ⟨_, reports, ?_⟩
  rw [printed]
  rfl

end Scriptlet
