import Scriptlet.Script

set_option autoImplicit false

namespace Scriptlet.Script

def Concludes {α : Type} (returns : α → Prop) (fails : Failure → Prop) (script : Script α) : Prop :=
  ∀ transcript,
    match script transcript with
    | .ok result _ => returns result
    | .error (.failed failure) _ => fails failure
    | .error .outOfFuel _ => True

structure Stages (source : String) (fails : Failure → Prop) : Prop where
  scanning : ∀ {error : LexicalError}, tokenize source = .error error → fails (.lexical error)
  reading : ∀ {tokens : List Token} {error : SyntacticError}, tokenize source = .ok tokens →
    Program.ofTokens tokens = .error error → fails (.syntactic error)
  checking : ∀ {tokens : List Token} {program : Program} {survey after : Survey} {error : SemanticError},
    tokenize source = .ok tokens → Program.ofTokens tokens = .ok program →
    program.check survey = .error error after → fails (.semantic error)
  executing : ∀ {tokens : List Token} {program : Program} {fuel : Nat} {context after : Context}
    {error : RuntimeError}, tokenize source = .ok tokens → Program.ofTokens tokens = .ok program →
    program.execute fuel context = .error (.failed error) after → fails (.runtime error)
  writing : ∀ fault : WriteFault, fails (.output fault)

section Sequences

variable {α β : Type} {returns : α → Prop} {fails : Failure → Prop}

theorem concludes_pure {result : α} (holds : returns result) : Concludes returns fails (pure result) :=
  fun _ => holds

theorem concludes_bind {returned : β → Prop} {script : Script α} {next : α → Script β}
    (concludes : Concludes returns fails script)
    (continues : ∀ result, returns result → Concludes returned fails (next result)) :
    Concludes returned fails (script >>= next) := by
  intro transcript
  have first := concludes transcript
  change match EStateM.bind script next transcript with
    | .ok result _ => returned result
    | .error (.failed failure) _ => fails failure
    | .error .outOfFuel _ => True
  unfold EStateM.bind
  match answer : script transcript with
  | .ok result after =>
      rw [answer] at first
      exact continues result first after
  | .error (.failed failure) after =>
      rw [answer] at first
      exact first
  | .error .outOfFuel after => trivial

theorem concludes_when {returned : β → Prop} {demanded : Bool} {script : Script Unit}
    {next : Unit → Script β} (concludes : Concludes (fun _ => True) fails script)
    (continues : Concludes returned fails (next ())) :
    Concludes returned fails (if demanded = true then script >>= next else next ()) := by
  by_cases asked : demanded = true
  · rw [if_pos asked]
    exact concludes_bind concludes fun _ _ => continues
  · rw [if_neg asked]
    exact continues

theorem concludes_record (entry : Record) : Concludes (fun _ => True) fails (record entry) :=
  fun _ => trivial

end Sequences

section Stages

variable {source : String} {fails : Failure → Prop} (stages : Stages source fails)
include stages

theorem concludes_scan : Concludes (fun tokens => tokenize source = .ok tokens) fails (scan source) := by
  rw [scan]
  cases scanned : tokenize source with
  | ok tokens => exact concludes_pure rfl
  | error error => exact fun _ => stages.scanning scanned

theorem concludes_write (text : String) : Concludes (fun _ => True) fails (write text) := by
  intro ⟨output, log⟩
  simp only [write]
  cases Sink.write text output with
  | ok _ output => trivial
  | error fault output => exact stages.writing fault

variable {tokens : List Token} (scanned : tokenize source = .ok tokens)
include scanned

theorem concludes_parse :
    Concludes (fun program => Program.ofTokens tokens = .ok program) fails (parse tokens) := by
  rw [parse]
  cases read : Program.ofTokens tokens with
  | ok program => exact fun _ => rfl
  | error error => exact fun _ => stages.reading scanned read

variable {program : Program} (read : Program.ofTokens tokens = .ok program)
include read

theorem concludes_check : Concludes (fun _ => True) fails (check program) := by
  intro ⟨output, log⟩
  simp only [check]
  cases answer : program.check { log } with
  | ok _ survey => trivial
  | error error survey => exact stages.checking scanned read answer

theorem concludes_execute (fuel : Nat) : Concludes (fun _ => True) fails (execute fuel program) := by
  intro ⟨output, log⟩
  simp only [execute]
  match answer : program.execute fuel { output, log } with
  | .ok value context => trivial
  | .error (.failed error) context => exact stages.executing scanned read answer
  | .error .outOfFuel context => trivial

omit scanned read in
theorem evaluate_concludes (fuel : Nat) : Concludes (fun _ => True) fails (evaluate fuel source) := by
  apply concludes_bind (concludes_scan stages)
  intro tokens scanned
  apply concludes_bind (concludes_parse stages scanned)
  intro program read
  exact concludes_execute stages scanned read fuel

omit scanned read in
theorem run_concludes (fuel : Nat) (options : Options) :
    Concludes (fun _ => True) fails (run fuel options source) := by
  apply concludes_bind (concludes_scan stages)
  intro tokens scanned
  apply concludes_bind (concludes_record _)
  intro _ _
  apply concludes_when (concludes_write stages _)
  apply concludes_bind (concludes_parse stages scanned)
  intro program read
  apply concludes_when (concludes_write stages _)
  apply concludes_when (concludes_check stages scanned read)
  apply concludes_bind (concludes_execute stages scanned read fuel)
  intro value _
  by_cases asked : (options.value && !value.isNone) = true
  · rw [if_pos asked]
    exact concludes_write stages _
  · rw [if_neg asked]
    exact concludes_pure trivial

end Stages

end Scriptlet.Script
