import Scriptlet.Analysis
import Scriptlet.Evaluation
import Scriptlet.Expr.Tree
import Scriptlet.Parser.Program
import Scriptlet.Token.Scanner

set_option autoImplicit false

namespace Scriptlet

structure Options where
  tokens : Bool := false
  tree : Bool := false
  check : Bool := false
  value : Bool := false
deriving DecidableEq, Repr

structure Transcript where
  output : Sink := {}
  log : Log := []

abbrev Script := EStateM (Stop Failure) Transcript

namespace Script

def fail {α : Type} (failure : Failure) : Script α := throw (.failed failure)

def record (entry : Record) : Script Unit :=
  modify fun transcript => { transcript with log := entry :: transcript.log }

def write (text : String) : Script Unit := fun ⟨output, log⟩ =>
  match Sink.write text output with
  | .ok _ output => .ok () ⟨output, log⟩
  | .error fault output => .error (.failed (.output fault)) ⟨output, log⟩

def scan (source : String) : Script (List Token) :=
  match tokenize source with
  | .ok tokens => pure tokens
  | .error error => fail (.lexical error)

def parse (tokens : List Token) : Script Program :=
  match Program.ofTokens tokens with
  | .ok program => do
      record (.parsed program.statements.length)
      return program
  | .error error => fail (.syntactic error)

def check (program : Program) : Script Unit := fun ⟨output, log⟩ =>
  match program.check { log } with
  | .ok _ survey => .ok () ⟨output, survey.log⟩
  | .error error survey => .error (.failed (.semantic error)) ⟨output, survey.log⟩

def execute (fuel : Nat) (program : Program) : Script Value := fun ⟨output, log⟩ =>
  match program.execute fuel { output, log } with
  | .ok value context => .ok value ⟨context.output, context.log⟩
  | .error (.failed error) context =>
      .error (.failed (.runtime error)) ⟨context.output, context.log⟩
  | .error .outOfFuel context => .error .outOfFuel ⟨context.output, context.log⟩

def listing (tokens : List Token) : String :=
  String.join ((tokens.filter Token.isSignificant).map fun token => token.render ++ "\n")

def evaluate (fuel : Nat) (source : String) : Script Value := do
  let tokens ← scan source
  let program ← parse tokens
  execute fuel program

def run (fuel : Nat) (options : Options) (source : String) : Script Unit := do
  let tokens ← scan source
  record (.lexed tokens.length)
  if options.tokens then write (listing tokens)
  let program ← parse tokens
  if options.tree then write program.tree
  if options.check then check program
  let value ← execute fuel program
  if options.value && !value.isNone then write (value.text ++ "\n")

end Script

end Scriptlet
