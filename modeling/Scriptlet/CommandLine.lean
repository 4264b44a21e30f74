import Scriptlet.Script
import Scriptlet.Text.Plain

set_option autoImplicit false

namespace Scriptlet

inductive Flag where
  | file
  | pipeMode
  | check
  | tokens
  | tree
  | trace
deriving DecidableEq, Repr

def Flag.ofName? : String → Option Flag
  | "file" => some .file
  | "pipe-mode" => some .pipeMode
  | "check" => some .check
  | "tokens" => some .tokens
  | "tree" => some .tree
  | "trace" => some .trace
  | _ => none

def Flag.ofLetter? : Char → Option Flag
  | 'f' => some .file
  | 'p' => some .pipeMode
  | 'c' => some .check
  | _ => none

inductive Argument where
  | flags (known : List Flag)
  | positional (text : String)
  | endOfFlags
  | unknown
deriving DecidableEq, Repr

-- A long flag, a group of short ones, the mark that ends the flags, or a positional argument; a
-- lone dash is positional.
def Argument.ofText (text : String) : Argument :=
  match text.toList with
  | ['-', '-'] => .endOfFlags
  | '-' :: '-' :: name =>
      match Flag.ofName? (String.ofList name) with
      | some flag => .flags [flag]
      | none => .unknown
  | '-' :: letter :: letters =>
      match (letter :: letters).mapM Flag.ofLetter? with
      | some known => .flags known
      | none => .unknown
  | _ => .positional text

def collectArguments : List String → Option (List Flag × List String)
  | [] => some ([], [])
  | text :: others =>
      match Argument.ofText text with
      | .endOfFlags => some ([], others)
      | .unknown => none
      | .flags flags =>
          (collectArguments others).map fun (more, positional) => (flags ++ more, positional)
      | .positional text =>
          (collectArguments others).map fun (flags, positional) => (flags, text :: positional)

structure Request where
  isFile : Bool
  isTraced : Bool
  options : Options
  contents : String
deriving DecidableEq, Repr

-- There has to be exactly one positional argument, and no flag may stand twice.
def Request.ofArguments? (arguments : List String) : Option Request :=
  match collectArguments arguments with
  | some (flags, [contents]) =>
      if flags.Nodup then
        some {
          isFile := .file ∈ flags
          isTraced := .trace ∈ flags
          options := {
            tokens := .tokens ∈ flags
            tree := .tree ∈ flags
            check := .check ∈ flags
            value := .pipeMode ∈ flags }
          contents }
      else none
  | _ => none

structure Report where
  exitCode : Nat
  output : ByteArray := .empty
  errors : String := ""

-- A message on the error channel, without terminal control. All lines but the first are set in
-- by four blanks.
def traceLine (message : String) : String :=
  let setIn := message.toList.flatMap fun c => if c = '\n' then "\n    ".toList else [c]
  Text.plain ("[TRACE prog::exec] " ++ String.ofList setIn ++ "\n")

def traceLines (log : Log) : String :=
  String.join (log.reverse.filterMap fun
    | .step depth event => some (traceLine (Record.step depth event).message)
    | _ => none)

namespace Request

def unreadable (request : Request) : Report where
  exitCode := 1
  errors := "Failed to read the input file '" ++ request.contents ++
    "'. Perhaps this file does not exist?\n"

def runSource (fuel : Nat) (request : Request) (source : String) : Option Report :=
  let traced (transcript : Transcript) : String :=
    if request.isTraced then traceLines transcript.log else ""
  match Script.run fuel request.options source {} with
  | .ok _ transcript =>
      some { exitCode := 0, output := transcript.output.bytes, errors := traced transcript }
  | .error (.failed failure) transcript =>
      some {
        exitCode := 1
        output := transcript.output.bytes
        errors := traced transcript ++ failure.message ++ "\n" }
  | .error .outOfFuel _ => none

def answer (fuel : Nat) (file? : String → Option ByteArray) (request : Request) : Option Report :=
  if request.isFile then
    match (file? request.contents).bind String.fromUTF8? with
    | some source => request.runSource fuel source
    | none => some request.unreadable
  else request.runSource fuel request.contents

end Request

end Scriptlet
