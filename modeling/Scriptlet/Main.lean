import Scriptlet.CommandLine

set_option autoImplicit false

namespace Scriptlet

def readBytes? (name : String) : IO (Option ByteArray) := do
  try
    return some (← IO.FS.readBinFile name)
  catch _ =>
    return none

def Report.write (report : Report) : IO UInt32 := do
  let output ← IO.getStdout
  output.write report.output
  output.flush
  (← IO.getStderr).putStr report.errors
  return report.exitCode.toUInt32

def serve (arguments : List String) : IO UInt32 := do
  match Request.ofArguments? arguments with
  | none =>
      (← IO.getStderr).putStrLn "usage: [-f] [-p] [-c] [--tokens] [--tree] [--trace] <CONTENTS>"
      return 2
  | some request =>
      let bytes ← if request.isFile then readBytes? request.contents else pure none
      match request.answer ampleFuel (fun _ => bytes) with
      | none => return 3
      | some report => report.write

end Scriptlet

def main (arguments : List String) : IO UInt32 := Scriptlet.serve arguments
