/-
# The program

Reads the arguments, the files they name and the input, and writes the report.
-/
import TemplateExpansion.CommandLine.Report

namespace TemplateExpansion
namespace CommandLine

/-- What the system says about an error. -/
def systemReason (e : IO.Error) : String :=
  match e with
  | .noFileOrDirectory .. => "No such file or directory (os error 2)"
  | .permissionDenied .. => "Permission denied (os error 13)"
  | .inappropriateType .. => "Is a directory (os error 21)"
  | other => other.toString

/-- What a path leads to.  A file that is there and has no bytes to read can still be opened. -/
def readContent (path : Text) : IO Content := do
  try
    let bytes ← IO.FS.readBinFile (String.ofList path)
    return .bytes bytes.toList
  catch e =>
    let reason := (systemReason e).toList
    match e with
    | .inappropriateType .. => return .unreadable reason
    | _ => return .closed reason

/-- What an optional path leads to. -/
def readOptional : Option Text → IO Content
  | none => pure (.closed [])
  | some path => readContent path

/-- What the input holds. -/
def readInput : IO Content := do
  try
    let bytes ← (← IO.getStdin).readBinToEnd
    return .bytes bytes.toList
  catch e => return .unreadable (systemReason e).toList

/-- The files that options name, and the input when the template is to come from there. -/
def surroundings (o : Options) : IO Surroundings := do
  let config ← readOptional o.config
  let template ← readOptional o.file
  let input ← if o.template.isSome || o.file.isSome || o.list then pure (.bytes []) else readInput
  return ⟨fun path => if some path = o.config then config else template, input, .unreachable⟩

/-- Writes a report and yields its exit code.  Without a report the program is aborted. -/
def writeReport : Option Report → IO UInt32
  | some report => do
    IO.print (String.ofList report.output)
    IO.eprint (String.ofList report.diagnostics)
    return UInt32.ofNat report.code
  | none => do
    IO.eprintln "capacity overflow"
    return UInt32.ofNat abortCode

/-- Runs the program on its arguments. -/
def program (arguments : List String) : IO UInt32 := do
  match read (arguments.map String.toList) with
  | .error _ =>
    IO.eprintln "error: the arguments cannot be understood\n\nFor more information, try '--help'."
    return 2
  | .ok (.expand o) => writeReport (run (← surroundings o) o)
  | .ok command => writeReport (execute ⟨fun _ => .closed [], .bytes [], .unreachable⟩ command)

end CommandLine
end TemplateExpansion

/-- The program. -/
def main (arguments : List String) : IO UInt32 := TemplateExpansion.CommandLine.program arguments
