/-
# Running the command line

The program loads its settings, reads the template from its argument, from a file or from its input,
expands it, and reports the text on its output and the diagnostics after it.  What it writes is a
function of its arguments, of the files and of its input; a fault in the settings comes before one in
the template.  When the expansion is aborted, there is no report.
-/
import TemplateExpansion.CommandLine.Options
import TemplateExpansion.Abort
import TemplateExpansion.Failure
import TemplateExpansion.Builtin.Standard
import TemplateExpansion.Http.Client

namespace TemplateExpansion
namespace CommandLine

/-! ## 1. What the program finds -/

/-- What a path leads to. -/
inductive Content where
  | bytes (b : List UInt8)
  /-- It cannot be opened; the system says why. -/
  | closed (reason : Text)
  /-- It can be opened and not be read; the system says why. -/
  | unreadable (reason : Text)
  deriving Repr, DecidableEq

/-- What surrounds the program: the files, its input, and the transport for bodies.  The input is there
already, but it may still be impossible to read, when it is a directory for example. -/
structure Surroundings where
  file : Text → Content
  input : Content
  transport : Http.Transport

/-- What the program writes, and its exit code. -/
structure Report where
  code : Nat
  output : Text
  diagnostics : Text
  deriving Repr, DecidableEq

/-! ## 2. Loading -/

/-- The settings in a file, or the standard ones without a file. -/
def loadSettings (around : Surroundings) : Option Text → Except Settings.Error Settings
  | none => .ok .standard
  | some path =>
    match around.file path with
    | .bytes document => Settings.read document
    | .closed reason => .error (.unreadable reason)
    | .unreadable reason => .error (.interrupted reason)

/-- A template cannot be read from somewhere, for a reason. -/
def unreadableTemplate (origin : String) (reason : Text) : Failure :=
  .internal ("Failed to read ".toList ++ origin.toList ++ ": ".toList ++ reason)

/-- What is found somewhere as a text, or the failure of reading it from there. -/
def readTemplate (origin : String) : Content → Except Failure Text
  | .closed reason => .error (unreadableTemplate origin reason)
  | .unreadable reason => .error (unreadableTemplate origin reason)
  | .bytes b =>
    match Utf8.decode? b with
    | some t => .ok t
    | none => .error (unreadableTemplate origin "stream did not contain valid UTF-8".toList)

/-- The template: the argument, else the file, else the input. -/
def loadTemplate (around : Surroundings) (o : Options) : Except Failure Text :=
  match o.template, o.file with
  | some t, _ => .ok t
  | none, some path => readTemplate "template file" (around.file path)
  | none, none => readTemplate "stdin" around.input

/-! ## 3. Reporting -/

/-- A text with a line break at its end, which is written only when it is missing. -/
def withLineEnd (t : Text) : Text := if t.endsWith '\n' then t else t ++ ['\n']

/-- Texts on lines of their own. -/
def lines (ts : List Text) : Text := ts.flatMap (· ++ ['\n'])

/-- The last line about a failure. -/
def failureLine (failure : Failure) : Text := lines ["Error: ".toList ++ failure.message]

/-- Nothing but a failure. -/
def failed (failure : Failure) : Report := ⟨1, [], failureLine failure⟩

/-- An expansion: its text, then its diagnostics, then its failure. -/
def reportExpansion : Except ExpansionError Expanded → Report
  | .ok e => ⟨0, withLineEnd e.text, lines e.errors⟩
  | .error (.nonConvergent iterations e) =>
    ⟨1, withLineEnd e.text,
      lines e.errors ++ failureLine (.expansion (.nonConvergent iterations ⟨[], []⟩))⟩

/-- Expands as the options say, unless that is aborted. -/
def run (around : Surroundings) (o : Options) : Option Report :=
  match loadSettings around o.config with
  | .error cause => some (failed (.settings cause))
  | .ok settings =>
    let registry := Registry.standard settings (Http.fetch settings around.transport)
    if o.list then some ⟨0, lines registry.names, []⟩
    else match loadTemplate around o with
      | .error failure => some (failed failure)
      | .ok template =>
        (expand? registry settings.maxIterations o.args template).map reportExpansion

/-- What the program says about itself. -/
def helpText : Text :=
  ("Fixed-point expansion of \x7bopcode:operand|...\x7d template expressions\n\n" ++
    "Usage: kakko [OPTIONS] [TEMPLATE]\n\n" ++
    "Arguments:\n" ++
    "  [TEMPLATE]  Template text to expand. Read from stdin when neither this nor --file is given\n\n" ++
    "Options:\n" ++
    "  -f, --file <FILE>      Read the template from a file\n" ++
    "  -a, --arg <ARGS>       Positional argument made available to operations (repeatable)\n" ++
    "  -c, --config <CONFIG>  Path to config file\n" ++
    "  -l, --list             List registered opcodes and exit\n" ++
    "  -v, --verbose          Enable debug mode\n" ++
    "  -h, --help             Print help\n" ++
    "  -V, --version          Print version\n").toList

/-- The name and the version of the program. -/
def versionText : Text := "kakko 0.1.0\n".toList

/-- Does what a command says, unless that is aborted. -/
def execute (around : Surroundings) : Command → Option Report
  | .help => some ⟨0, helpText, []⟩
  | .version => some ⟨0, versionText, []⟩
  | .expand o => run around o

/-- The exit code of a program that is aborted.  It has written nothing on its output by then. -/
def abortCode : Nat := 101

end CommandLine
end TemplateExpansion
