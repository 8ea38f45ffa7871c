/-
# Options of the command line

Arguments are read from left to right.  A switch is a letter after a dash, alone or in a row with
others, or a word after two dashes; an option takes a value from the rest of its argument or from the
next one.  Everything else is the template, of which there is at most one, and after two dashes alone
everything is.  Asking for help or for the version ends the reading at once.
-/
import TemplateExpansion.Text

namespace TemplateExpansion
namespace CommandLine

/-! ## 1. What can be asked for -/

/-- What the arguments ask for. -/
structure Options where
  template : Option Text
  file : Option Text
  args : List Text
  config : Option Text
  list : Bool
  verbose : Bool
  deriving Repr, DecidableEq

/-- Nothing is asked for. -/
def Options.none : Options := ⟨.none, .none, [], .none, false, false⟩

/-- An option that takes a value. -/
inductive Valued where
  | file
  | arg
  | config
  deriving Repr, DecidableEq

/-- A switch without a value. -/
inductive Switch where
  | list
  | verbose
  | help
  | version
  deriving Repr, DecidableEq

/-- What a letter or a word stands for. -/
inductive Key where
  | valued (option : Valued)
  | switch (s : Switch)
  deriving Repr, DecidableEq

namespace Key

/-- All keys, each with its letter and its word. -/
def table : List (Char × Text × Key) :=
  [('f', "file".toList, .valued .file), ('a', "arg".toList, .valued .arg),
    ('c', "config".toList, .valued .config), ('l', "list".toList, .switch .list),
    ('v', "verbose".toList, .switch .verbose), ('h', "help".toList, .switch .help),
    ('V', "version".toList, .switch .version)]

/-- The key of a letter. -/
def ofLetter? (c : Char) : Option Key := (table.find? (·.1 == c)).map (·.2.2)

/-- The key of a word. -/
def ofWord? (w : Text) : Option Key := (table.find? (·.2.1 == w)).map (·.2.2)

end Key

/-- Why arguments cannot be understood. -/
inductive UsageError where
  | unknownOption (argument : Text)
  | unexpectedValue (argument : Text)
  | missingValue (option : Valued)
  | emptyPath (option : Valued)
  | repeatedOption
  | unexpectedArgument (argument : Text)
  | conflictingTemplates
  deriving Repr, DecidableEq

/-- What the program is to do. -/
inductive Command where
  | help
  | version
  | expand (options : Options)
  deriving Repr, DecidableEq

/-! ## 2. Single options -/

namespace Options

/-- Takes the template. -/
def putTemplate (o : Options) (t : Text) : Except UsageError Options :=
  if o.template.isSome then .error (.unexpectedArgument t) else .ok { o with template := some t }

/-- Takes the value of an option; a path may not be empty, and only arguments may be repeated. -/
def putValue (o : Options) (option : Valued) (value : Text) : Except UsageError Options :=
  match option with
  | .arg => .ok { o with args := o.args ++ [value] }
  | .file =>
    if value.isEmpty then .error (.emptyPath .file)
    else if o.file.isSome then .error .repeatedOption
    else .ok { o with file := some value }
  | .config =>
    if value.isEmpty then .error (.emptyPath .config)
    else if o.config.isSome then .error .repeatedOption
    else .ok { o with config := some value }

end Options

/-- How reading goes on after an argument or a part of one. -/
inductive Reading where
  | next (options : Options)
  | awaits (options : Options) (option : Valued)
  | finished (command : Command)
  deriving Repr, DecidableEq

/-- Takes a switch. -/
def putSwitch (o : Options) : Switch → Except UsageError Reading
  | .help => .ok (.finished .help)
  | .version => .ok (.finished .version)
  | .list => if o.list then .error .repeatedOption else .ok (.next { o with list := true })
  | .verbose => if o.verbose then .error .repeatedOption else .ok (.next { o with verbose := true })

/-- Reads a row of letters; the rest of the row after an option is its value, without an equals sign
in front. -/
def readLetters (argument : Text) (o : Options) : Text → Except UsageError Reading
  | [] => .ok (.next o)
  | c :: rest =>
    match Key.ofLetter? c with
    | none => .error (.unknownOption argument)
    | some (.valued option) =>
      match rest with
      | [] => .ok (.awaits o option)
      | '=' :: value => (o.putValue option value).map .next
      | value => (o.putValue option value).map .next
    | some (.switch s) =>
      match putSwitch o s with
      | .ok (.next o) => readLetters argument o rest
      | outcome => outcome

/-- Reads a word, which may have a value after an equals sign. -/
def readWord (argument : Text) (o : Options) (word : Text) (value : Option Text) :
    Except UsageError Reading :=
  match Key.ofWord? word with
  | none => .error (.unknownOption argument)
  | some (.valued option) =>
    match value with
    | none => .ok (.awaits o option)
    | some value => (o.putValue option value).map .next
  | some (.switch s) => if value.isSome then .error (.unexpectedValue argument) else putSwitch o s

/-- The argument asks for an option or a switch. -/
def isOption (argument : Text) : Bool := argument.head? == some '-' && argument.tail != []

/-- Reads one argument other than two dashes alone. -/
def readArgument (o : Options) (argument : Text) : Except UsageError Reading :=
  match argument with
  | '-' :: '-' :: word =>
    match Text.splitFirst '=' word with
    | none => readWord argument o word none
    | some (word, value) => readWord argument o word (some value)
  | '-' :: c :: letters => readLetters argument o (c :: letters)
  | t => (o.putTemplate t).map .next

/-! ## 3. All arguments -/

/-- What a complete row of arguments asks for: the template comes from one place only. -/
def complete (o : Options) : Except UsageError Command :=
  if o.template.isSome && o.file.isSome then .error .conflictingTemplates else .ok (.expand o)

/-- Reads what follows two dashes alone. -/
def readTemplates (o : Options) : List Text → Except UsageError Command
  | [] => complete o
  | t :: rest =>
    match o.putTemplate t with
    | .error cause => .error cause
    | .ok o => readTemplates o rest

/-- Reads arguments from left to right. -/
def readArguments (o : Options) : List Text → Except UsageError Command
  | [] => complete o
  | argument :: rest =>
    if argument = ['-', '-'] then readTemplates o rest
    else match readArgument o argument with
      | .error cause => .error cause
      | .ok (.finished command) => .ok command
      | .ok (.next o) => readArguments o rest
      | .ok (.awaits o option) =>
        match rest with
        | [] => .error (.missingValue option)
        | value :: rest =>
          if isOption value then .error (.missingValue option)
          else match o.putValue option value with
            | .error cause => .error cause
            | .ok o => readArguments o rest

/-- What the arguments of the program ask for. -/
def read (arguments : List Text) : Except UsageError Command := readArguments .none arguments

end CommandLine
end TemplateExpansion
