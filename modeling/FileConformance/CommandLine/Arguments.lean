import FileConformance.CommandLine.Options

/-!
# Arguments of the command

Arguments are read from left to right.  An option is written with two dashes
and its whole name; its value follows as an argument of its own or, behind an
equals sign, in the same argument.  No option is given twice, and no argument
stands for itself.

The first argument that does not fit ends the reading, and so does a request
for the version or for help: what comes after it is not looked at.
-/

namespace FileConformance

namespace CommandLine

/-! ## Words -/

/-- What an argument looks like. -/
inductive Word where
  /-- Two dashes, a name, and perhaps a value behind an equals sign. -/
  | long (name : String) (attached : Option String)
  /-- One dash and at least one letter. -/
  | short (letter : Char)
  /-- Two dashes alone. -/
  | escape
  /-- Anything else; a single dash is one of these. -/
  | plain

namespace Word

/-- The name and the attached value of a long option. -/
def ofLong (characters : List Char) : Word :=
  let name := String.ofList (characters.takeWhile (· != '='))
  match characters.dropWhile (· != '=') with
  | [] => .long name none
  | _ :: attached => .long name (some (String.ofList attached))

/-- What an argument looks like. -/
def ofArgument (argument : String) : Word :=
  match argument.toList with
  | ['-', '-'] => .escape
  | '-' :: '-' :: rest => ofLong rest
  | '-' :: letter :: _ => .short letter
  | _ => .plain

end Word

/-! ## Values -/

/-- The options that take a value. -/
inductive OptionName where
  | backend
  | root
  | files
  | bufferLength
  | stem
  | nameLimit
  | seed
  | journal
  | format
deriving DecidableEq

/-- The option that has a name. -/
def OptionName.ofString? : String → Option OptionName
  | "backend" => some .backend
  | "root" => some .root
  | "files" => some .files
  | "buffer-len" => some .bufferLength
  | "prefix" => some .stem
  | "name-limit" => some .nameLimit
  | "seed" => some .seed
  | "journal" => some .journal
  | "format" => some .format
  | _ => none

/-- Why the arguments cannot be read. -/
inductive Misuse where
  /-- An argument that nothing asks for. -/
  | unexpected (argument : String)
  /-- An option that is given twice. -/
  | repeated (name : String)
  /-- An option without the value it needs. -/
  | missingValue (name : String)
  /-- An option with a value that it does not take. -/
  | badValue (name value : String)
deriving DecidableEq

/-- The wording of each misuse. -/
def Misuse.message : Misuse → String
  | .unexpected argument => "unexpected argument " ++ Text.quoted argument
  | .repeated name => "option --" ++ name ++ " is given more than once"
  | .missingValue name => "option --" ++ name ++ " needs a value"
  | .badValue name value =>
      "option --" ++ name ++ " does not take the value " ++ Text.quoted value

namespace Value

/-- The number that decimal digits denote, if there is a digit. -/
def digits? (characters : List Char) : Option Nat :=
  if characters.isEmpty || !characters.all Char.isDigit then none
  else
    some (characters.foldl
      (fun number digit => number * 10 + (digit.toNat - '0'.toNat)) 0)

/-- A 64-bit number, perhaps behind a plus sign. -/
def word? (value : String) : Option UInt64 :=
  let number :=
    match value.toList with
    | '+' :: rest => digits? rest
    | characters => digits? characters
  match number with
  | some number =>
      if number < UInt64.size then some number.toUInt64 else none
  | none => none

/-- A location, which cannot be empty. -/
def location? (value : String) : Option String :=
  if value.isEmpty then none else some value

/-- A backend by its name. -/
def backend? : String → Option Backend
  | "host" => some .host
  | "sim" => some .simulated
  | _ => none

/-- A format by its name. -/
def format? : String → Option Format
  | "json" => some .json
  | "human" => some .human
  | _ => none

end Value

/-- Give one option a value, if it takes that value. -/
def Options.set? (options : Options) (name : OptionName) (value : String) :
    Option Options :=
  match name with
  | .backend => do
      let backend ← Value.backend? value
      return { options with backend }
  | .root => do
      let location ← Value.location? value
      return { options with root := some location }
  | .files => do
      let number ← Value.word? value
      if files_pos : 0 < number.toNat then
        some { options with files := number.toNat, files_pos }
      else none
  | .bufferLength => do
      let number ← Value.word? value
      if bufferLength_pos : 0 < number.toNat then
        some { options with bufferLength := number.toNat, bufferLength_pos }
      else none
  | .stem => some { options with stem := value }
  | .nameLimit => do
      let number ← Value.word? value
      let nameLimit ← NameLimit.ofBytes? number.toNat
      return { options with nameLimit }
  | .seed => do
      let number ← Value.word? value
      return { options with seed := some number }
  | .journal => do
      let location ← Value.location? value
      return { options with journal := some location }
  | .format => do
      let format ← Value.format? value
      return { options with format }

/-- How the command is used. -/
def helpText : String :=
  "Usage: " ++ program ++ " [OPTIONS]\n\n" ++
    "  --backend host|sim     subsystem under test (host)\n" ++
    "  --root DIRECTORY       directory of the test files (host)\n" ++
    "  --files NUMBER         number of test files (14)\n" ++
    "  --buffer-len NUMBER    length of each file (256)\n" ++
    "  --prefix TEXT          start of the test files' names (file)\n" ++
    "  --name-limit NUMBER    limit on names to probe (256)\n" ++
    "  --seed NUMBER          start of the simulated draws\n" ++
    "  --journal FILE         write every check to a file\n" ++
    "  --format human|json    form of the report (human)\n" ++
    "  --strict               let failed checks decide the status\n" ++
    "  -h, --help             show this text\n" ++
    "  -V, --version          show the version\n"

/-! ## Reading -/

/-- What the arguments ask for. -/
inductive Invocation where
  | help
  | version
  | run (options : Options)

/-- Options, and which of them were given so far. -/
structure Draft where
  options : Options := .standard
  given : List OptionName := []

namespace Draft

/-- Take the value of an option. -/
def take (draft : Draft) (option : OptionName) (name value : String) :
    Except Misuse Draft :=
  if draft.given.contains option then .error (.repeated name)
  else
    match draft.options.set? option value with
    | some options => .ok ⟨options, option :: draft.given⟩
    | none => .error (.badValue name value)

/-- Read arguments one after the other. -/
def read (draft : Draft) : List String → Except Misuse Invocation
  | [] => .ok (.run draft.options)
  | argument :: rest =>
      match Word.ofArgument argument with
      | .plain => .error (.unexpected argument)
      | .escape =>
          match rest with
          | [] => .ok (.run draft.options)
          | next :: _ => .error (.unexpected next)
      | .short 'h' => .ok .help
      | .short 'V' => .ok .version
      | .short _ => .error (.unexpected argument)
      | .long "help" none => .ok .help
      | .long "version" none => .ok .version
      | .long "strict" none =>
          if draft.options.strict then .error (.repeated "strict")
          else
            read { draft with options := { draft.options with strict := true } }
              rest
      | .long name attached =>
          match OptionName.ofString? name, attached, rest with
          | none, _, _ => .error (.unexpected argument)
          | some option, some value, rest =>
              match draft.take option name value with
              | .ok next => next.read rest
              | .error misuse => .error misuse
          | some _, none, [] => .error (.missingValue name)
          | some option, none, value :: later =>
              match Word.ofArgument value with
              | .plain =>
                  match draft.take option name value with
                  | .ok next => next.read later
                  | .error misuse => .error misuse
              | _ => .error (.missingValue name)

end Draft

/-- Read the arguments of the command. -/
def Invocation.ofArguments (arguments : List String) :
    Except Misuse Invocation :=
  ({} : Draft).read arguments

end CommandLine

end FileConformance
