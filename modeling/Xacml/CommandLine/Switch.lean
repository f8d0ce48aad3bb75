/-!
# Switches

Switches are the arguments of a command that start with a hyphen.

* `readLetters` and `readLong` look switches up by their letters and by their words,
* `readWord` reads one argument, which may hold several letters,
* `readWords` reads all arguments of a command,
* `Stop` is why reading ends early; `UsageError` says what is wrong with the arguments.
-/

namespace Xacml
namespace CommandLine

/-! ## Declarations -/

inductive Role
  | policies
  | request
  | config
  | verbose
  | timing
  | help
  | version
  deriving DecidableEq, Repr

/-- A switch with its word and, if it has one, its letter.  Some switches are followed by the name
of a file. -/
structure Switch where
  role : Role
  word : String
  letter : Option Char
  takesFile : Bool
  deriving DecidableEq, Repr

inductive UsageError
  | noCommand
  | unknown (argument : String)
  | missingFile (word : String)
  | needlessValue (word : String)
  | repeated (word : String)
  | required (word : String)
  deriving DecidableEq, Repr

def UsageError.message : UsageError → String
  | noCommand => "a command is needed"
  | unknown argument => s!"unexpected argument `{argument}`"
  | missingFile word => s!"a file is needed after `--{word}`"
  | needlessValue word => s!"`--{word}` takes no value"
  | repeated word => s!"`--{word}` cannot be used more than once"
  | required word => s!"`--{word}` is required"

inductive Stop
  | help
  | version
  | misuse (error : UsageError)
  deriving DecidableEq, Repr

/-- The switches that were read, with the files that followed them. -/
abbrev Given := List (Role × String)

namespace Given

def has (given : Given) (role : Role) : Bool :=
  given.any fun entry => entry.1 = role

def file? (given : Given) (role : Role) : Option String :=
  (given.find? fun entry => entry.1 = role).map Prod.snd

end Given

/-! ## One argument -/

/-- Notes a switch, which may not have been read before.  Asking for help or for the version ends
the reading. -/
def Switch.note (given : Given) (file : String) (s : Switch) : Except Stop Given :=
  if given.has s.role then .error (.misuse (.repeated s.word))
  else
    match s.role with
    | .help => .error .help
    | .version => .error .version
    | role => .ok (given ++ [(role, file)])

/-- What is known after an argument: the switches so far, and the switch whose file is to come. -/
structure Progress where
  given : Given
  open? : Option Switch
  deriving DecidableEq, Repr

/-- A file name that follows its letter at once, perhaps after an equals sign. -/
def attachedFile : List Char → String
  | '=' :: text => String.ofList text
  | text => String.ofList text

/-- Reads the letters of an argument.  A letter that takes a file takes the rest of the
argument. -/
def readLetters (switches : List Switch) (given : Given) : List Char → Except Stop Progress
  | [] => .ok ⟨given, none⟩
  | letter :: rest =>
      match switches.find? fun s => s.letter = some letter with
      | none => .error (.misuse (.unknown (String.ofList ['-', letter])))
      | some s =>
          if !s.takesFile then
            match s.note given "" with
            | .error stop => .error stop
            | .ok given => readLetters switches given rest
          else if rest.isEmpty then .ok ⟨given, some s⟩
          else (s.note given (attachedFile rest)).map fun given => ⟨given, none⟩

/-- Reads the word of a switch and the value after its equals sign, if there is one. -/
def readLong (switches : List Switch) (given : Given) (word : String) (value : Option String) :
    Except Stop Progress :=
  match switches.find? fun s => s.word = word with
  | none => .error (.misuse (.unknown ("--" ++ word)))
  | some s =>
      match s.takesFile, value with
      | true, none => .ok ⟨given, some s⟩
      | true, some file => (s.note given file).map fun given => ⟨given, none⟩
      | false, none => (s.note given "").map fun given => ⟨given, none⟩
      | false, some _ => .error (.misuse (.needlessValue s.word))

/-- The text before the first equals sign, and the text after it if there is one. -/
def cutEquals (text : List Char) : String × Option String :=
  let word := text.takeWhile (· ≠ '=')
  match text.dropWhile (· ≠ '=') with
  | _ :: value => (String.ofList word, some (String.ofList value))
  | [] => (String.ofList word, none)

/-- Reads an argument that is no file of a switch before it. -/
def readWord (switches : List Switch) (given : Given) (argument : String) : Except Stop Progress :=
  match argument.toList with
  | '-' :: '-' :: text =>
      let (word, value) := cutEquals text
      readLong switches given word value
  | '-' :: letter :: letters => readLetters switches given (letter :: letters)
  | _ => .error (.misuse (.unknown argument))

/-! ## All arguments -/

/-- Whether an argument can be a file name of its own: it does not look like a switch. -/
def canBeFile (argument : String) : Bool :=
  !argument.startsWith "-" || argument = "-"

/-- Reads the arguments after the given progress.  Two hyphens alone may end them. -/
def readWords (switches : List Switch) (progress : Progress) : List String → Except Stop Given
  | [] =>
      match progress.open? with
      | none => .ok progress.given
      | some s => .error (.misuse (.missingFile s.word))
  | argument :: rest =>
      match progress.open? with
      | some s =>
          if canBeFile argument then
            match s.note progress.given argument with
            | .error stop => .error stop
            | .ok given => readWords switches ⟨given, none⟩ rest
          else .error (.misuse (.missingFile s.word))
      | none =>
          if argument = "--" then
            match rest with
            | [] => .ok progress.given
            | extra :: _ => .error (.misuse (.unknown extra))
          else
            match readWord switches progress.given argument with
            | .error stop => .error stop
            | .ok progress => readWords switches progress rest

end CommandLine
end Xacml
