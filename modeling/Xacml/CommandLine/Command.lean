import Xacml.CommandLine.Switch

/-!
# Commands

* `Command` is what the command line can ask for,
* `Command.ofArguments` reads it from the arguments of the program.
-/

namespace Xacml

/-- What the command line can ask for. -/
inductive Command
  | authorize (policies request : String) (config : Option String) (verbose timing : Bool)
  | check (policies config : Option String)
  | format (policies config : Option String)
  deriving DecidableEq, Repr

namespace CommandLine

/-! ## Names and switches -/

inductive Verb
  | authorize
  | check
  | format
  deriving DecidableEq, Repr

def Verb.ofName? : String → Option Verb
  | "authorize" => some authorize
  | "check-parse" => some check
  | "format" => some format
  | _ => none

def policiesSwitch : Switch := ⟨.policies, "policies", some 'p', true⟩

def requestSwitch : Switch := ⟨.request, "request", some 'r', true⟩

def configSwitch : Switch := ⟨.config, "config", none, true⟩

def helpSwitch : Switch := ⟨.help, "help", some 'h', false⟩

/-- The switches that may stand in place of a command. -/
def topSwitches : List Switch :=
  [helpSwitch, ⟨.version, "version", some 'V', false⟩]

def Verb.switches : Verb → List Switch
  | authorize =>
      [ policiesSwitch
      , requestSwitch
      , configSwitch
      , ⟨.verbose, "verbose", some 'v', false⟩
      , ⟨.timing, "timing", some 't', false⟩
      , helpSwitch ]
  | check | format => [policiesSwitch, configSwitch, helpSwitch]

/-! ## Reading a command -/

/-- The file of a switch that has to be there. -/
def requiredFile (given : Given) (s : Switch) : Except Stop String :=
  match given.file? s.role with
  | some file => .ok file
  | none => .error (.misuse (.required s.word))

/-- The command of a name and its switches.  The default is the configuration that is taken if no
other is given. -/
def Verb.command (default : Option String) (given : Given) : Verb → Except Stop Command
  | authorize =>
      match requiredFile given policiesSwitch, requiredFile given requestSwitch with
      | .ok policies, .ok request =>
          .ok (.authorize policies request ((given.file? .config).or default)
            (given.has .verbose) (given.has .timing))
      | .error stop, _ => .error stop
      | _, .error stop => .error stop
  | check => .ok (.check (given.file? .policies) ((given.file? .config).or default))
  | format => .ok (.format (given.file? .policies) ((given.file? .config).or default))

/-- What follows after the word `help`: nothing, or the name of what help is wanted on. -/
def readHelp : List String → Stop
  | [] => .help
  | [topic] =>
      if topic = "help" || (Verb.ofName? topic).isSome then .help else .misuse (.unknown topic)
  | _ :: extra :: _ => .misuse (.unknown extra)

/-- Reads arguments that do not start with a command. -/
def readTop (argument : String) (rest : List String) : Stop :=
  if argument = "help" then readHelp rest
  else
    match readWord topSwitches [] argument with
    | .error stop => stop
    | .ok _ => .misuse .noCommand

end CommandLine

/-- Reads the command in the arguments of the program.  The default is the configuration that is
taken if no other is given. -/
def Command.ofArguments (default : Option String) : List String → Except CommandLine.Stop Command
  | [] => .error (.misuse .noCommand)
  | argument :: rest =>
      match CommandLine.Verb.ofName? argument with
      | none => .error (CommandLine.readTop argument rest)
      | some verb =>
          match CommandLine.readWords verb.switches ⟨[], none⟩ rest with
          | .error stop => .error stop
          | .ok given => verb.command default given

end Xacml
