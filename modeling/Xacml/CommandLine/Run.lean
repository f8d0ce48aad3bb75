import Xacml.CommandLine.Command
import Xacml.CommandLine.ExitCode
import Xacml.DecisionPoint
import Xacml.Json.Writer
import Xacml.Load.Policy
import Xacml.Normal.Policy
import Xacml.Result.Json

/-!
# Running commands

* `Inputs` gives the texts of files, and `Outcome` is what a command writes,
* `Command.run` runs a command,
* `perform` runs what the arguments of the program ask for.
-/

namespace Xacml
namespace CommandLine

/-! ## What is read and written -/

structure Inputs where
  file : String → Option String
  standard : Option String

/-- What a command writes to the standard output, the lines that it writes to the standard error,
and its exit code. -/
structure Outcome where
  output : String
  notes : List String
  code : ExitCode
  deriving DecidableEq, Repr

inductive Content
  | policies
  | request
  | config
  deriving DecidableEq, Repr

def Content.name : Content → String
  | policies => "policy document"
  | request => "request"
  | config => "engine configuration"

inductive Problem
  | unreadable (content : Content) (file : Option String)
  | notJson (content : Content) (file : Option String)
  | refused (error : LoadError)
  deriving DecidableEq, Repr

def inputName (file : Option String) : String :=
  file.getD "<stdin>"

def Problem.message : Problem → String
  | unreadable content file =>
      let content := content.name
      let file := inputName file
      s!"failed to read {content} from {file}"
  | notJson content file =>
      let content := content.name
      let file := inputName file
      s!"{content} in {file} is not valid JSON"
  | refused error =>
      let reason := error.message
      s!"failed to convert policy document: {reason}"

/-! ## Reading the inputs -/

namespace Inputs

/-- The text of a file, or of the standard input if no file is named. -/
def text (inputs : Inputs) (content : Content) (file : Option String) : Except Problem String :=
  match file.elim inputs.standard inputs.file with
  | some text => .ok text
  | none => .error (.unreadable content file)

/-- What an input holds, read from its JSON text. -/
def read {α : Type} (inputs : Inputs) (content : Content) (file : Option String)
    (ofText? : String → Option α) : Except Problem α :=
  match inputs.text content file with
  | .error problem => .error problem
  | .ok text =>
      match ofText? text with
      | some value => .ok value
      | none => .error (.notJson content file)

/-- The configuration of a file; the default one if no file is named. -/
def config (inputs : Inputs) : Option String → Except Problem Config
  | some file => inputs.read .config (some file) fun text => (Json.read? text).bind Config.ofJson?
  | none => .ok .default

/-- The policies of a file or of the standard input. -/
def policies (inputs : Inputs) (config : Config) (file : Option String) :
    Except Problem PolicySnapshot :=
  match inputs.read .policies file Document.read? with
  | .error problem => .error problem
  | .ok document => (document.load .standard config).mapError .refused

/-- The configuration and the policies, which are read in this order. -/
def loaded (inputs : Inputs) (policies config : Option String) :
    Except Problem (Config × PolicySnapshot) :=
  match inputs.config config with
  | .error problem => .error problem
  | .ok config => (inputs.policies config policies).map fun snapshot => (config, snapshot)

end Inputs

/-! ## Authorizing a request -/

/-- The answer to a request in a JSON text.  Who wants notes is told the applicable policies. -/
def respond (clock : Clock) (stack : Stack) (config : Config) (snapshot : PolicySnapshot)
    (verbose : Bool) (text : String) : Response :=
  let point : DecisionPoint Id := ⟨.standard, config, snapshot.source, [], stack⟩
  match Document.Request.read? text with
  | some request =>
      point.evaluateWritten clock
        { request with returnPolicyIdList := request.returnPolicyIdList || verbose }
  | none => point.evaluateText clock text

/-- The notes on a result of a response, given its index. -/
def notesOn (index : Nat) (result : Result) : List String :=
  let decision := result.decision.text
  let policies :=
    if result.identifiers.isEmpty then [s!"note: no policies applied to result {index}"]
    else
      s!"note: result {index} ({decision}) is due to the following policies:" ::
        result.identifiers.map fun identifier =>
          let id := PolicyReference.shownId identifier.id
          let version := identifier.version.write
          s!"  {id} (version {version})"
  let message := (result.status.bind Status.message).toList.map ("note: " ++ ·)
  "" :: policies ++ message

def notes (response : Response) : List String :=
  (response.results.zipIdx.map fun (result, index) => notesOn index result).flatten

/-! ## Commands -/

/-- The outcome of a command that fails.  Checking reports the problem as its output. -/
def failed (problem : Problem) (asOutput : Bool) : Outcome :=
  let message := "error: " ++ problem.message
  if asOutput then ⟨message ++ "\n", [], .failure⟩ else ⟨"", [message], .failure⟩

/-- A JSON text as the output of a command, on lines of its own. -/
def shown (json : Json) : String := json.renderPretty ++ "\n"

def authorize (clock : Clock) (stack : Stack) (inputs : Inputs) (policies request : String)
    (config : Option String) (verbose : Bool) : Outcome :=
  match inputs.loaded (some policies) config, inputs.text .request (some request) with
  | .ok (config, snapshot), .ok text =>
      let response := respond clock stack config snapshot verbose text
      ⟨shown response.toJson, if verbose then notes response else [], response.exitCode⟩
  | .error problem, _ => failed problem false
  | _, .error problem => failed problem false

def check (inputs : Inputs) (policies config : Option String) : Outcome :=
  match inputs.loaded policies config with
  | .ok _ => ⟨"", [], .success⟩
  | .error problem => failed problem true

def format (inputs : Inputs) (policies config : Option String) : Outcome :=
  match inputs.loaded policies config with
  | .ok (_, snapshot) => ⟨shown snapshot.written.toJson, [], .success⟩
  | .error problem => failed problem false

def usage : String :=
  "Usage:\n" ++
  "  authorize -p FILE -r FILE [--config FILE] [-v] [-t]   answer a request\n" ++
  "  check-parse [-p FILE] [--config FILE]                 check that policies can be read\n" ++
  "  format [-p FILE] [--config FILE]                      write policies in their normal form\n" ++
  "\n" ++
  "Policies are read from the standard input if no file is given.\n"

end CommandLine

def Command.run (clock : Clock) (stack : Stack) (inputs : CommandLine.Inputs) :
    Command → CommandLine.Outcome
  | authorize policies request config verbose _ =>
      CommandLine.authorize clock stack inputs policies request config verbose
  | check policies config => CommandLine.check inputs policies config
  | format policies config => CommandLine.format inputs policies config

/-- What is written if there is no command to run. -/
def CommandLine.Stop.outcome : CommandLine.Stop → CommandLine.Outcome
  | help => ⟨CommandLine.usage, [], .success⟩
  | version => ⟨"xacml\n", [], .success⟩
  | misuse error => ⟨"", ["error: " ++ error.message], .misused⟩

/-- Runs what the arguments of the program ask for.  The default is the configuration that is taken
if no other is given. -/
def CommandLine.perform (clock : Clock) (stack : Stack) (inputs : CommandLine.Inputs)
    (default : Option String) (arguments : List String) : CommandLine.Outcome :=
  match Command.ofArguments default arguments with
  | .ok command => command.run clock stack inputs
  | .error stop => stop.outcome

end Xacml
