import VirtualTables.Command.Report
import VirtualTables.Settings.Reader

/-!
Running a command line, from its arguments to what is printed.

The arguments are read first, then the settings, the log is opened, and at last the task is done
in a session. Settings that cannot be read end the run if their file has been named; otherwise the
defaults take their place. A log that cannot be opened is only reported.

Nothing is ever logged here. So the level and the format of the log play no part, nor does the
variable `RUST_LOG`, which would take the place of the level.
-/

namespace VirtualTables.Command

variable {σ : Type}

/-- Why a file cannot be opened: the number of the cause and what it means. -/
structure FileFault where
  code : Nat
  reason : String
deriving DecidableEq

def FileFault.message (fault : FileFault) : String :=
  fault.reason ++ " (os error " ++ toString fault.code ++ ")"

structure Surroundings where
  file : String → Option String
  environment : List (String × String)
  /-- Why nothing can be added to the file with a name, unless it is possible. -/
  logFault : String → Option FileFault

def Surroundings.valueOf? (surroundings : Surroundings) (name : String) : Option String :=
  (surroundings.environment.find? fun entry => entry.1 == name).map (·.2)

structure Outcome where
  exitCode : Nat
  output : List String
  complaints : List String
deriving DecidableEq

def programName : String := "dataservice-client"

def usage : String := "Usage: " ++ programName ++ " [OPTIONS] --url <URL> <COMMAND>"

def Interruption.message : Interruption → String
  | .version => programName ++ " " ++ Settings.version
  | .help => usage
  | .unexpected argument => "error: unexpected argument '" ++ argument ++ "' found"
  | .repeated name => "error: the argument '--" ++ name ++ "' cannot be used multiple times"
  | .missingValue name => "error: a value is required for '--" ++ name ++ "'"
  | .superfluousValue name => "error: no value is allowed for '--" ++ name ++ "'"
  | .notANumber name value => "error: invalid value '" ++ value ++ "' for '--" ++ name ++ "'"
  | .missing what => "error: the following required argument was not provided: " ++ what

def Interruption.outcome (interruption : Interruption) : Outcome :=
  match interruption with
  | .version => ⟨0, [interruption.message], []⟩
  | .help => ⟨0, [interruption.message], []⟩
  | _ => ⟨2, [], [interruption.message, usage]⟩

def failed (complaints : List String) (message : String) : Outcome :=
  ⟨1, [], complaints ++ ["Error: " ++ message]⟩

def settingsOf (surroundings : Surroundings) (named : Option String) :
    Except String (Settings × List String) :=
  match Settings.read surroundings.file named surroundings.environment, named with
  | .ok settings, _ => .ok (settings, [])
  | .error _, some path => .error ("Failed to load configuration from " ++ path)
  | .error _, none => .ok (.default, ["Using default configuration"])

def settingsFiles (arguments : List String) : List String :=
  match Invocation.ofArguments arguments with
  | .error _ => []
  | .ok invocation => (invocation.settingsFile.map ([·])).getD Settings.defaultFiles

/-- The file that a run logs to, if it gets as far as that. -/
def logFile? (surroundings : Surroundings) (arguments : List String) : Option String :=
  match Invocation.ofArguments arguments with
  | .error _ => none
  | .ok invocation =>
      match settingsOf surroundings invocation.settingsFile with
      | .error _ => none
      | .ok (settings, _) => settings.logging.file

def logComplaints (surroundings : Surroundings) (logging : Settings.Logging) : List String :=
  match logging.file with
  | none => []
  | some path =>
      match surroundings.logFault path with
      | none => []
      | some fault => ["ERROR: Unable to open log file '" ++ path ++ "': " ++ fault.message]

/-- The credentials of a run; without a user there are none, and a password that is not given stands
in the environment or is empty. -/
def credentialsOf (surroundings : Surroundings) (invocation : Invocation) : Credentials :=
  match invocation.user with
  | none => ⟨none, none⟩
  | some user =>
      let password := invocation.password <|> surroundings.valueOf? "DATASERVICE_PASSWORD"
      ⟨some user, some (password.getD "")⟩

def Invocation.perform [HasRegistry σ] (invocation : Invocation) (surroundings : Surroundings)
    (settings : Settings) (network : Client → Exchange σ) : Attempt σ Report := do
  let session ← Session.connect invocation.address (credentialsOf surroundings invocation)
    settings.connection network
  invocation.task.report session

def run [HasRegistry σ] (surroundings : Surroundings) (network : Client → Exchange σ)
    (arguments : List String) : StateM σ Outcome := do
  match Invocation.ofArguments arguments with
  | .error interruption => return interruption.outcome
  | .ok invocation =>
      match settingsOf surroundings invocation.settingsFile with
      | .error message => return failed [] message
      | .ok (settings, remarks) =>
          let complaints := remarks ++ logComplaints surroundings settings.logging
          if !Address.accepts invocation.address then
            return failed complaints ("Not a data-service address: " ++ invocation.address)
          else
            match ← (invocation.perform surroundings settings network).run with
            | .error fault => return failed complaints fault.message
            | .ok report =>
                match report.ending with
                | .error fault =>
                    return { failed complaints fault.message with output := report.lines }
                | .ok remark => return ⟨0, report.lines, complaints ++ remark.toList⟩

end VirtualTables.Command
