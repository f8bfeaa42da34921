import VirtualTables.Text.Ascii

/-!
The arguments of the command line.

Options stand in front of the name of a task, the options of the task behind it. An option is
written `--name value`, `--name=value` or, if it has a letter, `-l value`, `-lvalue` or `-l=value`;
letters without values may share a hyphen. An option may be given once, and behind `--` there are
no options.
-/

namespace VirtualTables.Command

structure Switch where
  name : String
  letter : Option Char
  takesValue : Bool
deriving DecidableEq

/-- What ends the reading of arguments early. -/
inductive Interruption where
  | version
  | help
  | unexpected (argument : String)
  | repeated (name : String)
  | missingValue (name : String)
  | superfluousValue (name : String)
  | notANumber (name value : String)
  | missing (what : String)
deriving DecidableEq

/-- The options and other arguments that may stand in one place. -/
structure Level where
  switches : List Switch
  /-- How many arguments that are no options may be given. -/
  mostWords : Nat
  /-- The names that end the place. -/
  tasks : List String

structure Reading where
  /-- The options with their values, which are empty for options that take none. -/
  values : List (String × String)
  words : List String
  /-- The option whose value must follow. -/
  pending : Option Switch
  /-- Whether there are no more options. -/
  onlyWords : Bool

namespace Reading

def start : Reading :=
  ⟨[], [], none, false⟩

def value? (reading : Reading) (name : String) : Option String :=
  (reading.values.find? fun entry => entry.1 == name).map (·.2)

/-- Add an option. Those that ask for the version or for help end the reading. -/
def add (reading : Reading) (switch : Switch) (value : String) : Except Interruption Reading :=
  if switch.name = "version" then .error .version
  else if switch.name = "help" then .error .help
  else if (reading.value? switch.name).isSome then .error (.repeated switch.name)
  else .ok { reading with values := (switch.name, value) :: reading.values, pending := none }

end Reading

namespace Level

def letters (level : Level) (argument : String) :
    List Char → Reading → Except Interruption Reading
  | [], reading => .ok reading
  | letter :: rest, reading =>
      match level.switches.find? fun switch => switch.letter == some letter with
      | none => .error (.unexpected argument)
      | some switch =>
          if switch.takesValue then
            match rest with
            | [] => .ok { reading with pending := some switch }
            | '=' :: value => reading.add switch (String.ofList value)
            | value => reading.add switch (String.ofList value)
          else do letters level argument rest (← reading.add switch "")

def named (level : Level) (argument : String) (text : List Char) (reading : Reading) :
    Except Interruption Reading :=
  let name := String.ofList (text.takeWhile (· != '='))
  let value? :=
    match text.dropWhile (· != '=') with
    | [] => none
    | _ :: value => some (String.ofList value)
  match level.switches.find? fun switch => switch.name == name with
  | none => .error (.unexpected argument)
  | some switch =>
      match switch.takesValue, value? with
      | true, some value => reading.add switch value
      | true, none => .ok { reading with pending := some switch }
      | false, none => reading.add switch ""
      | false, some _ => .error (.superfluousValue name)

def word (level : Level) (argument : String) (reading : Reading) : Except Interruption Reading :=
  if reading.words.length < level.mostWords then
    .ok { reading with words := reading.words ++ [argument] }
  else .error (.unexpected argument)

def step (level : Level) (argument : String) (reading : Reading) : Except Interruption Reading :=
  if reading.onlyWords then level.word argument reading
  else
    match reading.pending, argument.toList with
    | some switch, '-' :: _ :: _ => .error (.missingValue switch.name)
    | some switch, _ => reading.add switch argument
    | none, ['-', '-'] => .ok { reading with onlyWords := true }
    | none, '-' :: '-' :: text => level.named argument text reading
    | none, '-' :: letter :: rest => level.letters argument (letter :: rest) reading
    | none, _ => level.word argument reading

/-- Read arguments up to the name of a task, which is handed back with what follows it. -/
def read (level : Level) : List String → Reading → Except Interruption (Reading × List String)
  | [], reading =>
      match reading.pending with
      | none => .ok (reading, [])
      | some switch => .error (.missingValue switch.name)
  | argument :: rest, reading =>
      if !reading.onlyWords && reading.pending.isNone && level.tasks.contains argument then
        .ok (reading, argument :: rest)
      else do level.read rest (← level.step argument reading)

end Level

inductive Task where
  | status
  | services
  | tables (schema table : Option String)
  | columns (schema table column : Option String)
  | query (sql : String) (maxRows : Nat) (asJson : Bool)
deriving DecidableEq

structure Invocation where
  address : String
  user : Option String
  password : Option String
  settingsFile : Option String
  task : Task
deriving DecidableEq

def helpSwitch : Switch := ⟨"help", some 'h', false⟩

def frontLevel : Level where
  switches := [⟨"url", none, true⟩, ⟨"user", some 'u', true⟩, ⟨"password", some 'p', true⟩,
    ⟨"config", none, true⟩, ⟨"version", some 'V', false⟩, helpSwitch]
  mostWords := 0
  tasks := ["status", "services", "tables", "columns", "query", "help"]

def taskLevel (names : List String) : Level where
  switches := helpSwitch :: names.map (⟨·, none, true⟩)
  mostWords := 0
  tasks := []

def queryLevel : Level where
  switches := [helpSwitch, ⟨"max-rows", none, true⟩, ⟨"json", none, false⟩]
  mostWords := 1
  tasks := []

/-- The number that an option gives, zero if it is not given. -/
def numberOf (reading : Reading) (name : String) : Except Interruption Nat :=
  match reading.value? name with
  | none => .ok 0
  | some text =>
      match text.toList with
      | '-' :: _ => .error (.notANumber name text)
      | digits =>
          match Text.intOfText? 0 (UInt64.size - 1) digits with
          | none => .error (.notANumber name text)
          | some number => .ok number.toNat

def taskOf (name : String) (arguments : List String) : Except Interruption Task := do
  match name with
  | "status" =>
      let _ ← (taskLevel []).read arguments .start
      return .status
  | "services" =>
      let _ ← (taskLevel []).read arguments .start
      return .services
  | "tables" =>
      let (reading, _) ← (taskLevel ["schema", "table"]).read arguments .start
      return .tables (reading.value? "schema") (reading.value? "table")
  | "columns" =>
      let (reading, _) ← (taskLevel ["schema", "table", "column"]).read arguments .start
      return .columns (reading.value? "schema") (reading.value? "table") (reading.value? "column")
  | "query" =>
      let (reading, _) ← queryLevel.read arguments .start
      let maxRows ← numberOf reading "max-rows"
      match reading.words with
      | [] => throw (.missing "<SQL>")
      | sql :: _ => return .query sql maxRows (reading.value? "json").isSome
  | _ => throw .help

def Invocation.ofArguments (arguments : List String) : Except Interruption Invocation := do
  let (reading, rest) ← frontLevel.read arguments .start
  match rest with
  | [] => throw (.missing "<COMMAND>")
  | name :: rest =>
      let task ← taskOf name rest
      match reading.value? "url" with
      | none => throw (.missing "--url <URL>")
      | some address =>
          return {
            address
            user := reading.value? "user"
            password := reading.value? "password"
            settingsFile := reading.value? "config"
            task }

end VirtualTables.Command
