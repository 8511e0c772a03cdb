import SchemaCatalog.Cli.Arguments
/-!
# Commands

What the program can be asked to do: extract the tables of a database, list the engines, or print
help. `Request.ofArguments` reads the whole command line.
-/

namespace SchemaCatalog.Cli

/-- How messages about the run are written. -/
inductive LogFormat where
  | text
  | json
deriving DecidableEq, Repr

/-- How tables are written. -/
inductive OutputFormat where
  | json
  | summary
deriving DecidableEq, Repr

/-- What the extraction is told on the command line. -/
structure ExtractArguments where
  /-- The file of the settings. -/
  config? : Option String := none
  /-- The file to write to. -/
  output? : Option String := none
  format : OutputFormat := .json
  /-- The schemas wanted, in place of those in the settings. -/
  schemas : List String := []
  concurrencyColumn : Bool := false
  password? : Option String := none
deriving DecidableEq, Repr

/-- What is to be done. -/
inductive Command where
  | extract (arguments : ExtractArguments)
  | drivers
deriving DecidableEq, Repr

/-- What help is about. -/
inductive Topic where
  | program
  | extract
  | drivers
  | help
deriving DecidableEq, Repr

/-- What the command line asks for. -/
inductive Request where
  | run (c : Command)
  | help (topic : Topic)
  | version
deriving DecidableEq, Repr

/-- The format of messages by name. -/
def LogFormat.ofName? (name : String) : Option LogFormat :=
  if name = "text" then some .text else if name = "json" then some .json else none

/-- The format of tables by name. -/
def OutputFormat.ofName? (name : String) : Option OutputFormat :=
  if name = "json" then some .json else if name = "summary" then some .summary else none

/-- The path of a file, which is not empty. -/
def path? (text : String) : Option String :=
  if text.isEmpty then none else some text

/-- An option that every command has. -/
def logFormatSwitch {α : Type} : Switch α :=
  ⟨none, "log-format", .value fun a name => (LogFormat.ofName? name).map fun _ => a, false⟩

/-- The option that asks for help. -/
def helpSwitch {α : Type} : Switch α :=
  ⟨some 'h', "help", .stop .help, false⟩

/-- The options that stand before a command. -/
def programSwitches : List (Switch Unit) :=
  [logFormatSwitch, helpSwitch, ⟨some 'V', "version", .stop .version, false⟩]

/-- The options of the extraction. -/
def extractSwitches : List (Switch ExtractArguments) := [
  ⟨some 'c', "config", .value fun a v => (path? v).map fun p => { a with config? := some p }, false⟩,
  ⟨some 'o', "output", .value fun a v => (path? v).map fun p => { a with output? := some p }, false⟩,
  ⟨some 'f', "format",
    .value fun a v => (OutputFormat.ofName? v).map fun f => { a with format := f }, false⟩,
  ⟨none, "schema", .value fun a v => some { a with schemas := a.schemas ++ [v] }, true⟩,
  ⟨none, "concurrency-column", .flag fun a => { a with concurrencyColumn := true }, false⟩,
  ⟨none, "password", .value fun a v => some { a with password? := some v }, false⟩,
  logFormatSwitch, helpSwitch]

/-- The options of the listing. -/
def driversSwitches : List (Switch Unit) :=
  [logFormatSwitch, helpSwitch]

/-- Reads arguments that are all options. -/
def onlyOptions {α : Type} (switches : List (Switch α)) (start : α) (arguments : List String) :
    Except Stop α := do
  match ← readOptions switches { settings := start } arguments with
  | (r, []) => pure (← r.settle).settings
  | (_, argument :: _) => throw (.fault (.unknown argument))

/-- What a stop asks for, where help is about the given topic. -/
def Request.ofStop (topic : Topic) : Stop → Except UsageFault Request
  | .fault f => .error f
  | .help => .ok (.help topic)
  | .version => .ok .version

/-- The topic that the arguments after `help` name. -/
def helpRequest : List String → Except UsageFault Request
  | [] => .ok (.help .program)
  | ["extract"] => .ok (.help .extract)
  | ["drivers"] => .ok (.help .drivers)
  | ["help"] => .ok (.help .help)
  | "extract" :: argument :: _ | "drivers" :: argument :: _ | "help" :: argument :: _ =>
    .error (.unknown argument)
  | argument :: _ => .error (.unknown argument)

/-- The command of that name with its arguments. -/
def Command.ofArguments (passwordOfEnvironment? : Option String) (name : String)
    (arguments : List String) : Except UsageFault Request :=
  match name with
  | "extract" =>
    match onlyOptions extractSwitches {} arguments with
    | .ok a => .ok (.run (.extract { a with password? := a.password? <|> passwordOfEnvironment? }))
    | .error stop => Request.ofStop .extract stop
  | "drivers" =>
    match onlyOptions driversSwitches () arguments with
    | .ok () => .ok (.run .drivers)
    | .error stop => Request.ofStop .drivers stop
  | "help" => helpRequest arguments
  | _ => .error (.unknown name)

/-- What a command line asks for. The password may come from the environment; one that is given as
an option comes first. What is wrong with the last option before a command only counts if the command
is to be run. -/
def Request.ofArguments (passwordOfEnvironment? : Option String) (arguments : List String) :
    Except UsageFault Request :=
  match readOptions programSwitches { settings := () } arguments with
  | .error stop => Request.ofStop .program stop
  | .ok (_, []) => .error .missingCommand
  | .ok (r, name :: rest) => do
    let request ← Command.ofArguments passwordOfEnvironment? name rest
    match request, r.settle with
    | .run _, .error stop => Request.ofStop .program stop
    | _, _ => pure request

end SchemaCatalog.Cli
