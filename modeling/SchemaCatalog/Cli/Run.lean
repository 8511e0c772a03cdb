import SchemaCatalog.Cli.Help
import SchemaCatalog.Console.Grid
import SchemaCatalog.Json.Model
import SchemaCatalog.Registry
import SchemaCatalog.SettingsFile
/-!
# Runs of the program

A run reads the file of the settings, extracts the tables, and prints or writes them. Reading and
writing files is left to the caller: a run says which file it wants to read, goes on with what was
found there, and says what is to be written where. What it prints for people are grids with a row
for each table or each engine.
-/

namespace SchemaCatalog.Report

open Console (Grid)

/-- The cells about one table: its name, the number of its columns, its key, how many columns the
engine fills in and computes, and the tables that it refers to. -/
def summaryRow (t : Table) : List String := [
  t.name.schema,
  t.name.name,
  toString t.columns.length,
  ", ".intercalate (t.primaryKey.map (·.name)),
  toString (t.columns.countP (·.isIdentity)),
  toString (t.columns.countP (·.isComputed)),
  ", ".intercalate (t.sortedForeignKeys.map (·.parent.text))]

/-- One row for each table. -/
def summary (ts : List Table) : Grid where
  heading := ["Schema", "Table", "Columns", "Primary key", "Identity", "Computed", "References"]
  rows := ts.map summaryRow

/-- One row for each engine. -/
def engines (es : List Engine) : Grid where
  heading := ["Id", "Engine", "Default port"]
  rows := es.map fun e =>
    [e.id, e.displayName, (e.defaultPort?.map toString).getD "-"]

end SchemaCatalog.Report

namespace SchemaCatalog.Cli

/-- What the program has to say at its end. -/
structure Outcome where
  code : UInt32
  stdout : String
  stderr : String
deriving DecidableEq, Repr

namespace Outcome

/-- The run went well and printed a text. -/
def printed (text : String) : Outcome := ⟨0, text ++ "\n", ""⟩

/-- The run went well and had nothing to print. -/
def silent : Outcome := ⟨0, "", ""⟩

/-- The command line was wrong. -/
def misused (f : UsageFault) : Outcome :=
  ⟨2, "", s!"error: {f.message}\n\nFor more information, try '--help'.\n"⟩

/-- A text of which the lines after the first are set in. -/
def indented (text : String) : String :=
  "\n    ".intercalate ((text.toList.splitOn '\n').map String.ofList)

/-- The run failed at what `context` says, for a reason. -/
def failed (context reason : String) : Outcome :=
  ⟨1, "", s!"Error: {context}\n\nCaused by:\n    {indented reason}\n"⟩

end Outcome

/-- What a run does after the settings were read. -/
inductive Step where
  | finish (o : Outcome)
  /-- Writes a file, and then finishes. -/
  | write (path content : String)

/-- The settings with what the command line says instead. -/
def ExtractArguments.apply (a : ExtractArguments) (s : Settings) : Settings where
  connection := { s.connection with password? := a.password? <|> s.connection.password? }
  extract := {
    schemas := if a.schemas.isEmpty then s.extract.schemas else a.schemas
    concurrencyColumn := a.concurrencyColumn || s.extract.concurrencyColumn }

/-- The file of the settings. -/
def ExtractArguments.settingsPath (a : ExtractArguments) (h : Host) : String :=
  a.config?.getD h.defaultSettingsPath

/-- Tables in the wanted form. -/
def OutputFormat.render (f : OutputFormat) (ts : List Table) : String :=
  match f with
  | .json => (Table.listToJson ts).pretty
  | .summary => (Report.summary ts).text

/-- An extraction, where `content` is what reading the file of the settings gave. -/
def ExtractArguments.run (a : ExtractArguments) (h : Host) (token : Token)
    (content : Except FileFault (List UInt8)) : Step :=
  let path := a.settingsPath h
  match SettingsFile.load path content with
  | .error e => .finish (.failed s!"failed to load {path}" e.message)
  | .ok settings =>
    let settings := a.apply settings
    match Registry.full.extract h token settings.connection settings.extract with
    | .error e =>
      .finish (.failed s!"extraction with driver '{settings.connection.driver}' failed" e.message)
    | .ok tables =>
      let text := a.format.render tables
      match a.output? with
      | some file => .write file (text ++ "\n")
      | none => .finish (.printed text)

/-- The end of a run that wrote a file, or failed to for a reason. -/
def writeOutcome (path : String) : Except FileFault Unit → Outcome
  | .ok () => .silent
  | .error fault => .failed s!"failed to write {path}" fault.message

/-- The listing of the engines. -/
def driversOutcome : Outcome :=
  .printed (Report.engines Registry.full.engines).text

end SchemaCatalog.Cli
