import SchemaCatalog.Cli.Run
/-!
# The program

Takes the arguments and the environment from the system, reads and writes files, prints, and sets
the exit code. All else is decided by `Cli`.
-/

namespace SchemaCatalog.Program

open Cli

/-- Why the system refused a file. -/
def fileFault : IO.Error → FileFault
  | .noFileOrDirectory .. => .missing
  | .permissionDenied .. => .denied
  | .inappropriateType .. => .isDirectory
  | e => .other (toString e)

/-- What an action on a file gives. -/
def attempt {α : Type} (act : IO α) : IO (Except FileFault α) := do
  match ← act.toBaseIO with
  | .ok a => pure (.ok a)
  | .error e => pure (.error (fileFault e))

/-- The bytes of a file. -/
def readBytes (path : String) : IO (List UInt8) := do
  pure (← IO.FS.readBinFile path).toList

/-- The machine as far as it is known without looking at files. -/
def host : IO Host := do
  let home := (← IO.getEnv "HOME").getD "/"
  let configHome? ← IO.getEnv "XDG_CONFIG_HOME"
  let workingDirectory := toString (← IO.currentDir)
  pure ⟨home, configHome?, workingDirectory, fun _ => none⟩

/-- The machine with what is known of the given files. -/
def looking (h : Host) (paths : List String) : IO Host := do
  let facts ← paths.mapM fun path => do
    match ← attempt (readBytes path) with
    | .ok _ => pure (path, none)
    | .error fault => pure (path, some fault)
  pure { h with readFault? := fun path => (facts.lookup path).join }

/-- Prints what a run has to say. -/
def report (o : Outcome) : IO UInt32 := do
  IO.print o.stdout
  IO.eprint o.stderr
  pure o.code

/-- Extracts the tables of the configured database. -/
def extract (a : ExtractArguments) : IO UInt32 := do
  let h ← host
  let content ← attempt (readBytes (a.settingsPath h))
  let paths := match SettingsFile.load "" content with
    | .ok settings => settings.connection.files h
    | .error _ => []
  match a.run (← looking h paths) .idle content with
  | .finish o => report o
  | .write path text => report (writeOutcome path (← attempt (IO.FS.writeFile path text)))

end SchemaCatalog.Program

open SchemaCatalog SchemaCatalog.Program in
/-- The program. -/
def main (arguments : List String) : IO UInt32 := do
  match Cli.Request.ofArguments (← IO.getEnv "SCHEMATA_PASSWORD") arguments with
  | .error f => report (.misused f)
  | .ok .version => report (.printed Cli.versionText)
  | .ok (.help topic) => report (.printed topic.text)
  | .ok (.run .drivers) => report Cli.driversOutcome
  | .ok (.run (.extract a)) => extract a
