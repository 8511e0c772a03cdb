/-!
# Arguments of the command line

A command has options. An option is called by its long name after two hyphens or by its letter after
one; if it takes a value, that is attached to it or is the next argument. Two hyphens alone end the
options. Arguments are read in order, and the first that is wrong, or that asks for help, decides. But
a value that is an argument of its own is only looked at when the next option comes or all else has
been read.
-/

namespace SchemaCatalog.Cli

/-- What is wrong with the arguments. -/
inductive UsageFault where
  | unknown (argument : String)
  | repeated (option : String)
  | missingValue (option : String)
  | needlessValue (option : String)
  | invalidValue (option value : String)
  | missingCommand
deriving DecidableEq, Repr

/-- The fault in words. -/
def UsageFault.message : UsageFault → String
  | .unknown argument => s!"unexpected argument '{argument}' found"
  | .repeated option => s!"the argument '--{option}' cannot be used multiple times"
  | .missingValue option => s!"a value is required for '--{option}' but none was supplied"
  | .needlessValue option => s!"unexpected value for '--{option}' found; no more were expected"
  | .invalidValue option value => s!"invalid value '{value}' for '--{option}'"
  | .missingCommand => "a command is required"

/-- Why arguments are not read to their end. -/
inductive Stop where
  | fault (f : UsageFault)
  | help
  | version
deriving DecidableEq, Repr

/-- What an option does to the settings `α` of a command. -/
inductive Action (α : Type) where
  | flag (set : α → α)
  /-- Takes a value, unless that is refused. -/
  | value (set : α → String → Option α)
  /-- Ends the reading. -/
  | stop (s : Stop)

/-- An option. -/
structure Switch (α : Type) where
  letter? : Option Char
  long : String
  action : Action α
  /-- The option may be given again. -/
  repeatable : Bool

/-- Settings that are being read, with the options given so far. -/
structure Reading (α : Type) where
  settings : α
  given : List String := []
  /-- What is wrong with the value of the last option. It counts when another option follows or the
  command line has been read. -/
  late? : Option Stop := none

/-- The reading, if nothing is wrong with the last option. -/
def Reading.settle {α : Type} (r : Reading α) : Except Stop (Reading α) :=
  match r.late? with
  | some stop => .error stop
  | none => .ok r

namespace Switch

variable {α : Type}

/-- Notes that the option is given. -/
def enter (s : Switch α) (r : Reading α) : Except Stop (Reading α) :=
  if r.given.contains s.long && !s.repeatable then .error (.fault (.repeated s.long))
  else .ok { r with given := s.long :: r.given }

/-- Gives the option its value. -/
def take (s : Switch α) (set : α → String → Option α) (r : Reading α) (value : String) :
    Except Stop (Reading α) :=
  match set r.settings value with
  | none => .error (.fault (.invalidValue s.long value))
  | some settings => (s.enter r).map fun r => { r with settings }

/-- Gives the option the value that is the next argument, and leaves for later what is wrong. -/
def takeNext (s : Switch α) (set : α → String → Option α) (r : Reading α) (value : String) :
    Reading α :=
  match s.take set r value with
  | .ok r => r
  | .error stop => { r with late? := some stop }

end Switch

/-- An argument that is not an option: it does not begin with a hyphen, or is nothing else. -/
def isPlain (argument : List Char) : Bool :=
  argument.head? != some '-' || argument == ['-']

/-- The option and the attached value of an argument after two hyphens. -/
def longParts (body : List Char) : String × Option String :=
  let name := body.takeWhile (· != '=')
  let value := match body.drop name.length with
    | _ :: rest => some (String.ofList rest)
    | [] => none
  (String.ofList name, value)

/-- What an argument calls: an option, with an attached value if there is one. -/
def called? {α : Type} (switches : List (Switch α)) (argument : String) :
    Option (Switch α × Option String) :=
  match argument.toList with
  | '-' :: '-' :: body =>
    let (name, value) := longParts body
    (switches.find? (·.long == name)).map (·, value)
  | '-' :: letter :: rest =>
    (switches.find? (·.letter? == some letter)).map fun s =>
      (s, match rest with
        | [] => none
        | '=' :: value => some (String.ofList value)
        | value => some (String.ofList value))
  | _ => none

/-- Reads options up to the first argument that is none, and gives the arguments from there on. -/
def readOptions {α : Type} (switches : List (Switch α)) (r : Reading α) :
    List String → Except Stop (Reading α × List String)
  | [] => .ok (r, [])
  | argument :: rest =>
    if isPlain argument.toList then .ok (r, argument :: rest)
    else if argument = "--" then
      match rest with
      | [] => .ok (r, [])
      | extra :: _ => .error (.fault (.unknown extra))
    else match called? switches argument with
      | none => .error (.fault (.unknown argument))
      | some (s, attached) => do
        let r ← r.settle
        match s.action with
        | .stop reason =>
          if attached.isSome && argument.startsWith "--" then
            .error (.fault (.needlessValue s.long))
          else .error reason
        | .flag set =>
          if attached.isSome then .error (.fault (.needlessValue s.long))
          else
            let r ← s.enter r
            readOptions switches { r with settings := set r.settings } rest
        | .value set =>
          match attached with
          | some value => readOptions switches (← s.take set r value) rest
          | none =>
            match rest with
            | [] => .error (.fault (.missingValue s.long))
            | value :: rest =>
              if isPlain value.toList then readOptions switches (s.takeNext set r value) rest
              else .error (.fault (.missingValue s.long))

end SchemaCatalog.Cli
