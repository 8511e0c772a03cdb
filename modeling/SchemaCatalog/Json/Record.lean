import SchemaCatalog.Json.Reader
/-!
# Reading records

A record is written as an object, or as an array of its members in their order. Members that the
record does not have are passed over. What is read gathers in a draft; the draft becomes the record
after the closing bracket, and only then is a missing member noticed.
-/

namespace SchemaCatalog.Json

/-- A member of a record of which `δ` is the draft. -/
structure Member (δ : Type) where
  name : String
  /-- The draft has the member already. -/
  isSet : δ → Bool
  /-- Reads the value into the draft. -/
  read : δ → Reader δ
  /-- The array form may end before the member. -/
  mayTrail : Bool

namespace Member

variable {α δ : Type}

/-- The member at a place of the draft, with the reader of its value. -/
def place (name : String) (get : δ → Option α) (set : δ → α → δ) (value : Reader α) : Member δ :=
  ⟨name, fun d => (get d).isSome, fun d => set d <$> value, false⟩

/-- The member may be left off at the end of the array form. -/
def trailing (m : Member δ) : Member δ :=
  { m with mayTrail := true }

end Member

namespace Reader

variable {α δ : Type}

/-- The value that a check lets through. -/
def check : Except ReadFault α → Reader α
  | .ok a => pure a
  | .error fault => fail fault

/-- One named member read into the draft. A repetition is noticed before its value is read. -/
def namedMember (members : List (Member δ)) (draft : δ) (name : String) : Reader δ :=
  match members.find? (·.name == name) with
  | none => do
    char ':'
    skip
    pure draft
  | some m =>
    if m.isSet draft then fail (.repeatedMember name)
    else do
      char ':'
      m.read draft

/-- The members of the array form after its first bracket. -/
def placedMembers (first : Bool) (draft : δ) : List (Member δ) → Reader δ
  | [] => do
    char ']'
    pure draft
  | m :: rest => do
    match ← peek with
    | some ']' =>
      if (m :: rest).all (·.mayTrail) then
        char ']'
        pure draft
      else fail .malformed
    | _ =>
      if !first then char ','
      placedMembers false (← m.read draft) rest

/-- A record of the given members in either form. -/
def record (members : List (Member δ)) (start : δ) (finish : δ → Except ReadFault α) :
    Reader α := do
  match ← peek with
  | some '[' =>
    char '['
    check (finish (← placedMembers true start members))
  | _ => check (finish (← object (namedMember members) start))

/-- A member that must have been read. -/
def required (name : String) : Option α → Except ReadFault α
  | some a => .ok a
  | none => .error (.missingMember name)

end Reader

end SchemaCatalog.Json
