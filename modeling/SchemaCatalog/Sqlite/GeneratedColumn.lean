import SchemaCatalog.Column
import SchemaCatalog.Error
import SchemaCatalog.Text.Slice
/-!
# Generated columns of SQLite

The engine says of each column whether it is generated. Some versions also leave a marker at the end
of the declared type. It is looked for by its length in bytes, before which the type is cut off.
-/

namespace SchemaCatalog.Sqlite

/-- What some versions leave at the end of the type of a generated column. -/
def generatedMarker : String := "GENERATED ALWAYS"

/-- The engine reports the column as generated. -/
def isGenerated (hidden : Int64) : Bool :=
  hidden = 2 || hidden = 3

/-- The characters before the marker, if the text ends with it in any case of its letters. -/
def beforeMarker? (cs : List Char) : Option (List Char) :=
  let n := cs.length - generatedMarker.length
  if Text.eqIgnoringCase (cs.drop n) generatedMarker.toList then some (cs.take n) else none

/-- Where the marker begins in a text that ends with it, in bytes. -/
def markerPlace (cs : List Char) : Nat :=
  Text.byteLength cs - Text.byteLength generatedMarker.toList

/-- Whether the text ends with the marker, in any case of its letters. A text that is long enough and
has a boundary there is cut to see; there is no answer if it cannot be cut. -/
def endsWithMarker? (cs : List Char) : Option Bool :=
  if Text.byteLength generatedMarker.toList ≤ Text.byteLength cs &&
      Text.isBoundary cs (markerPlace cs) then
    (Text.cut? cs (markerPlace cs)).map fun parts =>
      Text.eqIgnoringCase parts.2 generatedMarker.toList
  else some false

/-- The type of a column and whether it is generated, from the declared type and the engine's word
on it. The marker is no part of the type, and contradicts an engine that says otherwise. There is no
answer if the declared type would have to be cut where it cannot be. -/
def classify? (table : TableName) (column declared : String) (hidden : Int64) :
    Option (Except Error (String × Bool)) := do
  let cs := Text.trimBlanks declared.toList
  let marked ← endsWithMarker? cs
  if marked && !isGenerated hidden then
    some (.error (.inTable table (.strayMarker column hidden)))
  else
    let bare ← if marked then (Text.cut? cs (markerPlace cs)).map (·.1) else some cs
    some (.ok (typeName (String.ofList bare) none, isGenerated hidden))

theorem isSome_endsWithMarker? (cs : List Char) : (endsWithMarker? cs).isSome := by
  rw [endsWithMarker?]
  split
  · next h =>
    rw [Option.isSome_map, Text.isSome_cut?]
    exact (Bool.and_eq_true_iff.1 h).2
  · rfl

theorem isSome_cut?_of_endsWithMarker? {cs : List Char} (h : endsWithMarker? cs = some true) :
    (Text.cut? cs (markerPlace cs)).isSome := by
  rw [endsWithMarker?] at h
  split at h
  · obtain ⟨parts, hcut, -⟩ := Option.map_eq_some_iff.1 h
    rw [hcut]
    rfl
  · cases h

/-- No declared type is cut where it cannot be. -/
theorem isSome_classify? (table : TableName) (column declared : String) (hidden : Int64) :
    (classify? table column declared hidden).isSome := by
  obtain ⟨marked, hmarked⟩ :=
    Option.isSome_iff_exists.1 (isSome_endsWithMarker? (Text.trimBlanks declared.toList))
  rw [classify?, hmarked, Option.bind_eq_bind, Option.bind_some]
  cases marked with
  | false => rfl
  | true =>
    obtain ⟨parts, hcut⟩ := Option.isSome_iff_exists.1 (isSome_cut?_of_endsWithMarker? hmarked)
    split
    · rfl
    · rw [hcut]
      rfl

/-- The type of a column and whether it is generated. -/
def classifyColumn (table : TableName) (column declared : String) (hidden : Int64) :
    Except Error (String × Bool) :=
  (classify? table column declared hidden).get (isSome_classify? table column declared hidden)

end SchemaCatalog.Sqlite
