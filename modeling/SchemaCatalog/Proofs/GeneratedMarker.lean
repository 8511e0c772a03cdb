import Mathlib
import SchemaCatalog.Sqlite.GeneratedColumn
/-!
# The marker of generated columns in characters

The marker is looked for in bytes. A text ends with it in bytes exactly if it does in characters,
because what equals the marker but for the case of its letters has one byte for each character. So a
column is classified by the characters before the marker (`Sqlite.classifyColumn_eq`).
-/

namespace SchemaCatalog

namespace Text

/-- Lower case takes nothing outside ASCII into it. -/
theorem toNat_lt_of_toLower {c : Char} (h : c.toLower.toNat < 0x80) : c.toNat < 0x80 := by
  rcases toLower_eq_or c with hsame | ⟨-, hlast, -⟩
  · rwa [hsame] at h
  · omega

theorem byteLength_of_ascii {cs : List Char} (h : ∀ c ∈ cs, c.toNat < 0x80) :
    byteLength cs = cs.length := by
  induction cs with
  | nil => rfl
  | cons c cs ih =>
    obtain ⟨hc, hcs⟩ := List.forall_mem_cons.1 h
    rw [byteLength_cons, ih hcs, Utf8.encodeChar, if_pos hc, List.length_singleton, List.length_cons,
      Nat.add_comm]

/-- What equals ASCII text but for the case of its letters has its length in bytes, too. -/
theorem byteLength_of_eqIgnoringCase {cs ds : List Char} (h : eqIgnoringCase cs ds)
    (hds : ds.all (·.toLower.toNat < 0x80)) : byteLength cs = cs.length := by
  refine byteLength_of_ascii fun c hc => toNat_lt_of_toLower ?_
  have hlower : c.toLower ∈ ds.map Char.toLower := eq_of_beq h ▸ List.mem_map_of_mem hc
  obtain ⟨d, hd, hsame⟩ := List.mem_map.1 hlower
  exact hsame ▸ of_decide_eq_true (List.all_eq_true.1 hds d hd)

end Text

namespace Sqlite

variable {cs bare mark : List Char}

theorem beforeMarker?_eq_some_iff : beforeMarker? cs = some bare ↔
    ∃ mark, cs = bare ++ mark ∧ Text.eqIgnoringCase mark generatedMarker.toList := by
  simp only [beforeMarker?]
  constructor
  · intro h
    split at h
    · next hmark =>
      cases h
      exact ⟨_, (List.take_append_drop _ _).symm, hmark⟩
    · cases h
  · rintro ⟨mark, rfl, hmark⟩
    have hplace : (bare ++ mark).length - generatedMarker.length = bare.length := by
      have hlength : mark.length = generatedMarker.length := Text.length_of_eqIgnoringCase hmark
      rw [List.length_append, hlength, Nat.add_sub_cancel]
    rw [hplace, List.drop_left, List.take_left, if_pos hmark]

theorem byteLength_generatedMarker :
    Text.byteLength generatedMarker.toList = generatedMarker.length := by
  decide

/-- Where the text ends with the marker, it is cut before it. -/
theorem cut?_append_marker (bare : List Char)
    (h : Text.eqIgnoringCase mark generatedMarker.toList) :
    Text.byteLength generatedMarker.toList ≤ Text.byteLength (bare ++ mark) ∧
      Text.cut? (bare ++ mark) (markerPlace (bare ++ mark)) = some (bare, mark) := by
  have hmark : Text.byteLength mark = Text.byteLength generatedMarker.toList := by
    rw [Text.byteLength_of_eqIgnoringCase h (by decide), Text.length_of_eqIgnoringCase h,
      byteLength_generatedMarker]
    rfl
  have hplace : markerPlace (bare ++ mark) = Text.byteLength bare := by
    rw [markerPlace, Text.byteLength_append, hmark, Nat.add_sub_cancel]
  refine ⟨?_, by rw [hplace, Text.cut?_append]⟩
  rw [Text.byteLength_append, hmark]
  exact Nat.le_add_left _ _

theorem endsWithMarker?_eq (cs : List Char) :
    endsWithMarker? cs = some (beforeMarker? cs).isSome := by
  rw [endsWithMarker?]
  cases hbefore : beforeMarker? cs with
  | some bare =>
    obtain ⟨mark, rfl, hmark⟩ := beforeMarker?_eq_some_iff.1 hbefore
    obtain ⟨hlong, hcut⟩ := cut?_append_marker bare hmark
    have hboundary : Text.isBoundary (bare ++ mark) (markerPlace (bare ++ mark)) := by
      rw [← Text.isSome_cut?, hcut]
      rfl
    rw [if_pos (by simp [hlong, hboundary]), hcut, Option.map_some, hmark]
    rfl
  | none =>
    split
    · next h =>
      obtain ⟨⟨before, behind⟩, hcut⟩ : ∃ parts, Text.cut? cs (markerPlace cs) = some parts := by
        rw [← Option.isSome_iff_exists, Text.isSome_cut?]
        exact (Bool.and_eq_true_iff.1 h).2
      have hdiffers : Text.eqIgnoringCase behind generatedMarker.toList = false := by
        by_contra hmark
        have hsome := beforeMarker?_eq_some_iff.2
          ⟨behind, (Text.eq_append_of_cut? hcut).1, by simpa using hmark⟩
        rw [hbefore] at hsome
        cases hsome
      rw [hcut, Option.map_some, hdiffers]
      rfl
    · rfl

/-- A column is classified by what stands before the marker, if there is one. -/
theorem classify?_eq (table : TableName) (column declared : String) (hidden : Int64) :
    classify? table column declared hidden = some
      (match beforeMarker? (Text.trimBlanks declared.toList) with
      | some bare =>
        if isGenerated hidden then .ok (typeName (String.ofList bare) none, true)
        else .error (.inTable table (.strayMarker column hidden))
      | none => .ok (typeName (String.ofList (Text.trimBlanks declared.toList)) none,
          isGenerated hidden)) := by
  rw [classify?, endsWithMarker?_eq, Option.bind_eq_bind, Option.bind_some]
  cases hbefore : beforeMarker? (Text.trimBlanks declared.toList) with
  | none => rfl
  | some bare =>
    obtain ⟨mark, hparts, hmark⟩ := beforeMarker?_eq_some_iff.1 hbefore
    cases hgenerated : isGenerated hidden with
    | false => rfl
    | true =>
      rw [hparts]
      simp [(cut?_append_marker bare hmark).2]

theorem classifyColumn_eq (table : TableName) (column declared : String) (hidden : Int64) :
    classifyColumn table column declared hidden =
      match beforeMarker? (Text.trimBlanks declared.toList) with
      | some bare =>
        if isGenerated hidden then .ok (typeName (String.ofList bare) none, true)
        else .error (.inTable table (.strayMarker column hidden))
      | none => .ok (typeName (String.ofList (Text.trimBlanks declared.toList)) none,
          isGenerated hidden) := by
  simp only [classifyColumn, classify?_eq, Option.get_some]

end Sqlite

end SchemaCatalog
