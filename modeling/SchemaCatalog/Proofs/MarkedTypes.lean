import Mathlib
import SchemaCatalog.Proofs.GeneratedMarker
import SchemaCatalog.Proofs.TrimmedText
/-!
# Declared types with a marker

A declared type is cut only between its characters, whatever they are. What comes of a column is its
type without one marker, unless the engine contradicts the marker, and a marker behind a type changes
nothing for a generated column (`Sqlite.classifyColumn_by_marker`).
-/

namespace SchemaCatalog

/-! ## Types without their blanks -/

theorem typeName_of_trimBlanks {s t : String}
    (h : Text.trimBlanks s.toList = Text.trimBlanks t.toList) : typeName s none = typeName t none := by
  simp only [typeName, Text.trim, h]

namespace Sqlite

variable {declared : String} {bare mark : List Char} {hidden : Int64}

theorem isGenerated_iff : isGenerated hidden ↔ hidden = 2 ∨ hidden = 3 := by
  simp [isGenerated]

/-! ## Texts that end in the marker -/

/-- Without the blanks at its ends, the declared type is `bare` and then the marker in any case of its
letters. -/
def Marked (declared : String) (bare : List Char) : Prop :=
  ∃ mark, Text.trimBlanks declared.toList = bare ++ mark ∧
    Text.eqIgnoringCase mark "GENERATED ALWAYS".toList

theorem beforeMarker?_trimBlanks_eq_some_iff :
    beforeMarker? (Text.trimBlanks declared.toList) = some bare ↔ Marked declared bare :=
  beforeMarker?_eq_some_iff

theorem beforeMarker?_trimBlanks_eq_none_iff :
    beforeMarker? (Text.trimBlanks declared.toList) = none ↔ ¬ ∃ bare, Marked declared bare := by
  rw [Option.eq_none_iff_forall_ne_some, not_exists]
  exact forall_congr' fun bare => not_congr beforeMarker?_trimBlanks_eq_some_iff

/-- The marker neither begins nor ends with a blank. -/
theorem ends_of_marker (h : Text.eqIgnoringCase mark generatedMarker.toList) : mark ≠ [] ∧
    (∀ c ∈ mark.head?, Text.isBlank c = false) ∧ (∀ c ∈ mark.getLast?, Text.isBlank c = false) := by
  have hlower := eq_of_beq h
  have hhead : mark.head?.map Char.toLower = some 'g' := by
    rw [← List.head?_map, hlower]
    rfl
  have hlast : mark.getLast?.map Char.toLower = some 's' := by
    rw [← List.getLast?_map, hlower]
    rfl
  refine ⟨?_, Text.isBlank_of_map_toLower hhead (by decide),
    Text.isBlank_of_map_toLower hlast (by decide)⟩
  rintro rfl
  cases hhead

/-- A text with the marker behind it is marked, whatever blanks are between them. -/
theorem marked_append (declared : String) {blanks mark : String}
    (hmark : Text.eqIgnoringCase mark.toList generatedMarker.toList) :
    Marked (declared ++ blanks ++ mark)
      ((declared ++ blanks).toList.dropWhile Text.isBlank) := by
  obtain ⟨hne, hhead, hlast⟩ := ends_of_marker hmark
  refine ⟨mark.toList, ?_, hmark⟩
  rw [String.toList_append, Text.trimBlanks_append_of_ends hne hhead hlast]

/-! ## Classification -/

theorem classifyColumn_of_marked (table : TableName) (column : String) (h : Marked declared bare) :
    classifyColumn table column declared hidden =
      if isGenerated hidden then .ok (typeName (String.ofList bare) none, true)
      else .error (.inTable table (.strayMarker column hidden)) := by
  rw [classifyColumn_eq, beforeMarker?_trimBlanks_eq_some_iff.2 h]

theorem classifyColumn_of_not_marked (table : TableName) (column : String)
    (h : ¬ ∃ bare, Marked declared bare) :
    classifyColumn table column declared hidden =
      .ok (typeName declared none, isGenerated hidden) := by
  have htype : typeName (String.ofList (Text.trimBlanks declared.toList)) none =
      typeName declared none := by
    refine typeName_of_trimBlanks ?_
    rw [String.toList_ofList, Text.trimBlanks_trimBlanks]
  rw [classifyColumn_eq, beforeMarker?_trimBlanks_eq_none_iff.2 h, htype]

theorem classifyColumn_eq_error_iff {table : TableName} {column : String} {e : Error} :
    classifyColumn table column declared hidden = .error e ↔
      (∃ bare, Marked declared bare) ∧ ¬ (hidden = 2 ∨ hidden = 3) ∧
        e = .inTable table (.strayMarker column hidden) := by
  rw [← isGenerated_iff]
  by_cases hmarked : ∃ bare, Marked declared bare
  · obtain ⟨bare, hbare⟩ := hmarked
    rw [classifyColumn_of_marked table column hbare]
    split
    · next hgenerated => simp [hgenerated]
    · next hgenerated =>
      rw [Except.error.injEq]
      exact ⟨fun he => ⟨⟨bare, hbare⟩, hgenerated, he.symm⟩, fun he => he.2.2.symm⟩
  · rw [classifyColumn_of_not_marked table column hmarked]
    exact ⟨(nomatch ·), fun h => absurd h.1 hmarked⟩

/-- What comes of a column that is classified. -/
theorem classifyColumn_eq_ok {table : TableName} {column type : String} {computed : Bool}
    (h : classifyColumn table column declared hidden = .ok (type, computed)) :
    (computed ↔ hidden = 2 ∨ hidden = 3) ∧
      (∀ bare, Marked declared bare → type = typeName (String.ofList bare) none) ∧
      ((¬ ∃ bare, Marked declared bare) → type = typeName declared none) := by
  rw [← isGenerated_iff]
  by_cases hmarked : ∃ bare, Marked declared bare
  · obtain ⟨bare, hbare⟩ := hmarked
    have hbares (other : List Char) (hother : Marked declared other) : other = bare :=
      Option.some.inj ((beforeMarker?_trimBlanks_eq_some_iff.2 hother).symm.trans
        (beforeMarker?_trimBlanks_eq_some_iff.2 hbare))
    rw [classifyColumn_of_marked table column hbare] at h
    by_cases hgenerated : isGenerated hidden
    · rw [if_pos hgenerated, Except.ok.injEq, Prod.mk.injEq] at h
      obtain ⟨rfl, rfl⟩ := h
      refine ⟨by simp [hgenerated], fun other hother => ?_, fun hnone => absurd ⟨bare, hbare⟩ hnone⟩
      rw [hbares other hother]
    · rw [if_neg hgenerated] at h
      cases h
  · rw [classifyColumn_of_not_marked table column hmarked, Except.ok.injEq, Prod.mk.injEq] at h
    obtain ⟨rfl, rfl⟩ := h
    exact ⟨Iff.rfl, fun bare hbare => absurd ⟨bare, hbare⟩ hmarked, fun _ => rfl⟩

/-- The marker behind the type of a generated column changes nothing. -/
theorem classifyColumn_append_marker (table : TableName) (column : String) {blanks mark : String}
    (hgenerated : isGenerated hidden) (hbare : ¬ ∃ bare, Marked declared bare)
    (hblanks : ∀ c ∈ blanks.toList, Text.isBlank c)
    (hmark : Text.eqIgnoringCase mark.toList generatedMarker.toList) :
    classifyColumn table column (declared ++ blanks ++ mark) hidden =
      classifyColumn table column declared hidden := by
  have htype : typeName (String.ofList ((declared ++ blanks).toList.dropWhile Text.isBlank)) none =
      typeName declared none := by
    refine typeName_of_trimBlanks ?_
    rw [String.toList_ofList, Text.trimBlanks_dropWhile, String.toList_append,
      Text.trimBlanks_append_blanks hblanks]
  rw [classifyColumn_of_marked table column (marked_append declared hmark), if_pos hgenerated,
    classifyColumn_of_not_marked table column hbare, htype, hgenerated]

/-- Every column is classified without a cut inside a character. It fails as inconsistent exactly if its
type is marked and the engine does not report it as generated; else its type is the declared one
without the marker, and it is computed as the engine reports. The marker may be left out of the type
of a generated column. -/
theorem classifyColumn_by_marker (table : TableName) (column declared : String) (hidden : Int64) :
    classify? table column declared hidden =
        some (classifyColumn table column declared hidden) ∧
      ((∃ e, classifyColumn table column declared hidden = .error e) ↔
        (∃ bare, Marked declared bare) ∧ ¬ (hidden = 2 ∨ hidden = 3)) ∧
      (∀ e, classifyColumn table column declared hidden = .error e →
        e = .inconsistent (.inTable table (.strayMarker column hidden))) ∧
      (∀ type computed, classifyColumn table column declared hidden = .ok (type, computed) →
        (computed ↔ hidden = 2 ∨ hidden = 3) ∧
          (∀ bare, Marked declared bare → type = typeName (String.ofList bare) none) ∧
          ((¬ ∃ bare, Marked declared bare) → type = typeName declared none)) ∧
      ∀ blanks mark : String, (hidden = 2 ∨ hidden = 3) → (¬ ∃ bare, Marked declared bare) →
        (∀ c ∈ blanks.toList, Text.isBlank c) →
        Text.eqIgnoringCase mark.toList "GENERATED ALWAYS".toList →
        classifyColumn table column (declared ++ blanks ++ mark) hidden =
          classifyColumn table column declared hidden := by
  refine ⟨(Option.some_get _).symm, ?_, ?_, fun type computed h => classifyColumn_eq_ok h, ?_⟩
  · constructor
    · rintro ⟨e, he⟩
      obtain ⟨hmarked, hhidden, -⟩ := classifyColumn_eq_error_iff.1 he
      exact ⟨hmarked, hhidden⟩
    · rintro ⟨hmarked, hhidden⟩
      exact ⟨_, classifyColumn_eq_error_iff.2 ⟨hmarked, hhidden, rfl⟩⟩
  · intro e he
    exact (classifyColumn_eq_error_iff.1 he).2.2
  · intro blanks mark hhidden hbare hblanks hmark
    exact classifyColumn_append_marker table column (isGenerated_iff.2 hhidden) hbare hblanks hmark

/-- A wide blank and a marker in small letters behind a type that is not ASCII, a type in which the
marker would begin within a character, and a marker where the engine reports an ordinary column. -/
theorem classifyColumn_by_marker_behind_wide :
    classifyColumn ⟨"main", "t"⟩ "c" ("größe" ++ "\u3000" ++ "generated always") 2 =
        classifyColumn ⟨"main", "t"⟩ "c" "größe" 2 ∧
      (¬ ∃ e, classifyColumn ⟨"main", "t"⟩ "c" "aéENERATED ALWAYS" 0 = .error e) ∧
      ∃ e, classifyColumn ⟨"main", "t"⟩ "c" "INT Generated Always\t" 0 = .error e := by
  have hplain : ¬ ∃ bare, Marked "größe" bare :=
    beforeMarker?_trimBlanks_eq_none_iff.1 (by decide)
  have hwithin : ¬ ∃ bare, Marked "aéENERATED ALWAYS" bare :=
    beforeMarker?_trimBlanks_eq_none_iff.1 (by decide)
  have hmarked : Marked "INT Generated Always\t" "INT ".toList :=
    beforeMarker?_trimBlanks_eq_some_iff.1 (by decide)
  refine ⟨?_, ?_, ?_⟩
  · exact (classifyColumn_by_marker ⟨"main", "t"⟩ "c" "größe" 2).2.2.2.2 "\u3000" "generated always"
      (.inl rfl) hplain (List.all_eq_true.1 rfl) (by decide)
  · rw [(classifyColumn_by_marker ⟨"main", "t"⟩ "c" "aéENERATED ALWAYS" 0).2.1]
    exact fun h => hwithin h.1
  · exact (classifyColumn_by_marker ⟨"main", "t"⟩ "c" "INT Generated Always\t" 0).2.1.2
      ⟨⟨_, hmarked⟩, by decide⟩

end Sqlite

end SchemaCatalog
