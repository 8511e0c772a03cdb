import Mathlib
import SchemaCatalog.Json.Model
import SchemaCatalog.Proofs.TableInvariant
import SchemaCatalog.Proofs.WrittenJson
/-!
# Tables that are written are read

Each reader of the model takes what the writer of its type writes: the members of a record fill its
draft one by one, and the checks behind the closing brace find nothing, since a table passed them
before it was written (`Table.read_written`).
-/

namespace SchemaCatalog

namespace Json.Reader

/-! ## Columns -/

theorem int_natDigits {n : Nat} {low high : Int} (hlow : low ≤ n) (hhigh : n ≤ high)
    (hsize : n < UInt64.size) {ws rest : List Char} (hws : ∀ c ∈ ws, isSpace c) (hr : Stops rest) :
    int low high (ws ++ (Decimal.natDigits n ++ rest)) = .ok ((n : Int), rest) := by
  have hbounds : (low ≤ (n : Int) && (n : Int) ≤ high) = true := by simp [hlow, hhigh]
  rw [int, bind_ok (number_natDigits hws hsize hr)]
  simp only [hbounds]
  rfl

theorem takes_uint64 (n : UInt64) : uint64.Takes (.int n.toNat) n := by
  intro depth ws rest hws hr
  have hsize : n.toNat < UInt64.size := n.toNat_lt
  have hhigh : (n.toNat : Int) ≤ 18446744073709551615 := by
    simp only [UInt64.size] at hsize
    omega
  have hint := int_natDigits (Int.natCast_nonneg _) hhigh hsize hws hr
  show uint64 (ws ++ (Decimal.natDigits n.toNat ++ rest)) = _
  rw [uint64, bind_ok hint, Int.toNat_natCast, UInt64.ofNat_toNat]
  rfl

theorem write_string_head (s : String) (depth : Option Nat) :
    (write depth (.string s)).head? ≠ some 'n' := by
  simp [write, quote]

theorem write_nat_head (n : Nat) (depth : Option Nat) :
    (write depth (.int n)).head? ≠ some 'n' := by
  obtain ⟨c, ds, hds, hdigit⟩ := exists_natDigits n
  have hwrite : write depth (.int n) = c :: ds := hds
  simpa [hwrite] using ne_of_isDigit hdigit (by decide)

theorem takes_column (c : Column) : column.Takes c.toJson c := by
  have hdefault := takes_ofOption takes_string write_string_head c.default?
  have hkey := takes_ofOption takes_uint64 (fun n => write_nat_head n.toNat) c.keyOrdinal?
  have hfinish : ColumnDraft.finish ⟨c.name, c.dataType, c.nullable, some c.default?,
      some c.keyOrdinal?, c.isComputed, c.isIdentity, c.isConcurrencyToken⟩ = .ok c := rfl
  refine takes_record (Fills.named rfl rfl (takes_place (takes_string c.name) _) ?_) hfinish
  refine Fills.named rfl rfl (takes_place (takes_string c.dataType) _) ?_
  refine Fills.named rfl rfl (takes_place (takes_bool c.nullable) _) ?_
  refine Fills.named rfl rfl (takes_place hdefault _) ?_
  refine Fills.named rfl rfl (takes_place hkey _) ?_
  refine Fills.named rfl rfl (takes_place (takes_bool c.isComputed) _) ?_
  refine Fills.named rfl rfl (takes_place (takes_bool c.isIdentity) _) ?_
  exact Fills.named rfl rfl (takes_place (takes_bool c.isConcurrencyToken) _) (.nil _)

/-! ## Foreign keys -/

theorem takes_columnPair (p : ColumnPair) : columnPair.Takes (ForeignKey.pairToJson p) p := by
  intro depth ws rest hws _
  have htext : write depth (ForeignKey.pairToJson p) ++ rest =
      '[' :: (lineBreak (depth.map (· + 1)) ++ (quote p.foreign ++ (',' ::
        (lineBreak (depth.map (· + 1)) ++ (quote p.primary ++
          (lineBreak depth ++ ']' :: rest)))))) := by
    simp [ForeignKey.pairToJson, write, writeItems]
  rw [htext, columnPair, bind_ok (char_blanks hws (by decide) _),
    bind_ok (string_quote (isSpace_lineBreak _) _ _), bind_ok (char_next (by decide) _),
    bind_ok (string_quote (isSpace_lineBreak _) _ _),
    bind_ok (char_blanks (isSpace_lineBreak depth) (by decide) _)]
  rfl

/-- What is written of a list is read if what is written of each item is. -/
theorem takes_map {α : Type} {item : Reader α} {f : α → Json} {as : List α}
    (h : ∀ a ∈ as, item.Takes (f a) a) : (array item).Takes (.array (as.map f)) as :=
  takes_array (List.forall₂_map_left_iff.2 (List.forall₂_same.2 h))

/-- A foreign key with a pair is made of its pairs again. -/
theorem takes_foreignKey {k : ForeignKey} (h : 0 < k.pairs.size) : foreignKey.Takes k.toJson k := by
  have hpairs : ForeignKey.ofPairs k.parent k.pairs.toList = .ok k := by
    have hne : k.pairs.toList.isEmpty = false := by
      rw [List.isEmpty_eq_false_iff]
      exact List.ne_nil_of_length_pos h
    rw [ForeignKey.ofPairs, hne, SortedSet.ofList_toList]
    rfl
  have hfinish : ForeignKeyDraft.finish ⟨k.parent.schema, k.parent.name, k.pairs.toList⟩ = .ok k :=
    congrArg (Except.mapError (ReadFault.refused · false)) hpairs
  refine takes_record (Fills.named rfl rfl (takes_place (takes_string k.parent.schema) _) ?_) hfinish
  refine Fills.named rfl rfl (takes_place (takes_string k.parent.name) _) ?_
  exact Fills.named rfl rfl (takes_place (takes_map fun p _ => takes_columnPair p) _) (.nil _)

/-! ## Tables -/

/-- A table that is well-formed passes the checks behind its last member. -/
theorem takes_table {t : Table} (h : t.WellFormed) : table.Takes t.toJson t := by
  have hfinish : TableDraft.finish
      ⟨t.name.schema, t.name.name, t.columns, t.foreignKeys.toList⟩ = .ok t :=
    congrArg (Except.mapError (ReadFault.refused · false)) h.ofColumns_eq
  have hkeys := takes_map fun k hk => takes_foreignKey (h.hasPair k hk)
  refine takes_record (Fills.named rfl rfl (takes_place (takes_string t.name.schema) _) ?_) hfinish
  refine Fills.named rfl rfl (takes_place (takes_string t.name.name) _) ?_
  refine Fills.named rfl rfl (takes_place (takes_map fun c _ => takes_column c) _) ?_
  exact Fills.named rfl rfl (takes_trailing (takes_place hkeys _)) (.nil _)

theorem takes_tables {ts : List Table} (h : ∀ t ∈ ts, t.WellFormed) :
    tables.Takes (Table.listToJson ts) ts :=
  takes_map fun t ht => takes_table (h t ht)

end Json.Reader

namespace Table

/-- Tables are read from either text of them as they were, all together and each by itself. They
have to be well-formed, which every table is that was built (`wellFormed_iff_built`). -/
theorem read_written {ts : List Table} (h : ∀ t ∈ ts, t.WellFormed) :
    Json.Reader.tables.run (listToJson ts).compact = .ok ts ∧
      Json.Reader.tables.run (listToJson ts).pretty = .ok ts ∧
      ∀ t ∈ ts, Json.Reader.table.run t.toJson.compact = .ok t ∧
        Json.Reader.table.run t.toJson.pretty = .ok t := by
  have htables := Json.Reader.takes_tables h
  refine ⟨htables.run none, htables.run (some 0), fun t ht => ?_⟩
  have htable := Json.Reader.takes_table (h t ht)
  exact ⟨htable.run none, htable.run (some 0)⟩

/-- A table of names and defaults that are not written as they are. -/
def escaped : Table where
  name := ⟨"\u0000\u001f", "𝔘\"\\é"⟩
  columns := [
    { name := "\"", dataType := "NVARCHAR(2)", keyOrdinal? := some 1,
      default? := some "('\"\\/\u0001\u0008\u000c\n\r\t\u007f')" },
    { name := "\\", dataType := "BIGINT", nullable := false, keyOrdinal? := some 0,
      isIdentity := true },
    { name := "é", dataType := "TIMESTAMP", isComputed := true, isConcurrencyToken := true }]
  foreignKeys := SortedSet.ofList [⟨⟨"", "\t"⟩, SortedSet.ofList [⟨"\\", "\\"⟩, ⟨"\"", "\""⟩]⟩]

/-- A table of one column and no key. -/
def unkeyed : Table :=
  ⟨⟨"m", "t"⟩, [{ name := "x", dataType := "INTEGER" }], .empty⟩

theorem wellFormed_escaped : escaped.WellFormed := by
  refine wellFormed_iff_built.2 ⟨escaped.columns.reverse, escaped.foreignKeys.toList, ?_, by cbv⟩
  intro k hk
  obtain rfl := List.mem_singleton.1 hk
  decide

theorem wellFormed_unkeyed : unkeyed.WellFormed :=
  wellFormed_iff_built.2 ⟨unkeyed.columns, [], List.forall_mem_nil _, by cbv⟩

theorem read_written_escaped :
    escaped.WellFormed ∧ unkeyed.WellFormed ∧
      Json.Reader.tables.run (listToJson [escaped, unkeyed]).compact = .ok [escaped, unkeyed] ∧
      Json.Reader.tables.run (listToJson [escaped, unkeyed]).pretty = .ok [escaped, unkeyed] ∧
      Json.Reader.table.run escaped.toJson.compact = .ok escaped ∧
      Json.Reader.table.run escaped.toJson.pretty = .ok escaped := by
  have hwell : ∀ t ∈ [escaped, unkeyed], t.WellFormed := by
    intro t ht
    rcases List.mem_pair.1 ht with rfl | rfl
    · exact wellFormed_escaped
    · exact wellFormed_unkeyed
  obtain ⟨hcompact, hpretty, heach⟩ := read_written hwell
  obtain ⟨hcompact', hpretty'⟩ := heach escaped (List.mem_cons_self ..)
  exact ⟨wellFormed_escaped, wellFormed_unkeyed, hcompact, hpretty, hcompact', hpretty'⟩

end Table

end SchemaCatalog
