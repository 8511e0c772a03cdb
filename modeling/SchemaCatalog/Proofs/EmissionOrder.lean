import Mathlib
import SchemaCatalog.Proofs.BuildableTables
/-!
# The order in which foreign keys are emitted

Foreign keys are emitted by the names of their columns run together. That text does not show where a
name ends, so different keys can have the same one. These stay in the order of the set in which they
are kept: by parent, then by pairs. Only one list of the keys is in such an order
(`Table.emission_iff`), so what is emitted does not depend on how the foreign keys and their pairs were
listed (`Table.sortedForeignKeys_settled`).
-/

namespace SchemaCatalog

open Text

/-! ## What comes before what -/

/-- The schema has the lesser bytes, or it is the same and the name has. -/
def TableName.Precedes (m n : TableName) : Prop :=
  Utf8.encode m.schema < Utf8.encode n.schema ∨
    m.schema = n.schema ∧ Utf8.encode m.name < Utf8.encode n.name

/-- The referring column has the lesser bytes, or it is the same and the parent's column has. -/
def ColumnPair.Precedes (p q : ColumnPair) : Prop :=
  Utf8.encode p.foreign < Utf8.encode q.foreign ∨
    p.foreign = q.foreign ∧ Utf8.encode p.primary < Utf8.encode q.primary

/-- The parent comes before the other, or it is the same and the list of the pairs comes before. -/
def ForeignKey.Precedes (k l : ForeignKey) : Prop :=
  k.parent.Precedes l.parent ∨
    k.parent = l.parent ∧ List.Lex ColumnPair.Precedes k.pairs.toList l.pairs.toList

theorem TableName.compare_lt_iff {m n : TableName} : compare m n = .lt ↔ m.Precedes n := by
  refine (compareLex_lt_iff (f := schema) (g := name)).trans ?_
  rw [Precedes, Utf8.encode_lt_iff_compare, Utf8.encode_lt_iff_compare]

theorem ColumnPair.compare_lt_iff {p q : ColumnPair} : compare p q = .lt ↔ p.Precedes q := by
  refine (compareLex_lt_iff (f := foreign) (g := primary)).trans ?_
  rw [Precedes, Utf8.encode_lt_iff_compare, Utf8.encode_lt_iff_compare]

/-- Lists of pairs are compared at the first place at which they differ. -/
theorem ColumnPair.compareLex_lt_iff_lex {ps qs : List ColumnPair} :
    List.compareLex compare ps qs = .lt ↔ List.Lex Precedes ps qs := by
  induction ps generalizing qs with
  | nil =>
    cases qs with
    | nil => simp [List.compareLex_nil_nil]
    | cons q qs => simp [List.compareLex_nil_cons]
  | cons p ps ih =>
    cases qs with
    | nil => simp [List.compareLex_cons_nil]
    | cons q qs =>
      rw [List.compareLex_cons_cons, Ordering.then_eq_lt, Std.compare_eq_iff_eq, ih, compare_lt_iff,
        List.cons_lex_cons_iff]

theorem ForeignKey.compare_lt_iff {k l : ForeignKey} : compare k l = .lt ↔ k.Precedes l := by
  refine (compareLex_lt_iff (f := parent) (g := pairs)).trans ?_
  have hpairs : compare k.pairs l.pairs = List.compareLex compare k.pairs.toList l.pairs.toList := rfl
  rw [Precedes, TableName.compare_lt_iff, hpairs, ColumnPair.compareLex_lt_iff_lex]

theorem ForeignKey.Precedes.asymm {k l : ForeignKey} (h : k.Precedes l) : ¬ l.Precedes k := by
  intro hlk
  have hself := Std.TransCmp.lt_trans (compare_lt_iff.2 h) (compare_lt_iff.2 hlk)
  rw [Std.ReflOrd.compare_self] at hself
  cases hself

/-- The bytes by which a foreign key is emitted are those of its columns, pair by pair. -/
theorem ForeignKey.encode_sortKey (k : ForeignKey) :
    Utf8.encode k.sortKey = k.pairs.toList.flatMap fun p => Utf8.encode p.foreign := by
  unfold sortKey foreignColumns
  induction k.pairs.toList with
  | nil => rfl
  | cons p ps ih =>
    rw [List.map_cons, String.join_cons, List.flatMap_cons, ← ih]
    simp [Utf8.encode]

/-! ## The order of emission -/

namespace Table

/-- The foreign keys of the table, each of them once, by the bytes of the names of their columns run
together. Those that agree in this come by parent and pairs. -/
structure Emission (t : Table) (emitted : List ForeignKey) : Prop where
  complete : ∀ k, k ∈ emitted ↔ k ∈ t.foreignKeys
  once : emitted.Nodup
  sorted : emitted.Pairwise fun k l => Utf8.encode k.sortKey ≤ Utf8.encode l.sortKey
  ties : emitted.Pairwise fun k l => k.sortKey = l.sortKey → k.Precedes l

variable {t : Table} {emitted emitted' : List ForeignKey}

/-- Sorting by a key keeps the order of the elements that agree in it. -/
theorem pairwise_of_mergeSort_key {α β : Type} [LinearOrder β] {key : α → β} {before : α → α → Prop}
    {l : List α} (h : l.Pairwise before) :
    (l.mergeSort fun a b => key a ≤ key b).Pairwise fun a b => key a = key b → before a b := by
  have hfilter (k : β) : ((l.mergeSort fun a b => key a ≤ key b).filter (key · = k)).Pairwise
      before := by
    rw [filter_mergeSort]
    · exact h.filter _
    · intro a b c hab hbc
      exact decide_eq_true ((of_decide_eq_true hab).trans (of_decide_eq_true hbc))
    · intro a b
      simpa using le_total (key a) (key b)
    · intro a b ha hb
      simp_all
  rw [List.pairwise_iff_forall_sublist]
  intro a b hab hkey
  have hboth : [a, b].Pairwise fun c d => key c = key b → key d = key b → before c d := by
    simpa using (List.pairwise_filter.1 (hfilter (key b))).sublist hab
  exact List.pairwise_pair.1 hboth hkey rfl

theorem perm_sortedForeignKeys (t : Table) : t.sortedForeignKeys.Perm t.foreignKeys.toList :=
  List.mergeSort_perm _ _

theorem foreignKeys_increasing (t : Table) : t.foreignKeys.toList.Pairwise ForeignKey.Precedes :=
  t.foreignKeys.sorted.imp ForeignKey.compare_lt_iff.1

theorem emission_sortedForeignKeys (t : Table) : t.Emission t.sortedForeignKeys where
  complete _ := t.perm_sortedForeignKeys.mem_iff
  once := by
    apply t.perm_sortedForeignKeys.nodup_iff.2
    apply t.foreignKeys_increasing.imp
    rintro k l h rfl
    exact h.asymm h
  sorted := by
    apply List.Pairwise.imp Utf8.encode_le_iff.2
    exact pairwise_mergeSort_key (·.sortKey) String.le_trans String.le_total t.foreignKeys.toList
  ties := pairwise_of_mergeSort_key t.foreignKeys_increasing

theorem Emission.unique (h : t.Emission emitted) (h' : t.Emission emitted') : emitted = emitted' := by
  have hperm : emitted.Perm emitted' := by
    apply (List.perm_ext_iff_of_nodup h.once h'.once).2
    intro k
    rw [h.complete, h'.complete]
  apply List.Perm.eq_of_pairwise _ (h.sorted.and h.ties) (h'.sorted.and h'.ties) hperm
  intro k l _ _ hkl hlk
  -- keys that stand either way around agree in their text, and then one of them comes first
  have htext : k.sortKey = l.sortKey := le_antisymm (Utf8.encode_le_iff.1 hkl.1) (Utf8.encode_le_iff.1 hlk.1)
  exact absurd (hlk.2 htext.symm) (hkl.2 htext).asymm

/-- There is one order of emission. -/
theorem emission_iff : t.Emission emitted ↔ emitted = t.sortedForeignKeys := by
  constructor
  · intro h
    exact h.unique t.emission_sortedForeignKeys
  · rintro rfl
    exact t.emission_sortedForeignKeys

end Table

/-! ## Foreign keys as they are listed -/

namespace ForeignKey

/-- A foreign key as it is listed, its pairs in any order and as often as may be. -/
structure Listing where
  parent : TableName
  pairs : List ColumnPair
deriving DecidableEq

/-- The foreign keys that are listed, if each of them has a pair. -/
def ofListings (listings : List Listing) : Except Error (List ForeignKey) :=
  listings.mapM fun d => ofPairs d.parent d.pairs

/-- The foreign key has the parent and exactly the pairs that are listed. -/
structure Listing.Describes (d : Listing) (k : ForeignKey) : Prop where
  parent : k.parent = d.parent
  pairs : ∀ p, p ∈ k.pairs ↔ p ∈ d.pairs

/-- The same parent and the same pairs, in any order and repetition. -/
structure Listing.Same (d e : Listing) : Prop where
  parent : d.parent = e.parent
  pairs : ∀ p, p ∈ d.pairs ↔ p ∈ e.pairs

/-- The same foreign keys in any order and repetition, each with its pairs in any order and
repetition. -/
structure Relisted (listings listings' : List Listing) : Prop where
  kept : ∀ d ∈ listings, ∃ e ∈ listings', d.Same e
  known : ∀ e ∈ listings', ∃ d ∈ listings, d.Same e

variable {listings listings' : List Listing} {keys keys' : List ForeignKey} {d e : Listing}
  {k : ForeignKey}

instance : Decidable (d.Same e) :=
  decidable_of_iff (d.parent = e.parent ∧ d.pairs ⊆ e.pairs ∧ e.pairs ⊆ d.pairs)
    ⟨fun h => ⟨h.1, fun _ => ⟨fun hp => h.2.1 hp, fun hp => h.2.2 hp⟩⟩,
      fun h => ⟨h.parent, fun p hp => (h.pairs p).1 hp, fun p hp => (h.pairs p).2 hp⟩⟩

instance : Decidable (Relisted listings listings') :=
  decidable_of_iff ((∀ d ∈ listings, ∃ e ∈ listings', d.Same e) ∧
      ∀ e ∈ listings', ∃ d ∈ listings, d.Same e)
    ⟨fun h => ⟨h.1, h.2⟩, fun h => ⟨h.kept, h.known⟩⟩

theorem ofPairs_eq_ok_iff : ofPairs d.parent d.pairs = .ok k ↔ d.pairs ≠ [] ∧ d.Describes k := by
  have hk : k = ⟨d.parent, SortedSet.ofList d.pairs⟩ ↔ d.Describes k := by
    constructor
    · rintro rfl
      exact ⟨rfl, fun p => SortedSet.mem_ofList⟩
    · intro h
      have hpairs : k.pairs = SortedSet.ofList d.pairs :=
        SortedSet.ext fun p => (h.pairs p).trans SortedSet.mem_ofList.symm
      rw [← h.parent, ← hpairs]
  unfold ofPairs
  split
  · rename_i hnil
    simp [List.isEmpty_iff.1 hnil]
  · rename_i hne
    rw [← hk, Except.ok.injEq, eq_comm, and_iff_right]
    exact fun hnil => hne (List.isEmpty_iff.2 hnil)

theorem Listing.Same.describes_iff (h : d.Same e) : d.Describes k ↔ e.Describes k := by
  constructor
  · intro hk
    exact ⟨hk.parent.trans h.parent, fun p => (hk.pairs p).trans (h.pairs p)⟩
  · intro hk
    exact ⟨hk.parent.trans h.parent.symm, fun p => (hk.pairs p).trans (h.pairs p).symm⟩

theorem Listing.Same.ne_nil (h : d.Same e) (hd : d.pairs ≠ []) : e.pairs ≠ [] := by
  obtain ⟨p, hp⟩ := List.exists_mem_of_ne_nil d.pairs hd
  exact List.ne_nil_of_mem ((h.pairs p).1 hp)

theorem mem_ofListings_iff (h : ofListings listings = .ok keys) :
    k ∈ keys ↔ ∃ d ∈ listings, d.Describes k := by
  rw [mem_mapM_iff h]
  constructor
  · rintro ⟨d, hd, hk⟩
    exact ⟨d, hd, (ofPairs_eq_ok_iff.1 hk).2⟩
  · rintro ⟨d, hd, hk⟩
    obtain ⟨k', -, hk'⟩ := exists_ok_of_mapM h hd
    exact ⟨d, hd, ofPairs_eq_ok_iff.2 ⟨(ofPairs_eq_ok_iff.1 hk').1, hk⟩⟩

/-- What is listed in another way comes to the same foreign keys, up to order and repetition. -/
theorem Relisted.exists_ofListings (h : Relisted listings listings')
    (hkeys : ofListings listings = .ok keys) :
    ∃ keys', ofListings listings' = .ok keys' ∧ ∀ k, k ∈ keys' ↔ k ∈ keys := by
  have hall : ∀ e ∈ listings', ∃ k, ofPairs e.parent e.pairs = .ok k := by
    intro e he
    obtain ⟨d, hd, hsame⟩ := h.known e he
    obtain ⟨k, -, hk⟩ := exists_ok_of_mapM hkeys hd
    obtain ⟨hne, hdescribes⟩ := ofPairs_eq_ok_iff.1 hk
    exact ⟨k, ofPairs_eq_ok_iff.2 ⟨hsame.ne_nil hne, hsame.describes_iff.1 hdescribes⟩⟩
  obtain ⟨keys', hkeys'⟩ := exists_mapM_ok hall
  refine ⟨keys', hkeys', fun k => ?_⟩
  rw [mem_ofListings_iff hkeys', mem_ofListings_iff hkeys]
  constructor
  · rintro ⟨e, he, hk⟩
    obtain ⟨d, hd, hsame⟩ := h.known e he
    exact ⟨d, hd, hsame.describes_iff.2 hk⟩
  · rintro ⟨d, hd, hk⟩
    obtain ⟨e, he, hsame⟩ := h.kept d hd
    exact ⟨e, he, hsame.describes_iff.1 hk⟩

end ForeignKey

/-! ## What is emitted of listed foreign keys -/

namespace Table

open ForeignKey

variable {name : TableName} {columns : List Column} {keys : List ForeignKey} {t u : Table}
  {listings : List Listing}

theorem mem_foreignKeys_of_ofColumns (h : ofColumns name columns keys = .ok t) {k : ForeignKey} :
    k ∈ t.foreignKeys ↔ k ∈ keys :=
  (ofColumns_eq_ok_iff_madeOf.1 h).2.2.foreignKeys k

theorem sortedForeignKeys_congr (h : ∀ k, k ∈ t.foreignKeys ↔ k ∈ u.foreignKeys) :
    t.sortedForeignKeys = u.sortedForeignKeys := by
  rw [sortedForeignKeys, SortedSet.ext h, sortedForeignKeys]

/-- The foreign keys of a table are those that were listed for it. They are emitted each of them once,
by the bytes of the names of their columns run together and where these agree by parent and pairs,
which leaves no choice. If they are listed in another order or repeatedly, or the pairs of each, the
table is the same, and every table of these foreign keys emits them in the same order. -/
theorem sortedForeignKeys_settled (hkeys : ofListings listings = .ok keys)
    (ht : ofColumns name columns keys = .ok t) :
    (∀ k, k ∈ t.foreignKeys ↔ ∃ d ∈ listings, d.Describes k) ∧
    (∀ k ∈ t.foreignKeys,
      Utf8.encode k.sortKey = k.pairs.toList.flatMap fun p => Utf8.encode p.foreign) ∧
    (∀ emitted, t.Emission emitted ↔ emitted = t.sortedForeignKeys) ∧
    ∀ listings', Relisted listings listings' → ∃ keys', ofListings listings' = .ok keys' ∧
      ofColumns name columns keys' = .ok t ∧
        ∀ name' columns' u, ofColumns name' columns' keys' = .ok u →
          u.sortedForeignKeys = t.sortedForeignKeys := by
  refine ⟨fun k => ?_, fun k _ => k.encode_sortKey, fun emitted => emission_iff,
    fun listings' hlisted => ?_⟩
  · rw [mem_foreignKeys_of_ofColumns ht, mem_ofListings_iff hkeys]
  · obtain ⟨keys', hkeys', hmem⟩ := hlisted.exists_ofListings hkeys
    refine ⟨keys', hkeys', ?_, fun name' columns' u hu => sortedForeignKeys_congr fun k => ?_⟩
    · rw [ofColumns_perm (.refl columns) hmem, ht]
    · rw [mem_foreignKeys_of_ofColumns hu, mem_foreignKeys_of_ofColumns ht, hmem]

/-- Four foreign keys, three of which have the columns `ab`, or `a` and `b`. -/
def runTogether : List Listing := [
  ⟨⟨"m", "a"⟩, [⟨"b", "x"⟩]⟩,
  ⟨⟨"m", "v"⟩, [⟨"ab", "x"⟩]⟩,
  ⟨⟨"m", "v"⟩, [⟨"a", "x"⟩, ⟨"b", "y"⟩]⟩,
  ⟨⟨"m", "u"⟩, [⟨"ab", "x"⟩]⟩]

/-- The same foreign keys the other way around, with a key and some pairs listed twice. -/
def runTogetherAgain : List Listing := [
  ⟨⟨"m", "u"⟩, [⟨"ab", "x"⟩]⟩,
  ⟨⟨"m", "v"⟩, [⟨"b", "y"⟩, ⟨"a", "x"⟩, ⟨"b", "y"⟩]⟩,
  ⟨⟨"m", "v"⟩, [⟨"ab", "x"⟩, ⟨"ab", "x"⟩]⟩,
  ⟨⟨"m", "a"⟩, [⟨"b", "x"⟩]⟩,
  ⟨⟨"m", "v"⟩, [⟨"a", "x"⟩, ⟨"b", "y"⟩]⟩]

/-- The columns from which these foreign keys start. -/
def referring : List Column := ["ab", "b", "a"].map fun name => { name := name, dataType := "INT" }

/-- Of the three foreign keys with one text that of the lesser parent comes first, then that of the
lesser first pair. The fourth comes last although its parent is the least. -/
theorem sortedForeignKeys_runTogether : ∃ keys t keys',
    ofListings runTogether = .ok keys ∧ ofColumns ⟨"m", "t"⟩ referring keys = .ok t ∧
      Relisted runTogether runTogetherAgain ∧ ofListings runTogetherAgain = .ok keys' ∧
      ofColumns ⟨"m", "t"⟩ referring keys' = .ok t ∧ t.Emission t.sortedForeignKeys ∧
      t.sortedForeignKeys.map (fun k => (k.sortKey, k.parent.name, k.foreignColumns)) = [
        ("ab", "u", ["ab"]), ("ab", "v", ["a", "b"]), ("ab", "v", ["ab"]), ("b", "a", ["b"])] := by
  have h : ((ofListings runTogether).bind (ofColumns ⟨"m", "t"⟩ referring)).toOption.map (fun t =>
      t.sortedForeignKeys.map fun k => (k.sortKey, k.parent.name, k.foreignColumns)) = some [
        ("ab", "u", ["ab"]), ("ab", "v", ["a", "b"]), ("ab", "v", ["ab"]), ("b", "a", ["b"])] := by
    cbv
  obtain ⟨t, htable, hview⟩ := Option.map_eq_some_iff.1 h
  obtain ⟨keys, hkeys, ht⟩ := bind_ok_iff.1 (ok_of_toOption htable)
  have hlisted : Relisted runTogether runTogetherAgain := by decide
  obtain ⟨-, -, hemission, hsame⟩ := sortedForeignKeys_settled hkeys ht
  obtain ⟨keys', hkeys', ht', -⟩ := hsame _ hlisted
  exact ⟨keys, t, keys', hkeys, ht, hlisted, hkeys', ht', (hemission _).2 rfl, hview⟩

end Table

end SchemaCatalog
