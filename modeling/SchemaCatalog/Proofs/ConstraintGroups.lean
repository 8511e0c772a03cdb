import SchemaCatalog.Proofs.Assembling
/-!
# Rows of foreign keys by constraint

The rows about the foreign keys of a table come in any order, those of different constraints mixed.
Grouping them gives one foreign key for each constraint, made of the rows of that constraint and of no
others (`ForeignKey.Grouping`). It fails only if rows of one constraint refer to different tables, and
then the error is about the first such constraint. Of its rows the error names the first one by
position and the first that contradicts it, so the order in which the rows come cannot be seen if
their positions differ (`ForeignKey.grouped_by_constraint`).
-/

namespace SchemaCatalog

namespace ReferenceRow

variable {rows rows' : List ReferenceRow} {constraint : String}

/-- Two rows of the constraint refer to different tables. -/
def Conflicting (rows : List ReferenceRow) (constraint : String) : Prop :=
  ∃ r ∈ rows, ∃ r' ∈ rows, r.constraint = constraint ∧ r'.constraint = constraint ∧
    r.parent ≠ r'.parent

theorem mem_constraints_iff :
    constraint ∈ (constraints rows).toList ↔ ∃ r ∈ rows, r.constraint = constraint := by
  rw [constraints, SortedSet.mem_toList, SortedSet.mem_ofList, List.mem_map]

/-- The names of the constraints are listed in the order of their bytes. -/
theorem constraints_increasing (rows : List ReferenceRow) :
    (constraints rows).toList.Pairwise fun a b => Text.Utf8.encode a < Text.Utf8.encode b :=
  (constraints rows).sorted.imp Text.Utf8.encode_lt_iff_compare.2

theorem mem_ofConstraint_iff {r : ReferenceRow} :
    r ∈ ofConstraint constraint rows ↔ r ∈ rows ∧ r.constraint = constraint := by
  rw [ofConstraint, List.mem_mergeSort, List.mem_filter, decide_eq_true_eq]

theorem ofConstraint_sorted (constraint : String) (rows : List ReferenceRow) :
    (ofConstraint constraint rows).Pairwise fun r r' => r.ordinal ≤ r'.ordinal :=
  Table.pairwise_mergeSort_key ReferenceRow.ordinal UInt64.le_trans UInt64.le_total _

/-- Where no position of a constraint occurs twice, its rows are listed in one order. -/
theorem ofConstraint_perm (hn : (rows.map fun r => (r.constraint, r.ordinal)).Nodup)
    (h : rows'.Perm rows) : ofConstraint constraint rows' = ofConstraint constraint rows := by
  have hperm : (ofConstraint constraint rows').Perm (ofConstraint constraint rows) :=
    (List.mergeSort_perm _ _).trans ((h.filter _).trans (List.mergeSort_perm _ _).symm)
  refine List.Perm.eq_of_pairwise (fun r r' hr hr' hle hge => ?_)
    (ofConstraint_sorted constraint rows') (ofConstraint_sorted constraint rows) hperm
  obtain ⟨hr, hconstraint⟩ := mem_ofConstraint_iff.1 hr
  obtain ⟨hr', hconstraint'⟩ := mem_ofConstraint_iff.1 hr'
  refine List.inj_on_of_nodup_map hn (h.mem_iff.1 hr) hr' ?_
  exact Prod.ext (hconstraint.trans hconstraint'.symm) (UInt64.le_antisymm hle hge)

end ReferenceRow

namespace ForeignKey

open ReferenceRow

variable {table : TableName} {rows rows' : List ReferenceRow} {constraint : String}

/-! ## What the foreign keys are -/

/-- The foreign key has the parent of the constraint's rows and exactly their pairs. -/
structure OfConstraint (rows : List ReferenceRow) (constraint : String) (k : ForeignKey) : Prop where
  parent : ∀ r ∈ rows, r.constraint = constraint → r.parent = k.parent
  pairs : ∀ pair, pair ∈ k.pairs ↔ ∃ r ∈ rows, r.constraint = constraint ∧ r.pair = pair

/-- The foreign keys are those of the constraints, one for each of them, in the order of the bytes of
their names. -/
structure Grouping (rows : List ReferenceRow) (constraints : List String) (keys : List ForeignKey) :
    Prop where
  increasing : constraints.Pairwise fun a b => Text.Utf8.encode a < Text.Utf8.encode b
  complete : ∀ constraint, constraint ∈ constraints ↔ ∃ r ∈ rows, r.constraint = constraint
  described : List.Forall₂ (OfConstraint rows) constraints keys

theorem ofRows_eq_ok_iff_ofConstraint (hr : ∃ r ∈ rows, r.constraint = constraint)
    {k : ForeignKey} :
    ofRows table constraint (ReferenceRow.ofConstraint constraint rows) = .ok k ↔
      OfConstraint rows constraint k := by
  have hmem : ∀ pair, pair ∈ SortedSet.ofList
      ((rows.filter (·.constraint = constraint)).map (·.pair)) ↔
        ∃ r ∈ rows, r.constraint = constraint ∧ r.pair = pair := by
    intro pair
    simp only [SortedSet.mem_ofList, List.mem_map, List.mem_filter, decide_eq_true_eq, and_assoc]
  rw [ofRows_ofConstraint_iff]
  constructor
  · rintro ⟨-, hparent, hpairs⟩
    exact ⟨hparent, fun pair => hpairs ▸ hmem pair⟩
  · rintro ⟨hparent, hpairs⟩
    exact ⟨hr, hparent, SortedSet.ext fun pair => (hpairs pair).trans (hmem pair).symm⟩

/-- The foreign keys that come out are those of the constraints. -/
theorem grouped_eq_ok_iff {keys : List ForeignKey} :
    grouped table rows = .ok keys ↔ ∃ constraints, Grouping rows constraints keys := by
  have hlisted : grouped table rows = .ok keys ↔
      List.Forall₂ (OfConstraint rows) (constraints rows).toList keys :=
    mapM_ok_iff_forall₂ fun constraint hconstraint _ =>
      ofRows_eq_ok_iff_ofConstraint (mem_constraints_iff.1 hconstraint)
  rw [hlisted]
  constructor
  · intro h
    exact ⟨_, constraints_increasing rows, fun _ => mem_constraints_iff, h⟩
  · rintro ⟨names, hincreasing, hcomplete, hdescribed⟩
    have hnames : names = (constraints rows).toList := by
      refine SortedSet.toList_ext ?_ (constraints rows).sorted fun constraint => ?_
      · exact hincreasing.imp Text.Utf8.encode_lt_iff_compare.1
      · rw [hcomplete, mem_constraints_iff]
    exact hnames ▸ hdescribed

theorem mem_grouped_iff_ofConstraint {keys : List ForeignKey} (h : grouped table rows = .ok keys)
    {k : ForeignKey} : k ∈ keys ↔ ∃ r ∈ rows, OfConstraint rows r.constraint k := by
  rw [mem_mapM_iff h]
  constructor
  · rintro ⟨constraint, hconstraint, hk⟩
    obtain ⟨r, hr, rfl⟩ := mem_constraints_iff.1 hconstraint
    exact ⟨r, hr, (ofRows_eq_ok_iff_ofConstraint ⟨r, hr, rfl⟩).1 hk⟩
  · rintro ⟨r, hr, hk⟩
    exact ⟨r.constraint, mem_constraints_iff.2 ⟨r, hr, rfl⟩,
      (ofRows_eq_ok_iff_ofConstraint ⟨r, hr, rfl⟩).2 hk⟩

/-- The foreign keys start from the columns that the rows name, and from no others. -/
theorem forall_foreignColumns_grouped_iff {keys : List ForeignKey}
    (h : grouped table rows = .ok keys) {p : String → Prop} :
    (∀ k ∈ keys, ∀ column ∈ k.foreignColumns, p column) ↔ ∀ r ∈ rows, p r.foreignColumn := by
  constructor
  · intro hall r hr
    obtain ⟨k, hk, hrows⟩ := exists_ok_of_mapM h (mem_constraints_iff.2 ⟨r, hr, rfl⟩)
    have hpair := (((ofRows_eq_ok_iff_ofConstraint ⟨r, hr, rfl⟩).1 hrows).pairs r.pair).2
      ⟨r, hr, rfl, rfl⟩
    exact hall k hk r.foreignColumn (List.mem_map_of_mem hpair)
  · intro hall k hk column hcolumn
    obtain ⟨r₀, -, hofConstraint⟩ := (mem_grouped_iff_ofConstraint h).1 hk
    obtain ⟨pair, hpair, rfl⟩ := List.mem_map.1 hcolumn
    obtain ⟨r, hr, -, rfl⟩ := (hofConstraint.pairs pair).1 hpair
    exact hall r hr

/-- A constraint whose rows agree on the parent has its foreign key. -/
theorem exists_ofRows_iff (hr : ∃ r ∈ rows, r.constraint = constraint) :
    (∃ k, ofRows table constraint (ofConstraint constraint rows) = .ok k) ↔
      ¬ Conflicting rows constraint := by
  simp only [ofRows_ofConstraint_iff]
  constructor
  · rintro ⟨k, -, hparent, -⟩ ⟨r, hr, r', hr', hconstraint, hconstraint', hne⟩
    exact hne ((hparent r hr hconstraint).trans (hparent r' hr' hconstraint').symm)
  · intro h
    obtain ⟨r, hmem, hconstraint⟩ := hr
    refine ⟨⟨r.parent, _⟩, ⟨r, hmem, hconstraint⟩, fun r' hmem' hconstraint' => ?_, rfl⟩
    by_contra hne
    exact h ⟨r', hmem', r, hmem, hconstraint', hconstraint, hne⟩

/-- All foreign keys come out exactly if the rows of each constraint agree on the parent. -/
theorem exists_grouped_iff :
    (∃ keys, grouped table rows = .ok keys) ↔ ∀ constraint, ¬ Conflicting rows constraint := by
  constructor
  · rintro ⟨keys, h⟩ constraint ⟨r, hr, r', hr', hconstraint, hconstraint', hne⟩
    exact hne (parent_of_grouped h hr' hr (hconstraint.trans hconstraint'.symm))
  · intro h
    exact exists_mapM_ok fun constraint hconstraint =>
      (exists_ofRows_iff (mem_constraints_iff.1 hconstraint)).2 (h constraint)

/-! ## What is reported -/

/-- Of the constraints whose rows refer to different tables this is the first. By position one of its
rows is the first, and another one is the first that contradicts it. -/
structure FirstConflict (rows : List ReferenceRow) (constraint : String)
    (first stray : ReferenceRow) : Prop where
  least : ∀ other, Conflicting rows other →
    ¬ Text.Utf8.encode other < Text.Utf8.encode constraint
  first_mem : first ∈ rows ∧ first.constraint = constraint
  first_least : ∀ r ∈ rows, r.constraint = constraint → first.ordinal ≤ r.ordinal
  stray_mem : stray ∈ rows ∧ stray.constraint = constraint
  differs : stray.parent ≠ first.parent
  stray_least : ∀ r ∈ rows, r.constraint = constraint → r.parent ≠ first.parent →
    stray.ordinal ≤ r.ordinal

/-- Rows in the order of their positions that make no foreign key contradict the first one. -/
theorem exists_of_ofRows_error {members : List ReferenceRow} {e : Error}
    (hsorted : members.Pairwise fun r r' => r.ordinal ≤ r'.ordinal) (hne : members ≠ [])
    (h : ofRows table constraint members = .error e) :
    ∃ first ∈ members, ∃ stray ∈ members,
      e = .inTable table (.mixedParents constraint first.parent stray.parent) ∧
      (∀ r ∈ members, first.ordinal ≤ r.ordinal) ∧ stray.parent ≠ first.parent ∧
      ∀ r ∈ members, r.parent ≠ first.parent → stray.ordinal ≤ r.ordinal := by
  obtain ⟨first, rest, rfl⟩ := List.exists_cons_of_ne_nil hne
  obtain ⟨hfirst, hrest⟩ := List.pairwise_cons.1 hsorted
  rw [ofRows] at h
  cases hstray : rest.find? fun r => decide (r.parent ≠ first.parent) with
  | none =>
    rw [hstray] at h
    cases h
  | some stray =>
    rw [hstray] at h
    cases h
    obtain ⟨hdiffers, before, after, rfl, hbefore⟩ := List.find?_eq_some_iff_append.1 hstray
    refine ⟨first, by simp, stray, by simp, rfl, ?_, by simpa using hdiffers, ?_⟩
    · exact List.forall_mem_cons.2 ⟨UInt64.le_refl _, hfirst⟩
    · intro r hr hne
      rcases List.mem_cons.1 hr with rfl | hr
      · exact absurd rfl hne
      rcases List.mem_append.1 hr with hr | hr
      · exact absurd (by simpa using hbefore r hr) hne
      rcases List.mem_cons.1 hr with rfl | hr
      · exact UInt64.le_refl _
      · exact (List.pairwise_cons.1 (List.pairwise_append.1 hrest).2.1).1 r hr

/-- If a foreign key does not come out, the error is about the first constraint with a conflict. -/
theorem exists_of_grouped_error {e : Error} (h : grouped table rows = .error e) :
    ∃ constraint first stray, FirstConflict rows constraint first stray ∧
      e = .inTable table (.mixedParents constraint first.parent stray.parent) := by
  obtain ⟨before, constraint, after, hlist, herror, hbefore⟩ := exists_of_mapM_error h
  have hsorted := constraints_increasing rows
  rw [hlist] at hsorted
  have hmem : ∀ other ∈ before ++ constraint :: after, ∃ r ∈ rows, r.constraint = other :=
    fun other hother => mem_constraints_iff.1 (hlist ▸ hother)
  obtain ⟨r, hr, hconstraint⟩ := hmem constraint (by simp)
  obtain ⟨first, hfirst, stray, hstray, rfl, hleast, hdiffers, hnext⟩ := exists_of_ofRows_error
    (ofConstraint_sorted constraint rows)
    (List.ne_nil_of_mem (mem_ofConstraint_iff.2 ⟨hr, hconstraint⟩)) herror
  -- a constraint that comes earlier has its foreign key, so there is no conflict in it
  have hearliest : ∀ other, Conflicting rows other →
      ¬ Text.Utf8.encode other < Text.Utf8.encode constraint := by
    intro other hconflict hlt
    obtain ⟨r, hr, -, -, hname, -⟩ := id hconflict
    have hlisted : other ∈ before ++ constraint :: after :=
      hlist ▸ mem_constraints_iff.2 ⟨r, hr, hname⟩
    rcases List.mem_append.1 hlisted with hother | hother
    · exact (exists_ofRows_iff ⟨r, hr, hname⟩).1 (hbefore other hother) hconflict
    rcases List.mem_cons.1 hother with rfl | hother
    · exact List.lt_irrefl _ hlt
    · have hgt := (List.pairwise_cons.1 (List.pairwise_append.1 hsorted).2.1).1 other hother
      exact List.lt_asymm hlt hgt
  exact ⟨constraint, first, stray, {
    least := hearliest
    first_mem := mem_ofConstraint_iff.1 hfirst
    first_least := fun r hr hc => hleast r (mem_ofConstraint_iff.2 ⟨hr, hc⟩)
    stray_mem := mem_ofConstraint_iff.1 hstray
    differs := hdiffers
    stray_least := fun r hr hc => hnext r (mem_ofConstraint_iff.2 ⟨hr, hc⟩) }, rfl⟩

/-- Rows in another order come to the same result if no position of a constraint occurs twice. -/
theorem grouped_eq_of_perm (hn : (rows.map fun r => (r.constraint, r.ordinal)).Nodup)
    (h : rows'.Perm rows) : grouped table rows' = grouped table rows := by
  have hconstraints : constraints rows' = constraints rows := SortedSet.ofList_perm (h.map _)
  rw [grouped, grouped, hconstraints]
  exact mapM_congr fun constraint _ => by rw [ofConstraint_perm hn h]

/-- Foreign keys come out exactly if the rows of each constraint agree on the parent, and they are
those of the constraints, however the rows are ordered. Otherwise the error is about the first
constraint with a conflict, never about a foreign key without pairs, and if no position of a
constraint occurs twice it does not depend on the order of the rows either. -/
theorem grouped_by_constraint (table : TableName) (rows : List ReferenceRow) :
    ((∃ keys, grouped table rows = .ok keys) ↔
      ∀ r ∈ rows, ∀ r' ∈ rows, r.constraint = r'.constraint → r.parent = r'.parent) ∧
    (∀ keys, grouped table rows = .ok keys ↔ ∃ constraints, Grouping rows constraints keys) ∧
    (∀ rows', rows'.Perm rows → ∀ keys,
      grouped table rows' = .ok keys ↔ grouped table rows = .ok keys) ∧
    (∀ e, grouped table rows = .error e →
      (∃ constraint first stray, FirstConflict rows constraint first stray ∧
        e = .inTable table (.mixedParents constraint first.parent stray.parent)) ∧
      ∀ parent, e ≠ .inconsistent (.emptyForeignKey parent)) ∧
    ((rows.map fun r => (r.constraint, r.ordinal)).Nodup → ∀ rows', rows'.Perm rows →
      grouped table rows' = grouped table rows) := by
  refine ⟨?_, fun keys => grouped_eq_ok_iff, fun rows' h keys => grouped_perm h, ?_,
    fun hn rows' h => grouped_eq_of_perm hn h⟩
  · rw [exists_grouped_iff]
    constructor
    · intro h r hr r' hr' hsame
      by_contra hne
      exact h r.constraint ⟨r, hr, r', hr', rfl, hsame.symm, hne⟩
    · rintro h constraint ⟨r, hr, r', hr', hconstraint, hconstraint', hne⟩
      exact hne (h r hr r' hr' (hconstraint.trans hconstraint'.symm))
  · intro e h
    obtain ⟨constraint, first, stray, hfirst, rfl⟩ := exists_of_grouped_error h
    exact ⟨⟨constraint, first, stray, hfirst, rfl⟩, nofun⟩

/-- Rows of one constraint and one position that refer to different tables. -/
def tied : List ReferenceRow := [
  ⟨"f", 0, "a", ⟨"m", "u"⟩, "x"⟩, ⟨"f", 0, "b", ⟨"m", "v"⟩, "x"⟩]

-- of rows that their positions do not order the error names the one that came first
example : grouped ⟨"m", "t"⟩ tied =
      .error (.inTable ⟨"m", "t"⟩ (.mixedParents "f" ⟨"m", "u"⟩ ⟨"m", "v"⟩)) ∧
    grouped ⟨"m", "t"⟩ tied.reverse =
      .error (.inTable ⟨"m", "t"⟩ (.mixedParents "f" ⟨"m", "v"⟩ ⟨"m", "u"⟩)) := by
  constructor <;> cbv

end ForeignKey

end SchemaCatalog
