import SchemaCatalog.Proofs.Outcomes
import SchemaCatalog.TableStream
/-!
# Runs of queries and streams

What comes out when a query is run and a stream is pulled to its end. A stream that stops after an
error gives the items up to its first error (`drain_stopAfterError`), and collecting is a matter of
the items alone (`collect_eq_mapM`). What is asked is another matter: `drain_stopped_error` says
that draining pulls one query behind the one that failed.
-/

namespace SchemaCatalog

variable {σ κ α β : Type}

/-! ## Queries -/

namespace Query

variable (source : RowSource σ κ)

theorem run_bind (q : Query α) (f : α → Query β) (s : σ) :
    (q >>= f).run source s = match q.run source s with
      | (.ok a, s') => (f a).run source s'
      | (.error e, s') => (.error e, s') := by
  show (q.andThen f).run source s = _
  induction q generalizing s with
  | done a => rfl
  | fail e => rfl
  | ask st next ih =>
    simp only [andThen, run]
    split
    · rfl
    · exact ih _ _

theorem run_bind_ok {q : Query α} {f : α → Query β} {s s' : σ} {a : α}
    (h : q.run source s = (.ok a, s')) : (q >>= f).run source s = (f a).run source s' := by
  rw [run_bind, h]

theorem run_bind_error {q : Query α} {f : α → Query β} {s s' : σ} {e : Error}
    (h : q.run source s = (.error e, s')) : (q >>= f).run source s = (.error e, s') := by
  rw [run_bind, h]

/-- A query comes to a result exactly if its steps do, one after the other. -/
theorem run_bind_eq_ok_iff {q : Query α} {f : α → Query β} {s s' : σ} {b : β} :
    (q >>= f).run source s = (.ok b, s') ↔
      ∃ a t, q.run source s = (.ok a, t) ∧ (f a).run source t = (.ok b, s') := by
  rw [run_bind]
  rcases q.run source s with ⟨e | a, t⟩ <;> simp [and_assoc]

@[simp]
theorem run_pure (a : α) (s : σ) : (pure a : Query α).run source s = (.ok a, s) := rfl

@[simp]
theorem run_ofExcept (x : Except Error α) (s : σ) : (ofExcept x).run source s = (x, s) := by
  cases x <;> rfl

@[simp]
theorem run_rows (st : Statement) (s : σ) : (rows st).run source s = source.fetchAll st s := by
  simp only [rows, run]
  split <;> simp_all

/-- Queries that are run one after the other come to the list of their results. -/
theorem run_mapM_cons_ok {f : β → Query α} {b : β} {bs : List β}
    {as : List α} {s s' : σ} (h : ((b :: bs).mapM f).run source s = (.ok as, s')) :
    ∃ a as' t, (f b).run source s = (.ok a, t) ∧ (bs.mapM f).run source t = (.ok as', s') ∧
      as = a :: as' := by
  rw [List.mapM_cons, run_bind] at h
  rcases hb : (f b).run source s with ⟨e | a, t⟩ <;> rw [hb] at h
  · cases h
  · simp only [run_bind] at h
    rcases hbs : (bs.mapM f).run source t with ⟨e | as', u⟩ <;> rw [hbs] at h
    · cases h
    · cases h
      exact ⟨a, as', t, rfl, hbs, rfl⟩

/-- Whatever the answers are, the result of the query has the property. -/
def Ensures (p : α → Prop) : Query α → Prop
  | .done a => p a
  | .fail _ => True
  | .ask _ next => ∀ rows, (next rows).Ensures p

section Ensures
variable {p : α → Prop} {q : β → Prop}

theorem ensures_true (x : Query α) : x.Ensures fun _ => True := by
  induction x with
  | done a => trivial
  | fail e => trivial
  | ask st next ih => exact ih

theorem ensures_bind {x : Query α} {f : α → Query β} (hx : x.Ensures p)
    (hf : ∀ a, p a → (f a).Ensures q) : (x >>= f).Ensures q := by
  show (x.andThen f).Ensures q
  induction x with
  | done a => exact hf a hx
  | fail e => trivial
  | ask st next ih => exact fun rows => ih rows (hx rows)

/-- A step whose result does not matter. -/
theorem ensures_then {x : Query α} {f : α → Query β} (hf : ∀ a, (f a).Ensures q) :
    (x >>= f).Ensures q :=
  ensures_bind (ensures_true x) fun a _ => hf a

theorem ensures_ofExcept {x : Except Error α} (h : ∀ a, x = .ok a → p a) :
    (ofExcept x).Ensures p := by
  cases x with
  | ok a => exact h a rfl
  | error e => trivial

theorem run_ensures {x : Query α} (hx : x.Ensures p) {s : σ} {a : α}
    (h : (x.run source s).1 = .ok a) : p a := by
  induction x generalizing s with
  | done b => cases h; exact hx
  | fail e => cases h
  | ask st next ih =>
    simp only [run] at h
    split at h
    · cases h
    · exact ih _ (hx _) h

end Ensures

/-- Whatever the answers are, an error of the query's own has the property. -/
def FailsOnly (p : Error → Prop) : Query α → Prop
  | .done _ => True
  | .fail e => p e
  | .ask _ next => ∀ rows, (next rows).FailsOnly p

section FailsOnly
variable {p : Error → Prop}

theorem failsOnly_rows (st : Statement) : (rows st).FailsOnly p :=
  fun _ => trivial

theorem failsOnly_ofExcept {x : Except Error α} (h : SchemaCatalog.FailsOnly p x) :
    (ofExcept x).FailsOnly p := by
  cases x with
  | ok a => trivial
  | error e => exact h e rfl

theorem failsOnly_bind {x : Query α} {f : α → Query β} (hx : x.FailsOnly p)
    (hf : ∀ a, (f a).FailsOnly p) : (x >>= f).FailsOnly p := by
  show (x.andThen f).FailsOnly p
  induction x with
  | done a => exact hf a
  | fail e => exact hx
  | ask st next ih => exact fun rows => ih rows (hx rows)

theorem failsOnly_mapM {f : β → Query α} (hf : ∀ b, (f b).FailsOnly p) (l : List β) :
    (l.mapM f).FailsOnly p := by
  induction l with
  | nil => trivial
  | cons b rest ih =>
    rw [List.mapM_cons]
    exact failsOnly_bind (hf b) fun a => failsOnly_bind ih fun as => trivial

/-- An error of a run is one that the source gave, or the query's own. -/
theorem run_failsOnly {x : Query α} (hx : x.FailsOnly p) {s : σ} {e : Error}
    (h : (x.run source s).1 = .error e) :
    (∃ st u, (source.fetchAll st u).1 = .error e) ∨ p e := by
  induction x generalizing s with
  | done a => cases h
  | fail e' =>
    cases h
    exact .inr hx
  | ask st next ih =>
    rw [run] at h
    rcases hfetch : source.fetchAll st s with ⟨e' | rows, s'⟩ <;> rw [hfetch] at h
    · cases h
      exact .inl ⟨st, s, by rw [hfetch]⟩
    · exact ih rows (hx rows) h

end FailsOnly

end Query

/-! ## Streams -/

/-- The items up to the first error and including it. -/
def upToError : List (Except Error α) → List (Except Error α)
  | [] => []
  | .ok a :: rest => .ok a :: upToError rest
  | .error e :: _ => [.error e]

theorem mapM_id_upToError (items : List (Except Error α)) :
    (upToError items).mapM id = items.mapM id := by
  induction items with
  | nil => rfl
  | cons item rest ih =>
    cases item with
    | ok a => simp [upToError, ih]
    | error e => rfl

theorem mem_of_mem_upToError {item : Except Error α} {items : List (Except Error α)}
    (h : item ∈ upToError items) : item ∈ items := by
  induction items with
  | nil => exact h
  | cons first rest ih =>
    cases first with
    | ok a =>
      rcases List.mem_cons.1 h with rfl | h
      · simp
      · exact List.mem_cons_of_mem _ (ih h)
    | error e => simpa using .inl (List.mem_singleton.1 h)

/-- A value among these items stands at its place among all items. -/
theorem getElem?_of_upToError_ok {items : List (Except Error α)} {i : Nat} {a : α}
    (h : (upToError items)[i]? = some (.ok a)) : items[i]? = some (.ok a) := by
  induction items generalizing i with
  | nil => exact h
  | cons first rest ih =>
    cases first with
    | ok b =>
      cases i with
      | zero => exact h
      | succ i => exact ih h
    | error e => cases i <;> cases h

/-- As long as no error came, the next item is the one of all items. -/
theorem getElem?_upToError {items : List (Except Error α)} {i : Nat}
    (h : ∀ j < i, ∀ e, (upToError items)[j]? ≠ some (.error e)) :
    (upToError items)[i]? = items[i]? := by
  induction items generalizing i with
  | nil => rfl
  | cons first rest ih =>
    cases i with
    | zero => cases first <;> rfl
    | succ i =>
      cases first with
      | ok b => exact ih fun j hj => h (j + 1) (Nat.succ_lt_succ hj)
      | error e => exact absurd rfl (h 0 (Nat.succ_pos i) e)

/-- Behind an error there are no items. -/
theorem length_upToError {items : List (Except Error α)} {i : Nat} {e : Error}
    (h : (upToError items)[i]? = some (.error e)) : (upToError items).length = i + 1 := by
  induction items generalizing i with
  | nil => cases h
  | cons first rest ih =>
    cases first with
    | ok b =>
      cases i with
      | zero => cases h
      | succ i => exact congrArg (· + 1) (ih h)
    | error e' =>
      cases i with
      | zero => rfl
      | succ i => cases h

namespace ItemStream

variable (t : ItemStream σ κ α)

theorem drain_of_end {c c' : κ} {s s' : σ} (h : t.next c s = (none, c', s')) :
    t.drain c s = ([], s') := by
  rw [drain]
  split <;> simp_all

theorem drain_of_item {c c' : κ} {s s' : σ} {item : Except Error α}
    (h : t.next c s = (some item, c', s')) :
    t.drain c s = (item :: (t.drain c' s').1, (t.drain c' s').2) := by
  rw [drain]
  split <;> simp_all

theorem collect_of_end {c c' : κ} {s s' : σ} (h : t.next c s = (none, c', s')) :
    t.collect c s = (.ok [], s') := by
  rw [collect]
  split <;> simp_all

theorem collect_of_error {c c' : κ} {s s' : σ} {e : Error}
    (h : t.next c s = (some (.error e), c', s')) : t.collect c s = (.error e, s') := by
  rw [collect]
  split <;> simp_all

theorem collect_of_ok {c c' : κ} {s s' : σ} {a : α}
    (h : t.next c s = (some (.ok a), c', s')) :
    t.collect c s = ((t.collect c' s').1.map (a :: ·), (t.collect c' s').2) := by
  rw [collect]
  split <;> simp_all

theorem stopAfterError_next_end {c c' : κ} {s s' : σ} (h : t.next c s = (none, c', s')) :
    t.stopAfterError.next (c, false) s = (none, (c', false), s') := by
  simp [stopAfterError, h]

theorem stopAfterError_next_ok {c c' : κ} {s s' : σ} {a : α}
    (h : t.next c s = (some (.ok a), c', s')) :
    t.stopAfterError.next (c, false) s = (some (.ok a), (c', false), s') := by
  simp [stopAfterError, h, Except.isOk, Except.toBool]

theorem stopAfterError_next_error {c c' : κ} {s s' : σ} {e : Error}
    (h : t.next c s = (some (.error e), c', s')) :
    t.stopAfterError.next (c, false) s = (some (.error e), (c', true), s') := by
  simp [stopAfterError, h, Except.isOk, Except.toBool]

/-- Behind an error there are no items, but the pull that finds this out pulls the stream itself. -/
theorem drain_stopped (c : κ) (s : σ) :
    t.stopAfterError.drain (c, true) s = ([], (t.next c s).2.2) := by
  have hstop : t.stopAfterError.next (c, true) s =
      (none, ((t.next c s).2.1, true), (t.next c s).2.2) := by
    rcases hnext : t.next c s with ⟨_ | item, c', s'⟩ <;> simp [stopAfterError, hnext]
  exact drain_of_end _ hstop

/-- What holds at a place if it holds one pull later holds at every place: the items left are
bounded. -/
theorem pull_induction {p : κ → σ → Prop}
    (h : ∀ c s, (∀ item c' s', t.next c s = (some item, c', s') → p c' s') → p c s)
    (c : κ) (s : σ) : p c s := by
  induction hn : t.left c using Nat.strongRecOn generalizing c s with
  | _ n ih =>
    subst hn
    exact h c s fun item c' s' hnext => ih _ (t.left_next hnext) c' s' rfl

/-- What is collected are the values of the items, or the first error among them. -/
theorem collect_eq_mapM (c : κ) (s : σ) : (t.collect c s).1 = (t.drain c s).1.mapM id := by
  induction c, s using t.pull_induction with
  | h c s ih =>
    rcases hnext : t.next c s with ⟨_ | item, c', s'⟩
    · rw [t.collect_of_end hnext, t.drain_of_end hnext]
      rfl
    · rw [t.drain_of_item hnext, List.mapM_cons]
      cases item with
      | ok a =>
        rw [t.collect_of_ok hnext, ih _ c' s' hnext]
        cases (t.drain c' s').1.mapM id <;> rfl
      | error e =>
        rw [t.collect_of_error hnext]
        rfl

theorem collect_ofList (items : List (Except Error α)) (s : σ) :
    ofList.collect items s = (items.mapM id, s) := by
  induction items with
  | nil => exact collect_of_end _ rfl
  | cons item rest ih =>
    cases item with
    | ok a =>
      rw [collect_of_ok ofList (c := .ok a :: rest) rfl, ih, List.mapM_cons]
      cases rest.mapM id <;> rfl
    | error e => exact collect_of_error _ rfl

/-- A stream that stops after an error gives the items up to the first error. -/
theorem drain_stopAfterError (c : κ) (s : σ) :
    (t.stopAfterError.drain (c, false) s).1 = upToError (t.drain c s).1 := by
  induction c, s using t.pull_induction with
  | h c s ih =>
    rcases hnext : t.next c s with ⟨_ | ⟨e | a⟩, c', s'⟩
    · rw [t.drain_of_end hnext, drain_of_end _ (t.stopAfterError_next_end hnext)]
      rfl
    · rw [t.drain_of_item hnext, drain_of_item _ (t.stopAfterError_next_error hnext),
        drain_stopped]
      rfl
    · rw [t.drain_of_item hnext, drain_of_item _ (t.stopAfterError_next_ok hnext),
        ih _ c' s' hnext]
      rfl

end ItemStream

/-! ## Streams of tables -/

namespace TableStream

variable (source : RowSource σ κ)

theorem tables_next (q : Query Table) (rest : List (Query Table)) (s : σ) :
    (tables source).next (q :: rest) s = (some (q.run source s).1, rest, (q.run source s).2) := rfl

theorem drain_of_ok {t : TableStream} {s s' : σ} {queries : List (Query Table)}
    (h : t.run source s = (.ok queries, s')) :
    t.drain source s = (tables source).stopAfterError.drain (queries, false) s' := by
  simp [drain, h]

theorem drain_of_error {t : TableStream} {s s' : σ} {e : Error}
    (h : t.run source s = (.error e, s')) : t.drain source s = ([.error e], s') := by
  simp [drain, h]

/-- What is collected are the tables in the order of their names, or the first error. -/
theorem collect_eq_mapM (t : TableStream) (s : σ) :
    (t.collect source s).1 = ((t.drain source s).1.mapM id).map sortByName := by
  rcases h : t.run source s with ⟨e | queries, s'⟩
  · simp only [collect, h, drain_of_error source h]
    rfl
  · simp only [collect, h, drain_of_ok source h, ItemStream.collect_eq_mapM]

/-- Without the stop at an error every query gives an item. -/
theorem drain_tables_cons (q : Query Table) (rest : List (Query Table)) (s : σ) :
    (tables source).drain (q :: rest) s =
      ((q.run source s).1 :: ((tables source).drain rest (q.run source s).2).1,
        ((tables source).drain rest (q.run source s).2).2) :=
  ItemStream.drain_of_item _ (tables_next source q rest s)

theorem drain_tables_nil (s : σ) : (tables source).drain [] s = ([], s) :=
  ItemStream.drain_of_end _ rfl

/-- If the queries come to the same in every state, that is what is pulled. -/
theorem drain_tables_map {l : List β} {query : β → Query Table} {result : β → Except Error Table}
    (h : ∀ b ∈ l, ∀ s, ((query b).run source s).1 = result b) (s : σ) :
    ((tables source).drain (l.map query) s).1 = l.map result := by
  induction l generalizing s with
  | nil => rw [List.map_nil, drain_tables_nil, List.map_nil]
  | cons b rest ih =>
    have hrest := ih fun b' hb' => h b' (List.mem_cons_of_mem _ hb')
    rw [List.map_cons, drain_tables_cons, hrest, h b (by simp), List.map_cons]

/-- Whatever the answers are, every table of the extraction has the property. -/
theorem ensures_of_mem_drain {t : TableStream} {p : Table → Prop}
    (ht : t.Ensures fun queries => ∀ q ∈ queries, q.Ensures p) {s : σ} {x : Table}
    (h : .ok x ∈ (t.drain source s).1) : p x := by
  rcases hrun : t.run source s with ⟨e | queries, s'⟩
  · rw [drain_of_error source hrun] at h
    simp at h
  · rw [drain_of_ok source hrun, ItemStream.drain_stopAfterError] at h
    replace h := mem_of_mem_upToError h
    have hq := Query.run_ensures source ht (by rw [hrun])
    clear hrun
    induction queries generalizing s' with
    | nil => rw [drain_tables_nil] at h; cases h
    | cons q rest ih =>
      rw [drain_tables_cons] at h
      rcases List.mem_cons.1 h with h | h
      · exact Query.run_ensures source (hq q (by simp)) h.symm
      · exact ih _ h fun q' hq' => hq q' (List.mem_cons_of_mem _ hq')

/-- The tables that are collected are those of the extraction. -/
theorem mem_drain_of_mem_collect {t : TableStream} {s : σ} {ts : List Table}
    (h : (t.collect source s).1 = .ok ts) {x : Table} (hx : x ∈ ts) :
    .ok x ∈ (t.drain source s).1 := by
  rw [collect_eq_mapM] at h
  obtain ⟨values, hvalues, rfl⟩ := map_ok_iff.1 h
  obtain ⟨item, hitem, rfl⟩ := exists_of_mem_mapM hvalues (List.mem_mergeSort.1 hx)
  exact hitem

section Pulls
variable {q : Query Table} {rest : List (Query Table)} {s s' : σ}

theorem drain_stopped_nil (s : σ) :
    (tables source).stopAfterError.drain ([], false) s = ([], s) :=
  ItemStream.drain_of_end _ rfl

theorem drain_stopped_ok {t : Table} (h : q.run source s = (.ok t, s')) :
    (tables source).stopAfterError.drain (q :: rest, false) s =
      (.ok t :: ((tables source).stopAfterError.drain (rest, false) s').1,
        ((tables source).stopAfterError.drain (rest, false) s').2) := by
  refine ItemStream.drain_of_item _ (ItemStream.stopAfterError_next_ok _ ?_)
  rw [tables_next, h]

/-- After the query that failed one more query is run before the stream ends. -/
theorem drain_stopped_error {e : Error} (h : q.run source s = (.error e, s')) :
    (tables source).stopAfterError.drain (q :: rest, false) s =
      ([.error e], match rest with | [] => s' | next :: _ => (next.run source s').2) := by
  rw [ItemStream.drain_of_item _ (ItemStream.stopAfterError_next_error _ (by rw [tables_next, h])),
    ItemStream.drain_stopped]
  cases rest <;> rfl

end Pulls

end TableStream

end SchemaCatalog
