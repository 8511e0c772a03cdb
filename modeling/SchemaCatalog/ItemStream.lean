import SchemaCatalog.Error
/-!
# Streams of items

A stream is pulled item by item. A pull may change the state of the world behind the stream, and
every item pulled leaves fewer for later, so a stream that is pulled again and again ends. An item
is a value or an error; an error does not end a stream by itself.
-/

namespace SchemaCatalog

/-- Streams of `α` over a state `σ`; a `κ` is a place in a stream. -/
structure ItemStream (σ κ α : Type) where
  /-- Pulls the next item, if there is one. -/
  next : κ → σ → Option (Except Error α) × κ × σ
  /-- A bound on the number of items that are left. -/
  left : κ → Nat
  left_next : ∀ {c c' : κ} {s s' : σ} {item : Except Error α},
    next c s = (some item, c', s') → left c' < left c

namespace ItemStream

variable {σ κ α : Type}

/-- All items that are left. -/
def drain (t : ItemStream σ κ α) (c : κ) (s : σ) : List (Except Error α) × σ :=
  match _h : t.next c s with
  | (none, _, s) => ([], s)
  | (some item, c, s) =>
    let (items, s) := t.drain c s
    (item :: items, s)
termination_by t.left c
decreasing_by exact t.left_next ‹_›

/-- The values that are left, or the first error; nothing is pulled after an error. -/
def collect (t : ItemStream σ κ α) (c : κ) (s : σ) : Except Error (List α) × σ :=
  match _h : t.next c s with
  | (none, _, s) => (.ok [], s)
  | (some (.error e), _, s) => (.error e, s)
  | (some (.ok a), c, s) =>
    let (rest, s) := t.collect c s
    (rest.map (a :: ·), s)
termination_by t.left c
decreasing_by exact t.left_next ‹_›

/-- The stream up to its first error. That the stream ends is noticed at the next pull, which still
pulls one item behind the error and drops it. -/
def stopAfterError (t : ItemStream σ κ α) : ItemStream σ (κ × Bool) α where
  next c s :=
    match t.next c.1 s with
    | (none, c', s') => (none, (c', c.2), s')
    | (some item, c', s') =>
      if c.2 then (none, (c', true), s') else (some item, (c', !item.isOk), s')
  left c := t.left c.1
  left_next := by
    intro c c' s s' item h
    split at h
    · simp at h
    · rename_i item' d t' hn
      split at h
      · simp at h
      · simp only [Prod.mk.injEq] at h
        rw [← h.2.1]
        exact t.left_next hn

/-- The items of a list, one after the other. -/
def ofList : ItemStream σ (List (Except Error α)) α where
  next
    | [], s => (none, [], s)
    | item :: rest, s => (some item, rest, s)
  left := List.length
  left_next := by
    intro c c' s s' item h
    cases c with
    | nil => simp at h
    | cons a rest =>
      simp only [Prod.mk.injEq] at h
      simp [← h.2.1]

end ItemStream

end SchemaCatalog
