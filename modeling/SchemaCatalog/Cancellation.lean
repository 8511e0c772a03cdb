import SchemaCatalog.RowSource
/-!
# Cancellation

A token tells whether a run is to stop. Another party may cancel it at any time; here it is only
seen when it is looked at, so a token that will be cancelled shows nothing for a number of looks and
says so from then on. A source under a token looks at it before every statement and before every
row. Once it is cancelled no statement reaches the source behind it, and every answer that has not
ended gives one more item, `Error.cancelled`, and ends.
-/

namespace SchemaCatalog

/-- A request to stop. -/
structure Token where
  /-- The number of looks that still show nothing; none if the token is never cancelled. -/
  quietLooks? : Option Nat
deriving DecidableEq, Repr

namespace Token

/-- A token that nobody has cancelled. -/
def idle : Token := ⟨none⟩

/-- A token that has been cancelled. -/
def cancelled : Token := ⟨some 0⟩

/-- The next look shows that the token is cancelled. -/
def isCancelled (t : Token) : Bool :=
  t.quietLooks? = some 0

/-- Looks at the token. -/
def look (t : Token) : Bool × Token :=
  (t.isCancelled, ⟨t.quietLooks?.map (· - 1)⟩)

end Token

namespace ItemStream

variable {σ κ α : Type}

/-- The stream under a token. The place is absent once the stream has ended. -/
def cancellable (t : ItemStream (Token × σ) κ α) : ItemStream (Token × σ) (Option κ) α where
  next
    | none, s => (none, none, s)
    | some c, s =>
      match s.1.look with
      | (true, token) => (some (.error .cancelled), none, (token, s.2))
      | (false, token) =>
        match t.next c (token, s.2) with
        | (none, _, s') => (none, none, s')
        | (some item, c', s') => (some item, some c', s')
  left
    | none => 0
    | some c => t.left c + 1
  left_next := by
    intro c c' s s' item h
    cases c with
    | none => simp at h
    | some c =>
      simp only at h
      split at h
      · simp only [Prod.mk.injEq] at h
        simp [← h.2.1]
      · rename_i token _
        split at h
        · simp at h
        · rename_i hn
          simp only [Prod.mk.injEq] at h
          rw [← h.2.1]
          exact Nat.succ_lt_succ (t.left_next hn)

end ItemStream

namespace RowSource

variable {σ κ : Type}

/-- The source under a token. -/
def cancellable (source : RowSource (Token × σ) κ) : RowSource (Token × σ) (Option κ) where
  driverName := source.driverName
  start statement s :=
    match s.1.look with
    | (true, token) => (.error .cancelled, (token, s.2))
    | (false, token) =>
      match source.start statement (token, s.2) with
      | (.error e, s') => (.error e, s')
      | (.ok c, s') => (.ok (some c), s')
  answers := source.answers.cancellable

end RowSource

end SchemaCatalog
