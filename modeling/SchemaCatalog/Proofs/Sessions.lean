import Mathlib
import SchemaCatalog.Proofs.StatementsAsked
/-!
# Sources in use

Whoever holds a source may have several of its streams open, pull on any of them in any order and
ask for more. A session is a source in use in this way, with whatever else may happen to its state
in between. Each stream gives its items in the order of the pulls on it (`Session.delivered`), and
the statements that reach the source can be recorded, which changes nothing else
(`Session.run_logged`).
-/

namespace SchemaCatalog

variable {σ κ : Type}

namespace Session

/-- What can be done with a source. Streams are numbered in the order in which they were opened. -/
inductive Action where
  | ask (statement : Statement)
  | pull (stream : Nat)
  | cancel
deriving DecidableEq

/-- The statement that is asked. -/
def Action.statement? : Action → Option Statement
  | .ask statement => some statement
  | _ => none

/-- What comes of it. -/
inductive Outcome where
  | opened
  | refused (e : Error)
  | item (x : Except Error Row)
  | ended
  | cancelled

/-- The row or the error that a stream gave. -/
def Outcome.item? : Outcome → Option (Except Error Row)
  | .item x => some x
  | _ => none

end Session

/-- A source in use: its state, and the places in its streams. A stream that has reported its end
has no place any more. -/
structure Session (σ κ : Type) where
  state : σ
  streams : List (Option κ)

namespace Session

/-- The stream was opened and has not reported its end. -/
def IsLive (d : Session σ κ) (i : Nat) : Prop :=
  ∃ c, d.streams[i]? = some (some c)

/-- One step. Nobody pulls on a stream that was not opened or has reported its end. -/
def step (source : RowSource σ κ) (cancel : σ → σ) (g : Session σ κ) :
    Action → Option (Outcome × Session σ κ)
  | .ask statement =>
    match source.start statement g.state with
    | (.error e, s) => some (.refused e, ⟨s, g.streams⟩)
    | (.ok c, s) => some (.opened, ⟨s, g.streams ++ [some c]⟩)
  | .pull i =>
    match g.streams[i]? with
    | some (some c) =>
      match source.answers.next c g.state with
      | (none, _, s) => some (.ended, ⟨s, g.streams.set i none⟩)
      | (some x, c', s) => some (.item x, ⟨s, g.streams.set i (some c')⟩)
    | _ => none
  | .cancel => some (.cancelled, ⟨cancel g.state, g.streams⟩)

/-- Several steps, if each of them can be made. -/
def run (source : RowSource σ κ) (cancel : σ → σ) :
    List Action → Session σ κ → Option (List Outcome × Session σ κ)
  | [], g => some ([], g)
  | a :: rest, g =>
    match g.step source cancel a with
    | none => none
    | some (o, g') => (run source cancel rest g').map fun (os, g'') => (o :: os, g'')

/-- What came of the pulls on one stream. -/
def pullsOf (i : Nat) (actions : List Action) (outcomes : List Outcome) : List Outcome :=
  ((actions.zip outcomes).filter (·.1 = .pull i)).map (·.2)

/-- The rows and errors that one stream gave. -/
def delivered (i : Nat) (actions : List Action) (outcomes : List Outcome) :
    List (Except Error Row) :=
  (pullsOf i actions outcomes).filterMap Outcome.item?

section Runs
variable {source : RowSource σ κ} {cancel : σ → σ} {g g' : Session σ κ} {a : Action}
  {as bs : List Action} {os : List Outcome}

theorem exists_step (source : RowSource σ κ) (cancel : σ → σ) (h : ∀ i, a = .pull i → g.IsLive i) :
    ∃ o u, g.step source cancel a = some (o, u) := by
  cases a with
  | ask statement =>
    rcases hstart : source.start statement g.state with ⟨e | c, s⟩ <;> simp [step, hstart]
  | pull i =>
    obtain ⟨c, hplace⟩ := h i rfl
    rcases hnext : source.answers.next c g.state with ⟨_ | x, c', s⟩ <;> simp [step, hplace, hnext]
  | cancel => exact ⟨_, _, rfl⟩

theorem run_cons_eq_some_iff :
    run source cancel (a :: as) g = some (os, g') ↔
      ∃ o u os', g.step source cancel a = some (o, u) ∧
        run source cancel as u = some (os', g') ∧ os = o :: os' := by
  rw [run]
  cases hstep : g.step source cancel a with
  | none => simp
  | some result =>
    obtain ⟨o, u⟩ := result
    simp only [Option.map_eq_some_iff, Option.some.injEq, Prod.mk.injEq]
    constructor
    · rintro ⟨⟨os', u'⟩, hrun, rfl, rfl⟩
      exact ⟨o, u, os', ⟨rfl, rfl⟩, hrun, rfl⟩
    · rintro ⟨_, _, os', ⟨rfl, rfl⟩, hrun, rfl⟩
      exact ⟨(os', g'), hrun, rfl, rfl⟩

theorem run_append_eq_some_iff : run source cancel (as ++ bs) g = some (os, g') ↔
    ∃ os₁ u os₂, run source cancel as g = some (os₁, u) ∧
      run source cancel bs u = some (os₂, g') ∧ os = os₁ ++ os₂ := by
  induction as generalizing g os with
  | nil => simp [run]
  | cons a as ih =>
    rw [List.cons_append, run_cons_eq_some_iff]
    constructor
    · rintro ⟨o, u, os', hstep, hrun, rfl⟩
      obtain ⟨os₁, u', os₂, has, hbs, rfl⟩ := ih.1 hrun
      exact ⟨o :: os₁, u', os₂, run_cons_eq_some_iff.2 ⟨o, u, os₁, hstep, has, rfl⟩, hbs, rfl⟩
    · rintro ⟨os₁, u', os₂, has, hbs, rfl⟩
      obtain ⟨o, u, os', hstep, hrun, rfl⟩ := run_cons_eq_some_iff.1 has
      exact ⟨o, u, os' ++ os₂, hstep, ih.2 ⟨os', u', os₂, hrun, hbs, rfl⟩, rfl⟩

theorem length_of_run (h : run source cancel as g = some (os, g')) : os.length = as.length := by
  induction as generalizing g os with
  | nil =>
    cases h
    rfl
  | cons a as ih =>
    obtain ⟨o, u, os', -, hrun, rfl⟩ := run_cons_eq_some_iff.1 h
    rw [List.length_cons, List.length_cons, ih hrun]

end Runs

section Pulls
variable (i : Nat) {as bs : List Action} {os os' : List Outcome}

theorem pullsOf_cons (a : Action) (o : Outcome) :
    pullsOf i (a :: as) (o :: os) = (if a = .pull i then [o] else []) ++ pullsOf i as os := by
  simp only [pullsOf, List.zip_cons_cons, List.filter_cons, decide_eq_true_eq]
  split <;> rfl

theorem pullsOf_append (h : os.length = as.length) :
    pullsOf i (as ++ bs) (os ++ os') = pullsOf i as os ++ pullsOf i bs os' := by
  simp only [pullsOf, List.zip_append h.symm, List.filter_append, List.map_append]

theorem delivered_append (h : os.length = as.length) :
    delivered i (as ++ bs) (os ++ os') = delivered i as os ++ delivered i bs os' := by
  rw [delivered, pullsOf_append i h, List.filterMap_append, delivered, delivered]

/-- What a stream gave stays if the session goes on. -/
theorem delivered_isPrefix_of_run {source : RowSource σ κ} {cancel : σ → σ} {g g₁ g₂ : Session σ κ}
    (has : run source cancel as g = some (os, g₁))
    (h : run source cancel (as ++ bs) g = some (os', g₂)) :
    delivered i as os <+: delivered i (as ++ bs) os' := by
  obtain ⟨os₁, _, os₂, has', -, rfl⟩ := run_append_eq_some_iff.1 h
  cases has.symm.trans has'
  rw [delivered_append i (length_of_run has)]
  exact List.prefix_append _ _

theorem length_pullsOf (h : os.length = as.length) :
    (pullsOf i as os).length = as.count (.pull i) := by
  have hfirst : (as.zip os).map (·.1) = as := List.map_fst_zip (by omega)
  rw [pullsOf, List.length_map, ← List.countP_eq_length_filter, List.count]
  conv_rhs => rw [← hfirst, List.countP_map]
  rfl

end Pulls

/-! ## The record of a session -/

/-- The session with a record of the statements that its source was asked. -/
def logged (d : Session σ κ) (log : List Statement) : Session (σ × List Statement) κ :=
  ⟨(d.state, log), d.streams⟩

theorem step_logged (source : RowSource σ κ) (d : Session σ κ) (log : List Statement)
    (a : Action) :
    (d.logged log).step source.logged id a =
      (d.step source id a).map fun (o, d') => (o, d'.logged (log ++ a.statement?.toList)) := by
  cases a with
  | ask statement =>
    rcases hstart : source.start statement d.state with ⟨e | c, s'⟩ <;>
      simp [step, logged, RowSource.logged, Action.statement?, hstart]
  | pull i =>
    rcases hplace : d.streams[i]? with _ | _ | c
    · simp [step, logged, hplace]
    · simp [step, logged, hplace]
    · rcases hnext : source.answers.next c d.state with ⟨_ | x, c', s'⟩ <;>
        simp [step, logged, RowSource.logged, ItemStream.beside, Action.statement?, hplace, hnext]
  | cancel => simp [step, logged, Action.statement?]

/-- A source that keeps a record is used as ever, and what it is asked is recorded. -/
theorem run_logged (source : RowSource σ κ) (as : List Action) (d : Session σ κ)
    (log : List Statement) :
    run source.logged id as (d.logged log) =
      (run source id as d).map fun (os, d') =>
        (os, d'.logged (log ++ as.filterMap Action.statement?)) := by
  induction as generalizing d log with
  | nil => simp [run]
  | cons a as ih =>
    rw [run, run, step_logged]
    cases d.step source id a with
    | none => rfl
    | some result =>
      obtain ⟨o, d'⟩ := result
      simp only [Option.map_some, ih, Option.map_map, Function.comp_def, List.append_assoc,
        List.filterMap_cons]
      cases a.statement? <;> rfl

end Session

end SchemaCatalog
