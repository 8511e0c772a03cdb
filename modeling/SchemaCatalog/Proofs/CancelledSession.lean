import Mathlib
import SchemaCatalog.Cancellation
import SchemaCatalog.Proofs.OwnRows
import SchemaCatalog.Proofs.Sessions
/-!
# Sources in use under a token

While a source is in use its token may be cancelled at any time. Up to the cancellation a source
under a token gives what the source itself gives if it is used in the same way
(`Session.run_guard`). From then on nothing reaches the source any more: every statement is
refused, and every stream that has not ended tells of the cancellation once and ends
(`Session.left_of_run`). Both parts make up any use of it (`Session.CutOff`).
-/

namespace SchemaCatalog

variable {σ κ : Type}

/-! ## Sources without a token of their own -/

/-- The stream with a token in front of its state, which it does not touch. -/
def ItemStream.withToken {α : Type} (t : ItemStream σ κ α) : ItemStream (Token × σ) κ α where
  next c s := ((t.next c s.2).1, (t.next c s.2).2.1, (s.1, (t.next c s.2).2.2))
  left := t.left
  left_next := by
    intro c c' s s' item h
    simp only [Prod.mk.injEq] at h
    obtain ⟨hitem, hplace, -⟩ := h
    rw [← hplace]
    exact t.left_next (Prod.ext hitem rfl)

/-- The source with a token in front of its state, which it does not touch. -/
def RowSource.withToken (source : RowSource σ κ) : RowSource (Token × σ) κ where
  driverName := source.driverName
  start statement s := ((source.start statement s.2).1, (s.1, (source.start statement s.2).2))
  answers := source.answers.withToken

namespace Session

/-! ## Up to the cancellation -/

/-- Cancels the token of a source under a token. -/
def cancelToken (s : Token × σ) : Token × σ := (.cancelled, s.2)

/-- The session under a token that nobody has cancelled. -/
def guard (d : Session σ κ) : Session (Token × σ) (Option κ) :=
  ⟨(.idle, d.state), d.streams.map (Option.map some)⟩

/-- A step under the token is one without it. -/
theorem step_guard (source : RowSource σ κ) (d : Session σ κ) {a : Action} (ha : a ≠ .cancel) :
    (guard d).step source.withToken.cancellable cancelToken a =
      (d.step source id a).map fun (o, d') => (o, guard d') := by
  have hquiet : Token.idle.look = (false, Token.idle) := rfl
  cases a with
  | ask statement =>
    rcases hstart : source.start statement d.state with ⟨e | c, s'⟩ <;>
      simp [step, guard, RowSource.cancellable, RowSource.withToken, hquiet, hstart]
  | pull i =>
    rcases hplace : d.streams[i]? with _ | _ | c
    · simp [step, guard, hplace]
    · simp [step, guard, hplace]
    · rcases hnext : source.answers.next c d.state with ⟨_ | x, c', s'⟩ <;>
        simp [step, guard, RowSource.cancellable, RowSource.withToken, ItemStream.cancellable,
          ItemStream.withToken, hquiet, hplace, hnext, List.map_set]
  | cancel => exact absurd rfl ha

/-- Until the cancellation the source under the token is used as if there were no token. -/
theorem run_guard (source : RowSource σ κ) {as : List Action} (h : .cancel ∉ as)
    (d : Session σ κ) :
    run source.withToken.cancellable cancelToken as (guard d) =
      (run source id as d).map fun (os, d') => (os, guard d') := by
  induction as generalizing d with
  | nil => rfl
  | cons a as ih =>
    obtain ⟨ha, has⟩ := List.mem_cons.not.trans not_or |>.1 h
    rw [run, run, step_guard source d (Ne.symm ha)]
    cases d.step source id a with
    | none => rfl
    | some result =>
      simp only [Option.map_some, ih has, Option.map_map, Function.comp_def]

/-! ## From the cancellation on -/

/-- What the pulls on a stream still give after the cancellation, by its place. A stream that was
never opened, or has reported its end, is not pulled on. -/
def left : Option (Option (Option κ)) → List Outcome
  | some (some (some _)) => [.item (.error .cancelled), .ended]
  | some (some none) => [.ended]
  | _ => []

/-- Moving one stream from a place to the next takes one item from that stream. -/
theorem left_set {streams : List (Option (Option κ))} {j : Nat} {place place' : Option (Option κ)}
    {o : Outcome} (hplace : streams[j]? = some place)
    (hleft : left (some place) = o :: left (some place')) (i : Nat) :
    left streams[i]? =
      (if Action.pull j = .pull i then [o] else []) ++ left (streams.set j place')[i]? := by
  have hj : j < streams.length := (List.getElem?_eq_some_iff.1 hplace).1
  by_cases hi : j = i
  · subst hi
    rw [if_pos rfl, hplace, hleft, List.getElem?_set_self hj]
    rfl
  · rw [if_neg (by simpa using hi), List.getElem?_set_ne hi, List.nil_append]

theorem isLive_of_left_ne_nil {g : Session σ (Option κ)} {i : Nat}
    (h : left g.streams[i]? ≠ []) : g.IsLive i := by
  rcases hplace : g.streams[i]? with _ | _ | place
  · simp [hplace, left] at h
  · simp [hplace, left] at h
  · exact ⟨place, hplace⟩

section Cancelled
variable {source : RowSource (Token × σ) κ} {g g' : Session (Token × σ) (Option κ)}
  {a : Action} {as : List Action} {o : Outcome} {os : List Outcome}

/-- Nothing reaches the source behind a cancelled token, and what the streams still give becomes
less by what is pulled. -/
theorem step_of_cancelled (hcancelled : g.state.1 = .cancelled)
    (h : g.step source.cancellable cancelToken a = some (o, g')) :
    g'.state = g.state ∧ (a.statement?.isSome → o = .refused .cancelled) ∧
      ∀ i, left g.streams[i]? = (if a = .pull i then [o] else []) ++ left g'.streams[i]? := by
  obtain ⟨⟨token, s⟩, streams⟩ := g
  obtain rfl : token = .cancelled := hcancelled
  have hseen : Token.cancelled.look = (true, Token.cancelled) := rfl
  cases a with
  | ask statement =>
    simp only [step, RowSource.cancellable, hseen] at h
    cases h
    simp
  | pull j =>
    rcases hplace : streams[j]? with _ | _ | _ | c <;>
      simp only [step, hplace, RowSource.cancellable, ItemStream.cancellable, hseen] at h <;>
      cases h
    · exact ⟨rfl, by simp [Action.statement?], left_set hplace rfl⟩
    · exact ⟨rfl, by simp [Action.statement?], left_set hplace rfl⟩
  | cancel =>
    simp only [step, cancelToken] at h
    cases h
    simp [Action.statement?]

/-- A session that is cancelled ends: every statement is refused, and every stream is at its last
items. -/
theorem left_of_run (hcancelled : g.state.1 = .cancelled)
    (h : run source.cancellable cancelToken as g = some (os, g')) :
    g'.state = g.state ∧
      (∀ x ∈ as.zip os, x.1.statement?.isSome → x.2 = .refused .cancelled) ∧
      ∀ i, left g.streams[i]? = pullsOf i as os ++ left g'.streams[i]? := by
  induction as generalizing g os with
  | nil =>
    cases h
    simp [pullsOf]
  | cons a as ih =>
    obtain ⟨o, u, os', hstep, hrun, rfl⟩ := run_cons_eq_some_iff.1 h
    obtain ⟨hstate, hrefused, hleft⟩ := step_of_cancelled hcancelled hstep
    obtain ⟨hstate', hrefused', hleft'⟩ := ih (hstate ▸ hcancelled) hrun
    refine ⟨hstate'.trans hstate, ?_, fun i => ?_⟩
    · rw [List.zip_cons_cons]
      exact List.forall_mem_cons.2 ⟨hrefused, hrefused'⟩
    · rw [hleft i, hleft' i, pullsOf_cons, List.append_assoc]

variable (source as) in
/-- After the cancellation a stream can be pulled on until it has ended. -/
theorem run_isSome_of_cancelled (hcancelled : g.state.1 = .cancelled) :
    (run source.cancellable cancelToken as g).isSome ↔
      ∀ i, as.count (.pull i) ≤ (left g.streams[i]?).length := by
  constructor
  · intro h i
    obtain ⟨⟨os, g'⟩, hrun⟩ := Option.isSome_iff_exists.1 h
    rw [(left_of_run hcancelled hrun).2.2 i, List.length_append,
      length_pullsOf i (length_of_run hrun)]
    exact Nat.le_add_right _ _
  · intro h
    induction as generalizing g with
    | nil => rfl
    | cons a as ih =>
      have hlive : ∀ i, a = .pull i → g.IsLive i := by
        rintro i rfl
        refine isLive_of_left_ne_nil fun hnil => ?_
        have hcount := h i
        rw [hnil, List.count_cons_self] at hcount
        exact absurd hcount (by simp)
      obtain ⟨o, u, hstep⟩ := exists_step source.cancellable cancelToken hlive
      obtain ⟨hstate, -, hleft⟩ := step_of_cancelled hcancelled hstep
      have hrest : ∀ i, as.count (.pull i) ≤ (left u.streams[i]?).length := fun i => by
        have hcount := h i
        rw [hleft i, List.count_cons, List.length_append] at hcount
        by_cases ha : a = .pull i <;> simp [ha] at hcount <;> omega
      simpa [run, hstep] using ih (hstate ▸ hcancelled) hrest

end Cancelled

/-! ## Any use of a source under a token -/

/-- What is done before the first cancellation. -/
def upToCancel (actions : List Action) : List Action :=
  actions.takeWhile (· ≠ .cancel)

/-- What is done from the first cancellation on. -/
def fromCancel (actions : List Action) : List Action :=
  actions.dropWhile (· ≠ .cancel)

theorem cancel_not_mem_upToCancel (actions : List Action) : .cancel ∉ upToCancel actions :=
  fun h => by simpa using List.mem_takeWhile_imp h

theorem fromCancel_eq (actions : List Action) :
    fromCancel actions = [] ∨ ∃ rest, fromCancel actions = .cancel :: rest := by
  rcases h : fromCancel actions with _ | ⟨a, rest⟩
  · exact .inl rfl
  · refine .inr ⟨rest, ?_⟩
    have ha := List.head?_dropWhile_not (· ≠ Action.cancel) actions
    rw [← fromCancel, h] at ha
    simpa using ha

theorem upToCancel_append_fromCancel (actions : List Action) :
    upToCancel actions ++ fromCancel actions = actions :=
  List.takeWhile_append_dropWhile

/-- The source is used under a token that nobody has cancelled yet, and the statements that reach it
are recorded. -/
def underToken (source : RowSource σ κ) (s : σ) (actions : List Action) :
    Option (List Outcome × Session (Token × σ × List Statement) (Option κ)) :=
  run source.logged.withToken.cancellable cancelToken actions ⟨(.idle, (s, [])), []⟩

theorem underToken_eq_some_iff {source : RowSource σ κ} {s : σ} {actions : List Action}
    {outcomes : List Outcome} {g : Session (Token × σ × List Statement) (Option κ)} :
    underToken source s actions = some (outcomes, g) ↔
      ∃ quiet d behind, run source id (upToCancel actions) ⟨s, []⟩ = some (quiet, d) ∧
        run source.logged.withToken.cancellable cancelToken (fromCancel actions)
          (guard (d.logged ((upToCancel actions).filterMap Action.statement?))) =
            some (behind, g) ∧ outcomes = quiet ++ behind := by
  have hstart : (⟨(.idle, (s, [])), []⟩ : Session (Token × σ × List Statement) (Option κ)) =
      guard (logged ⟨s, []⟩ []) := rfl
  conv_lhs => rw [underToken, ← upToCancel_append_fromCancel actions, hstart]
  simp only [run_append_eq_some_iff, run_guard _ (cancel_not_mem_upToCancel actions), run_logged,
    Option.map_map, Option.map_eq_some_iff, Function.comp_def, Prod.mk.injEq, List.nil_append]
  constructor
  · rintro ⟨_, _, behind, ⟨⟨quiet, d⟩, hquiet, rfl, rfl⟩, hbehind, rfl⟩
    exact ⟨quiet, d, behind, hquiet, hbehind, rfl⟩
  · rintro ⟨quiet, d, behind, hquiet, hbehind, rfl⟩
    exact ⟨quiet, _, behind, ⟨⟨quiet, d⟩, hquiet, rfl, rfl⟩, hbehind, rfl⟩

theorem left_guard_of_isLive {d : Session σ κ} {i : Nat} (h : d.IsLive i) :
    left (guard d).streams[i]? = [.item (.error .cancelled), .ended] := by
  obtain ⟨c, hplace⟩ := h
  simp [guard, hplace, left]

theorem left_guard_of_not_isLive {d : Session σ κ} {i : Nat} (h : ¬ d.IsLive i) :
    left (guard d).streams[i]? = [] := by
  rcases hplace : d.streams[i]? with _ | _ | c
  · simp [guard, hplace, left]
  · simp [guard, hplace, left]
  · exact absurd ⟨c, hplace⟩ h

theorem count_le_length_left_guard {as : List Action} {d : Session σ κ} {i : Nat} :
    as.count (.pull i) ≤ (left (guard d).streams[i]?).length ↔
      (.pull i ∈ as → d.IsLive i ∧ as.count (.pull i) ≤ 2) := by
  by_cases hlive : d.IsLive i
  · rw [left_guard_of_isLive hlive]
    by_cases hmem : .pull i ∈ as
    · simp [hmem, hlive]
    · simp [hmem, List.count_eq_zero_of_not_mem hmem]
  · simp [left_guard_of_not_isLive hlive, hlive, List.count_eq_zero]

section FromCancel
variable {source : RowSource (Token × σ) κ} {d : Session σ κ} {actions : List Action}

theorem run_fromCancel {os : List Outcome} {g : Session (Token × σ) (Option κ)}
    (h : run source.cancellable cancelToken (fromCancel actions) (guard d) = some (os, g)) :
    g.state.2 = d.state ∧
      (∀ x ∈ (fromCancel actions).zip os, x.1.statement?.isSome → x.2 = .refused .cancelled) ∧
      ∀ i, pullsOf i (fromCancel actions) os <+: left (guard d).streams[i]? := by
  obtain hnil | ⟨rest, hcons⟩ := fromCancel_eq actions
  · rw [hnil] at h ⊢
    cases h
    exact ⟨rfl, nofun, fun _ => List.nil_prefix⟩
  · rw [hcons, run_cons_eq_some_iff] at h
    obtain ⟨o, u, os, hstep, hrun, rfl⟩ := h
    cases hstep
    obtain ⟨hstate, hrefused, hleft⟩ := left_of_run rfl hrun
    rw [hcons, List.zip_cons_cons]
    refine ⟨by rw [hstate]; rfl, List.forall_mem_cons.2 ⟨nofun, hrefused⟩, fun i => ?_⟩
    rw [pullsOf_cons, if_neg nofun, List.nil_append]
    exact ⟨_, (hleft i).symm⟩

variable (source d actions) in
theorem run_fromCancel_isSome :
    (run source.cancellable cancelToken (fromCancel actions) (guard d)).isSome ↔
      ∀ i, (fromCancel actions).count (.pull i) ≤ (left (guard d).streams[i]?).length := by
  obtain hnil | ⟨rest, hcons⟩ := fromCancel_eq actions
  · simp [hnil, run]
  · have hrun := run_isSome_of_cancelled source rest
      (g := ⟨cancelToken (guard d).state, (guard d).streams⟩) rfl
    simpa [hcons, run, step, cancelToken, List.count_cons] using hrun

/-- What the pulls on one stream come to from the cancellation on. -/
theorem pullsOf_fromCancel {os : List Outcome} {g : Session (Token × σ) (Option κ)}
    (h : run source.cancellable cancelToken (fromCancel actions) (guard d) = some (os, g))
    (i : Nat) : pullsOf i (fromCancel actions) os =
      [.item (.error .cancelled), .ended].take ((fromCancel actions).count (.pull i)) := by
  have hlength := length_pullsOf i (length_of_run h)
  have hleft := (run_fromCancel h).2.2 i
  by_cases hlive : d.IsLive i
  · rw [left_guard_of_isLive hlive, List.prefix_iff_eq_take, hlength] at hleft
    exact hleft
  · rw [left_guard_of_not_isLive hlive, List.prefix_nil] at hleft
    rw [hleft] at hlength ⊢
    rw [← hlength]
    rfl

/-- What a stream still gives from the cancellation on. -/
theorem delivered_fromCancel {os : List Outcome} {g : Session (Token × σ) (Option κ)}
    (h : run source.cancellable cancelToken (fromCancel actions) (guard d) = some (os, g))
    (i : Nat) : delivered i (fromCancel actions) os =
      if .pull i ∈ fromCancel actions then [.error .cancelled] else [] := by
  rw [delivered, pullsOf_fromCancel h]
  split
  · rename_i hmem
    obtain ⟨n, hn⟩ := Nat.exists_eq_succ_of_ne_zero (List.count_pos_iff.2 hmem).ne'
    rw [hn, List.take_succ_cons]
    cases n with
    | zero => rfl
    | succ n =>
      rw [List.take_succ_cons, List.take_nil]
      rfl
  · rename_i hmem
    rw [List.count_eq_zero.2 hmem]
    rfl

end FromCancel

/-- How a source was used under a token: what was done before the cancellation came to `quiet` and
left the source as in `d`, and the rest came to `behind`. -/
structure CutOff (source : RowSource σ κ) (s : σ) (actions : List Action)
    (outcomes : List Outcome) (g : Session (Token × σ × List Statement) (Option κ))
    (quiet behind : List Outcome) (d : Session σ κ) : Prop where
  outcomes_eq : outcomes = quiet ++ behind
  length_quiet : quiet.length = (upToCancel actions).length
  length_behind : behind.length = (fromCancel actions).length
  /-- Before the cancellation the source is used as if there were no token. -/
  run_quiet : run source id (upToCancel actions) ⟨s, []⟩ = some (quiet, d)
  /-- From then on every statement is refused. -/
  refused : ∀ x ∈ (fromCancel actions).zip behind,
    x.1.statement?.isSome → x.2 = .refused .cancelled
  /-- Every stream that is still pulled on tells of the cancellation once and ends. -/
  pulls : ∀ i, pullsOf i (fromCancel actions) behind =
    [.item (.error .cancelled), .ended].take ((fromCancel actions).count (.pull i))
  /-- So a stream gives what it gave before the cancellation, and at most the cancellation then. -/
  delivered_eq : ∀ i, delivered i actions outcomes =
    delivered i (upToCancel actions) quiet ++
      if .pull i ∈ fromCancel actions then [.error .cancelled] else []
  /-- What it gave before is the beginning of what the source gives, however it is used further. -/
  delivered_isPrefix : ∀ further os d',
    run source id (upToCancel actions ++ further) ⟨s, []⟩ = some (os, d') →
      ∀ i, delivered i (upToCancel actions) quiet <+: delivered i (upToCancel actions ++ further) os
  /-- The source is asked what was asked before the cancellation, and nothing happens to it later.
  -/
  state_eq : g.state.2 = (d.state, (upToCancel actions).filterMap Action.statement?)

section UnderToken
variable (source : RowSource σ κ) (s : σ) (actions : List Action)

/-- A source under a token can be used as the source itself until it is cancelled, and then until
every stream has told of it. -/
theorem underToken_isSome_iff : (underToken source s actions).isSome ↔
    ∃ quiet d, run source id (upToCancel actions) ⟨s, []⟩ = some (quiet, d) ∧
      ∀ i, .pull i ∈ fromCancel actions →
        d.IsLive i ∧ (fromCancel actions).count (.pull i) ≤ 2 := by
  have hfits (d : Session σ κ) := run_fromCancel_isSome source.logged.withToken
    (d.logged ((upToCancel actions).filterMap Action.statement?)) actions
  constructor
  · intro h
    obtain ⟨⟨outcomes, g⟩, hrun⟩ := Option.isSome_iff_exists.1 h
    obtain ⟨quiet, d, behind, hquiet, hbehind, -⟩ := underToken_eq_some_iff.1 hrun
    refine ⟨quiet, d, hquiet, fun i => ?_⟩
    exact count_le_length_left_guard.1 ((hfits d).1 (by rw [hbehind]; rfl) i)
  · rintro ⟨quiet, d, hquiet, hpulls⟩
    obtain ⟨⟨behind, g⟩, hbehind⟩ := Option.isSome_iff_exists.1
      ((hfits d).2 fun i => count_le_length_left_guard.2 (hpulls i))
    exact Option.isSome_iff_exists.2
      ⟨_, underToken_eq_some_iff.2 ⟨quiet, d, behind, hquiet, hbehind, rfl⟩⟩

/-- A source under a token can be used as the source itself until it is cancelled, and then until
every stream has told of it, and any use of it is cut off in this way. -/
theorem underToken_cutOff :
    ((underToken source s actions).isSome ↔
      ∃ quiet d, run source id (upToCancel actions) ⟨s, []⟩ = some (quiet, d) ∧
        ∀ i, .pull i ∈ fromCancel actions →
          d.IsLive i ∧ (fromCancel actions).count (.pull i) ≤ 2) ∧
    ∀ outcomes g, underToken source s actions = some (outcomes, g) →
      ∃ quiet behind d, CutOff source s actions outcomes g quiet behind d := by
  refine ⟨underToken_isSome_iff source s actions, fun outcomes g h => ?_⟩
  obtain ⟨quiet, d, behind, hquiet, hbehind, rfl⟩ := underToken_eq_some_iff.1 h
  obtain ⟨hstate, hrefused, -⟩ := run_fromCancel hbehind
  have hdelivered (i : Nat) : delivered i actions (quiet ++ behind) =
      delivered i (upToCancel actions) quiet ++
        if .pull i ∈ fromCancel actions then [.error .cancelled] else [] := by
    rw [← delivered_fromCancel hbehind, ← delivered_append i (length_of_run hquiet),
      upToCancel_append_fromCancel]
  exact ⟨quiet, behind, d, {
    outcomes_eq := rfl
    length_quiet := length_of_run hquiet
    length_behind := length_of_run hbehind
    run_quiet := hquiet
    refused := hrefused
    pulls := pullsOf_fromCancel hbehind
    delivered_eq := hdelivered
    delivered_isPrefix := fun _ _ _ hrun i => delivered_isPrefix_of_run i hquiet hrun
    state_eq := hstate }⟩

end UnderToken

/-- Two streams are open when the token is cancelled. The first one has given its only row and not
reported its end. -/
def twoStreams : List Action :=
  [.ask ⟨"a", []⟩, .ask ⟨"b", []⟩, .pull 1, .pull 0, .cancel, .ask ⟨"c", []⟩, .pull 1, .pull 0,
    .cancel, .pull 0]

/-- The rows behind the two streams. -/
def twoAnswers : List (List Row) :=
  [[⟨["n"], [.int64 1]⟩], [⟨["n"], [.int64 2]⟩, ⟨["n"], [.int64 3]⟩], []]

theorem underToken_cutOff_twoStreams :
    (underToken .inTurn twoAnswers twoStreams).isSome ∧
      ∀ outcomes g, underToken .inTurn twoAnswers twoStreams = some (outcomes, g) →
        (∃ quiet behind d, CutOff .inTurn twoAnswers twoStreams outcomes g quiet behind d) ∧
        g.state.2 = ([[]], [⟨"a", []⟩, ⟨"b", []⟩]) ∧
        delivered 0 twoStreams outcomes = [.ok ⟨["n"], [.int64 1]⟩, .error .cancelled] ∧
        delivered 1 twoStreams outcomes = [.ok ⟨["n"], [.int64 2]⟩, .error .cancelled] := by
  obtain ⟨hiff, hcut⟩ := underToken_cutOff .inTurn twoAnswers twoStreams
  refine ⟨hiff.2 ⟨_, _, rfl, ?_⟩, fun outcomes g h => ⟨hcut outcomes g h, ?_⟩⟩
  · intro i hi
    have hi : i = 1 ∨ i = 0 := by simpa [fromCancel, twoStreams] using hi
    rcases hi with rfl | rfl <;> exact ⟨⟨_, rfl⟩, by decide⟩
  · cases h
    exact ⟨rfl, rfl, rfl⟩

end Session

end SchemaCatalog
