import Mathlib.Data.List.Induction

/-!
# Runs of a labelled transition relation

A component is a relation `step : σ → ε → σ → Prop`: from a state, by a label, to a state.  The
label carries everything the environment chooses (an argument, a clock reading, whether a call
fails), so a statement about every run of `step` is a statement about every choice.

* `Run step s es s'` — the labels `es` lead from `s` to `s'`.
* `Run.invariant` — what a step preserves, a run preserves.
* `Run.related` — what two steps under one label keep related, two runs under the same labels do.
* `Run.shown` — a system whose steps another one takes for its own, or for nothing, runs as the
  other does under the labels that the other sees.
* `runLabels` — the executable form for a system given as a partial function, with
  `run_of_runLabels` to turn one evaluation into a run.
* `EachAfter P log` — every entry of a log stands in the relation `P` to the entries before it;
  a log grows at its end, so `eachAfter_concat` is the only rule it needs.
-/

namespace Transition

variable {σ ε : Type*}

/-- `Run step s es s'`: starting in `s`, the labels `es` lead one after the other to `s'`.  The
last step is the outermost constructor, so an induction on a run has its whole past in hand. -/
inductive Run (step : σ → ε → σ → Prop) (s : σ) : List ε → σ → Prop
  | start : Run step s [] s
  | snoc {es : List ε} {s' s'' : σ} {e : ε} :
      Run step s es s' → step s' e s'' → Run step s (es ++ [e]) s''

/-- **The invariant rule.**  A property of the first state that every step keeps holds of every
state a run reaches. -/
theorem Run.invariant {step : σ → ε → σ → Prop} {s s' : σ} {es : List ε} {I : σ → Prop}
    (hrun : Run step s es s') (hinit : I s)
    (hstep : ∀ {t t' : σ} {e : ε}, I t → step t e t' → I t') : I s' := by
  induction hrun with
  | start => exact hinit
  | snoc _ h ih => exact hstep ih h

/-- The invariant rule for a property of the labels so far and the state they lead to. -/
theorem Run.labelled_invariant {step : σ → ε → σ → Prop} {s s' : σ} {es : List ε}
    {I : List ε → σ → Prop} (hrun : Run step s es s') (hinit : I [] s)
    (hstep : ∀ {es : List ε} {t t' : σ} {e : ε}, I es t → step t e t' → I (es ++ [e]) t') :
    I es s' := by
  induction hrun with
  | start => exact hinit
  | snoc _ h ih => exact hstep ih h

theorem Run.cons {step : σ → ε → σ → Prop} {s t s' : σ} {e : ε} {es : List ε}
    (h : step s e t) (hrun : Run step t es s') : Run step s (e :: es) s' := by
  induction hrun with
  | start => simpa using Run.snoc Run.start h
  | snoc _ hlast ih => exact Run.snoc ih hlast

/-- A run of a system whose steps are, under other labels, steps of another one. -/
theorem Run.map {δ : Type*} {step : σ → ε → σ → Prop} {step' : σ → δ → σ → Prop} {f : ε → δ}
    {s s' : σ} {es : List ε} (hrun : Run step s es s')
    (h : ∀ {t t' : σ} {e : ε}, step t e t' → step' t (f e) t') :
    Run step' s (es.map f) s' := by
  induction hrun with
  | start => exact Run.start
  | snoc _ hlast ih =>
      rw [List.map_append]
      exact Run.snoc ih (h hlast)

/-- A step as another system sees it: one of its own, or nothing where it sees no label. -/
def Shown {τ δ : Type*} (step : τ → δ → τ → Prop) : Option δ → τ → τ → Prop
  | none, t, t' => t' = t
  | some d, t, t' => step t d t'

/-- **The simulation rule.**  If every step from a state with the invariant keeps it and is seen as
a step of another system or as nothing, then a run is seen as a run of the other system. -/
theorem Run.shown {τ δ : Type*} {step : σ → ε → σ → Prop} {step' : τ → δ → τ → Prop} {f : σ → τ}
    {label : ε → Option δ} {I : σ → Prop} {s s' : σ} {es : List ε} (hrun : Run step s es s')
    (hinit : I s)
    (hstep : ∀ {t t' : σ} {e : ε}, I t → step t e t' →
      I t' ∧ Shown step' (label e) (f t) (f t')) :
    I s' ∧ Run step' (f s) (es.filterMap label) (f s') := by
  induction hrun with
  | start => exact ⟨hinit, Run.start⟩
  | @snoc es t t' e _ hlast ih =>
      obtain ⟨hinv, hshown⟩ := ih
      obtain ⟨hinv', hseen⟩ := hstep hinv hlast
      refine ⟨hinv', ?_⟩
      rw [List.filterMap_append]
      cases hlabel : label e with
      | none =>
          rw [hlabel] at hseen
          rw [List.filterMap_cons_none hlabel, List.filterMap_nil, List.append_nil, hseen]
          exact hshown
      | some d =>
          rw [hlabel] at hseen
          rw [List.filterMap_cons_some hlabel, List.filterMap_nil]
          exact hshown.snoc hseen

lemma Run.eq_of_nil {step : σ → ε → σ → Prop} {s s' : σ} (hrun : Run step s [] s') : s' = s := by
  generalize hlabels : ([] : List ε) = labels at hrun
  cases hrun with
  | start => rfl
  | snoc _ _ => simp at hlabels

lemma Run.last {step : σ → ε → σ → Prop} {s s'' : σ} {es : List ε} {e : ε}
    (hrun : Run step s (es ++ [e]) s'') : ∃ s', Run step s es s' ∧ step s' e s'' := by
  generalize hlabels : es ++ [e] = labels at hrun
  cases hrun with
  | start => simp at hlabels
  | snoc hrun hlast =>
      obtain ⟨rfl, hlabel⟩ := List.append_inj' hlabels rfl
      cases hlabel
      exact ⟨_, hrun, hlast⟩

/-- A run is cut where its labels are. -/
lemma Run.split {step : σ → ε → σ → Prop} {s s' : σ} {es fs : List ε}
    (hrun : Run step s (es ++ fs) s') : ∃ t, Run step s es t ∧ Run step t fs s' := by
  induction fs using List.reverseRecOn generalizing s' with
  | nil =>
      rw [List.append_nil] at hrun
      exact ⟨s', hrun, Run.start⟩
  | append_singleton fs f ih =>
      rw [← List.append_assoc] at hrun
      obtain ⟨t', hrun, hlast⟩ := hrun.last
      obtain ⟨t, hfirst, hrest⟩ := ih hrun
      exact ⟨t, hfirst, Run.snoc hrest hlast⟩

lemma Run.first {step : σ → ε → σ → Prop} {s s' : σ} {e : ε} {es : List ε}
    (hrun : Run step s (e :: es) s') : ∃ t, step s e t ∧ Run step t es s' := by
  have happend : Run step s ([e] ++ es) s' := hrun
  obtain ⟨t, hfirst, hrest⟩ := happend.split
  have honly : Run step s ([] ++ [e]) t := hfirst
  obtain ⟨u, hstart, hstep⟩ := honly.last
  rw [hstart.eq_of_nil] at hstep
  exact ⟨t, hstep, hrest⟩

/-- **The two-run rule.**  A relation of the first states that equal steps keep, given the labels
so far, relates the states that two runs under the same labels reach. -/
theorem Run.related {τ : Type*} {step : σ → ε → σ → Prop} {step' : τ → ε → τ → Prop} {s s' : σ}
    {t t' : τ} {es : List ε} {R : List ε → σ → τ → Prop} (hrun : Run step s es s')
    (hrun' : Run step' t es t') (hinit : R [] s t)
    (hstep : ∀ {es : List ε} {e : ε} {u u' : σ} {v v' : τ}, Run step s es u → Run step' t es v →
      R es u v → step u e u' → step' v e v' → R (es ++ [e]) u' v') : R es s' t' := by
  induction hrun generalizing t' with
  | start =>
      rw [hrun'.eq_of_nil]
      exact hinit
  | snoc hrun hlast ih =>
      obtain ⟨v, hrun', hlast'⟩ := hrun'.last
      exact hstep hrun hrun' (ih hrun') hlast hlast'

/-- The step relation of a system given as a partial function. -/
def ofPartial (step : σ → ε → Option σ) : σ → ε → σ → Prop :=
  fun s e s' => step s e = some s'

/-- Run the labels one after the other; `none` as soon as one of them is not enabled. -/
def runLabels (step : σ → ε → Option σ) : σ → List ε → Option σ
  | s, [] => some s
  | s, e :: es => (step s e).bind fun t => runLabels step t es

lemma runLabels_append {step : σ → ε → Option σ} (s : σ) (es fs : List ε) :
    runLabels step s (es ++ fs) = (runLabels step s es).bind fun t => runLabels step t fs := by
  induction es generalizing s with
  | nil => rfl
  | cons e es ih =>
      rw [List.cons_append, runLabels, runLabels, Option.bind_assoc]
      congr 1
      funext t
      exact ih t

theorem run_of_runLabels {step : σ → ε → Option σ} :
    ∀ {es : List ε} {s s' : σ}, runLabels step s es = some s' → Run (ofPartial step) s es s'
  | [], s, s', h => by
      simp only [runLabels, Option.some.injEq] at h
      subst h
      exact Run.start
  | e :: es, s, s', h => by
      simp only [runLabels, Option.bind_eq_some_iff] at h
      obtain ⟨t, ht, hrest⟩ := h
      exact Run.cons ht (run_of_runLabels hrest)

/-! ## Logs -/

/-- Every entry `x` of `log` satisfies `P past x`, where `past` is what was logged before it. -/
def EachAfter {α : Type*} (P : List α → α → Prop) (log : List α) : Prop :=
  ∀ past x future, log = past ++ x :: future → P past x

variable {α : Type*} {P : List α → α → Prop}

lemma eachAfter_nil : EachAfter P [] := by
  intro past x future h
  simp at h

/-- Appending one entry asks for that entry only. -/
lemma eachAfter_concat {log : List α} {y : α} :
    EachAfter P (log ++ [y]) ↔ EachAfter P log ∧ P log y := by
  constructor
  · intro h
    refine ⟨?_, h log y [] rfl⟩
    rintro past x future rfl
    exact h past x (future ++ [y]) (by simp)
  · rintro ⟨hlog, hy⟩ past x future heq
    -- the split point is either the new entry or inside the old log
    rcases List.eq_nil_or_concat future with rfl | ⟨future', z, rfl⟩
    · obtain ⟨rfl, rfl⟩ : log = past ∧ y = x := by simpa using heq
      exact hy
    · have heq' : log ++ [y] = (past ++ x :: future') ++ [z] := by simpa using heq
      obtain ⟨hlog', -⟩ := List.append_inj' heq' rfl
      exact hlog past x future' hlog'

end Transition
