import Mathlib.Logic.Basic

/-!
# Computations that may fail

Code that stops at the first error is written in `Except ε`.  The lemmas take such a computation
apart one statement at a time, so that no proof has to unfold the monad.

* `bind_eq_ok` — a sequence succeeds when its parts do.
* `Decides x A E` — the full specification of a check: `x` succeeds exactly with the values that
  satisfy `A`, and where it fails its error satisfies `E`.  `Decides.bind` composes two checks, and
  a check in which nothing but `E` can go wrong is one statement with the condition it tests.
-/

namespace Fallible

section Bind

variable {ε : Type u} {α β : Type v}

@[simp] lemma ok_bind (a : α) (f : α → Except ε β) : (Except.ok a >>= f) = f a := rfl

@[simp] lemma error_bind (e : ε) (f : α → Except ε β) :
    ((Except.error e : Except ε α) >>= f) = .error e := rfl

@[simp] lemma pure_eq_ok (a : α) : (pure a : Except ε α) = .ok a := rfl

/-- A sequence succeeds when its first part does and the rest does with what it returned. -/
lemma bind_eq_ok {x : Except ε α} {f : α → Except ε β} {b : β} :
    (x >>= f) = .ok b ↔ ∃ a, x = .ok a ∧ f a = .ok b := by
  cases x with
  | error e => simp
  | ok a => simp

lemma map_eq_ok {x : Except ε α} {f : α → β} {b : β} :
    x.map f = .ok b ↔ ∃ a, x = .ok a ∧ f a = b := by
  cases x with
  | error e => simp [Except.map]
  | ok a => simp [Except.map]

lemma map_bind {γ : Type v} (x : Except ε α) (f : α → Except ε β) (g : β → γ) :
    (x >>= f).map g = x >>= fun a => (f a).map g := by
  cases x <;> rfl

lemma bind_map {γ : Type v} (x : Except ε α) (f : α → β) (g : β → Except ε γ) :
    (x.map f >>= g) = x >>= fun a => g (f a) := by
  cases x <;> rfl

lemma exists_ok_of_toBool {x : Except ε α} (h : x.toBool = true) : ∃ a, x = .ok a := by
  cases x with
  | error e => cases h
  | ok a => exact ⟨a, rfl⟩

/-- A loop in which no turn fails. -/
lemma mapM_eq_ok {γ : Type w} {l : List γ} {f : γ → Except ε α} {g : γ → α}
    (h : ∀ c ∈ l, f c = .ok (g c)) : l.mapM f = .ok (l.map g) := by
  induction l with
  | nil => rfl
  | cons c l ih =>
      rw [List.forall_mem_cons] at h
      rw [List.mapM_cons, h.1, ih h.2]
      rfl

/-- A loop whose turns fail in no state that keeps an invariant. -/
lemma exists_foldlM_ok {γ : Type w} {σ : Type v} {f : σ → γ → Except ε σ} {P : σ → Prop}
    (h : ∀ s c, P s → ∃ s', f s c = .ok s' ∧ P s') (l : List γ) {s : σ} (hs : P s) :
    ∃ s', l.foldlM f s = .ok s' ∧ P s' := by
  induction l generalizing s with
  | nil => exact ⟨s, rfl, hs⟩
  | cons c l ih =>
      obtain ⟨s', hfirst, hs'⟩ := h s c hs
      rw [List.foldlM_cons, hfirst, ok_bind]
      exact ih hs'

/-- A loop in which every turn returns something good. -/
lemma exists_mapM_ok {γ : Type w} {l : List γ} {f : γ → Except ε α} {P : α → Prop}
    (h : ∀ c ∈ l, ∃ a, f c = .ok a ∧ P a) : ∃ bs, l.mapM f = .ok bs ∧ ∀ b ∈ bs, P b := by
  induction l with
  | nil => exact ⟨[], rfl, by simp⟩
  | cons c l ih =>
      rw [List.forall_mem_cons] at h
      obtain ⟨⟨a, ha, hP⟩, hrest⟩ := h
      obtain ⟨bs, hbs, hall⟩ := ih hrest
      exact ⟨a :: bs, by rw [List.mapM_cons, ha, hbs]; rfl, List.forall_mem_cons.mpr ⟨hP, hall⟩⟩

/-- The results of a loop that did not fail. -/
lemma exists_mem_of_mapM {γ : Type w} {l : List γ} {f : γ → Except ε α} {bs : List α}
    (h : l.mapM f = .ok bs) {c : γ} (hc : c ∈ l) : ∃ b ∈ bs, f c = .ok b := by
  induction l generalizing bs with
  | nil => cases hc
  | cons d l ih =>
      rw [List.mapM_cons] at h
      obtain ⟨b, hb, h⟩ := bind_eq_ok.mp h
      obtain ⟨rest, hrest, h⟩ := bind_eq_ok.mp h
      cases h
      rcases List.mem_cons.mp hc with rfl | hc
      · exact ⟨b, List.mem_cons_self, hb⟩
      · obtain ⟨b', hb', hf⟩ := ih hrest hc
        exact ⟨b', List.mem_cons_of_mem _ hb', hf⟩

/-- Every result of a loop comes from one of its turns. -/
lemma exists_of_mem_mapM {γ : Type w} {l : List γ} {f : γ → Except ε α} {bs : List α}
    (h : l.mapM f = .ok bs) : ∀ b ∈ bs, ∃ c ∈ l, f c = .ok b := by
  induction l generalizing bs with
  | nil =>
      cases h
      simp
  | cons d l ih =>
      rw [List.mapM_cons] at h
      obtain ⟨b, hb, h⟩ := bind_eq_ok.mp h
      obtain ⟨rest, hrest, h⟩ := bind_eq_ok.mp h
      cases h
      refine List.forall_mem_cons.mpr ⟨⟨d, List.mem_cons_self, hb⟩, fun b' hb' => ?_⟩
      obtain ⟨c, hc, hf⟩ := ih hrest b' hb'
      exact ⟨c, List.mem_cons_of_mem _ hc, hf⟩

lemma length_of_mapM {γ : Type w} {l : List γ} {f : γ → Except ε α} {bs : List α}
    (h : l.mapM f = .ok bs) : bs.length = l.length := by
  induction l generalizing bs with
  | nil =>
      cases h
      rfl
  | cons c l ih =>
      rw [List.mapM_cons] at h
      obtain ⟨b, -, h⟩ := bind_eq_ok.mp h
      obtain ⟨rest, hrest, h⟩ := bind_eq_ok.mp h
      cases h
      rw [List.length_cons, List.length_cons, ih hrest]

/-- The error of a loop is the error of one of its turns. -/
lemma exists_mem_of_mapM_error {γ : Type w} {l : List γ} {f : γ → Except ε α} {e : ε}
    (h : l.mapM f = .error e) : ∃ c ∈ l, f c = .error e := by
  induction l with
  | nil => cases h
  | cons c l ih =>
      rw [List.mapM_cons] at h
      cases hc : f c with
      | error e' =>
          rw [hc, error_bind] at h
          cases h
          exact ⟨c, List.mem_cons_self, hc⟩
      | ok b =>
          rw [hc, ok_bind] at h
          cases hl : l.mapM f with
          | error e' =>
              rw [hl, error_bind] at h
              cases h
              obtain ⟨d, hd, hf⟩ := ih hl
              exact ⟨d, List.mem_cons_of_mem _ hd, hf⟩
          | ok bs =>
              rw [hl] at h
              cases h

end Bind

/-- `x` succeeds exactly with the values of `A`, and fails only with errors of `E`. -/
structure Decides {ε : Type u} {α : Type v} (x : Except ε α) (A : α → Prop) (E : ε → Prop) :
    Prop where
  ok_iff : ∀ a, x = .ok a ↔ A a
  error_of : ∀ e, x = .error e → E e

namespace Decides

variable {ε : Type u} {α β : Type v} {x : Except ε α} {A A' : α → Prop} {E : ε → Prop}

lemma ok (a : α) : Decides (Except.ok a : Except ε α) (fun b => b = a) E where
  ok_iff b := by
    rw [Except.ok.injEq]
    exact eq_comm
  error_of e h := by cases h

lemma error {e : ε} (he : E e) : Decides (Except.error e : Except ε α) (fun _ => False) E where
  ok_iff a := by simp
  error_of e' h := by
    cases h
    exact he

lemma congr (h : Decides x A E) (hA : ∀ a, A a ↔ A' a) : Decides x A' E where
  ok_iff a := (h.ok_iff a).trans (hA a)
  error_of := h.error_of

/-- **Two checks in sequence.**  The second one has to be specified only for the values the first
one lets through. -/
theorem bind {f : α → Except ε β} {B : α → β → Prop} (h : Decides x A E)
    (hf : ∀ a, A a → Decides (f a) (B a) E) :
    Decides (x >>= f) (fun b => ∃ a, A a ∧ B a b) E where
  ok_iff b := by
    rw [bind_eq_ok]
    constructor
    · rintro ⟨a, hx, hb⟩
      have ha := (h.ok_iff a).mp hx
      exact ⟨a, ha, ((hf a ha).ok_iff b).mp hb⟩
    · rintro ⟨a, ha, hb⟩
      exact ⟨a, (h.ok_iff a).mpr ha, ((hf a ha).ok_iff b).mpr hb⟩
  error_of e he := by
    cases hx : x with
    | error e' =>
        rw [hx, error_bind] at he
        cases he
        exact h.error_of _ hx
    | ok a =>
        rw [hx, ok_bind] at he
        exact (hf a ((h.ok_iff a).mp hx)).error_of e he

lemma ite {c : Prop} [Decidable c] {y : Except ε α} (hx : c → Decides x A E)
    (hy : ¬ c → Decides y A' E) :
    Decides (if c then x else y) (fun a => c ∧ A a ∨ ¬ c ∧ A' a) E := by
  by_cases hc : c
  · rw [if_pos hc]
    exact (hx hc).congr fun a => by simp [hc]
  · rw [if_neg hc]
    exact (hy hc).congr fun a => by simp [hc]

end Decides

end Fallible
