import Mathlib.Logic.Function.Basic
import Ros2Zephyr.Core.Program

/-!
# Memory in parts

A memory is a partial map from addresses to cells.  Several parties own parts of it, and a party
only changes what it owns, gives cells back, or takes cells that nobody has.  Then everybody else's
part stands, and what one party proves about its own part holds whatever the others do.

* `Parts memory part` — the parts are parts of the memory and no two of them meet.
* `LocalChange m m' g g'` — the owner of `g` turned the memory `m` into `m'` and owns `g'` now.
* `Parts.change` — the rule for one party's step; `LocalChange.keeps` is what the others see.
-/

/-- A part of a memory, with its contents. -/
abbrev Heaplet (A B : Type*) := A → Option B

namespace Heaplet

variable {A B : Type*} [DecidableEq A]

def empty : Heaplet A B := fun _ => none

def single (a : A) (b : B) : Heaplet A B := Function.update empty a (some b)

@[simp] lemma single_self (a : A) (b : B) : single a b a = some b := by
  simp [single]

lemma single_of_ne {a a' : A} (b : B) (h : a' ≠ a) : single a b a' = none := by
  simp [single, empty, h]

lemma eq_of_single_ne_none {a a' : A} {b : B} (h : single a b a' ≠ none) : a' = a := by
  by_contra hne
  exact h (single_of_ne b hne)

@[simp] lemma update_single_none (a : A) (b : B) :
    Function.update (single a b) a none = empty := by
  simp [single, empty]

@[simp] lemma update_single_some (a : A) (b b' : B) :
    Function.update (single a b) a (some b') = single a b' := by
  simp [single]

/-- Of two cells the first is given back. -/
lemma update_pair_none {a a' : A} (b b' : B) (h : a' ≠ a) :
    Function.update (Function.update (single a b) a' (some b')) a none = single a' b' := by
  rw [Function.update_comm h, update_single_none]
  rfl

/-- `g` is a part of `m`. -/
def Of (m g : Heaplet A B) : Prop := ∀ ⦃a b⦄, g a = some b → m a = some b

/-- What the owner of a part may do to the memory. -/
structure LocalChange (m m' g g' : Heaplet A B) : Prop where
  outside : ∀ a, g a = none → g' a = none → m' a = m a
  fresh : ∀ a, g a = none → g' a ≠ none → m a = none
  part : Of m' g'

namespace LocalChange

variable {m m' g g' : Heaplet A B} {a a' : A} {b : B}

omit [DecidableEq A] in
lemma refl (h : Of m g) : LocalChange m m g g :=
  ⟨fun _ _ _ => rfl, fun _ hnone hsome => absurd hnone hsome, h⟩

/-- A cell that is owned, or that nobody has, is written. -/
lemma set (h : Of m g) (ha : g a ≠ none ∨ m a = none) :
    LocalChange m (Function.update m a (some b)) g (Function.update g a (some b)) := by
  refine ⟨?_, ?_, ?_⟩
  · intro c _ hc
    have hne : c ≠ a := by
      rintro rfl
      simp at hc
    exact Function.update_of_ne hne _ _
  · intro c hnone hsome
    by_cases hc : c = a
    · subst hc
      exact ha.resolve_left (not_not.mpr hnone)
    · rw [Function.update_of_ne hc] at hsome
      exact absurd hnone hsome
  · intro c d hcd
    by_cases hc : c = a
    · subst hc
      simpa using hcd
    · rw [Function.update_of_ne hc] at hcd ⊢
      exact h hcd

/-- An owned cell is given back. -/
lemma release (h : Of m g) (ha : g a ≠ none) :
    LocalChange m (Function.update m a none) g (Function.update g a none) := by
  refine ⟨?_, ?_, ?_⟩
  · intro c hc _
    have hne : c ≠ a := by
      rintro rfl
      exact ha hc
    exact Function.update_of_ne hne _ _
  · intro c hnone hsome
    by_cases hc : c = a
    · subst hc
      simp at hsome
    · rw [Function.update_of_ne hc] at hsome
      exact absurd hnone hsome
  · intro c d hcd
    by_cases hc : c = a
    · subst hc
      simp at hcd
    · rw [Function.update_of_ne hc] at hcd ⊢
      exact h hcd

/-- An owned cell is given back for one in the same place or one that nobody has. -/
lemma exchange (h : Of m g) (ha : g a ≠ none) (ha' : a' = a ∨ m a' = none) :
    LocalChange m (Function.update (Function.update m a none) a' (some b)) g
      (Function.update (Function.update g a none) a' (some b)) := by
  refine ⟨?_, ?_, ?_⟩
  · intro c hc hc'
    have hne : c ≠ a := by
      rintro rfl
      exact ha hc
    have hne' : c ≠ a' := by
      rintro rfl
      simp at hc'
    rw [Function.update_of_ne hne', Function.update_of_ne hne]
  · intro c hnone hsome
    by_cases hc' : c = a'
    · subst hc'
      rcases ha' with rfl | hfree
      · exact absurd hnone ha
      · exact hfree
    · rw [Function.update_of_ne hc'] at hsome
      by_cases hc : c = a
      · subst hc
        exact absurd hnone ha
      · rw [Function.update_of_ne hc] at hsome
        exact absurd hnone hsome
  · intro c d hcd
    by_cases hc' : c = a'
    · subst hc'
      simpa using hcd
    · rw [Function.update_of_ne hc'] at hcd ⊢
      by_cases hc : c = a
      · subst hc
        simp at hcd
      · rw [Function.update_of_ne hc] at hcd ⊢
        exact h hcd

omit [DecidableEq A] in
/-- A cell of somebody else is neither taken nor changed. -/
lemma keeps (h : LocalChange m m' g g') (hnot : g a = none) (hcell : m a ≠ none) :
    g' a = none ∧ m' a = m a := by
  have hnone : g' a = none := by
    by_contra hsome
    exact hcell (h.fresh a hnot hsome)
  exact ⟨hnone, h.outside a hnot hnone⟩

end LocalChange

section Parts

variable {T : Type*} [DecidableEq T]

/-- Disjoint parts of one memory. -/
structure Parts (m : Heaplet A B) (part : T → Heaplet A B) : Prop where
  of : ∀ t, Of m (part t)
  apart : ∀ {t t' : T} {a : A}, t ≠ t' → part t a ≠ none → part t' a = none

omit [DecidableEq A] in
/-- Parts that the new part of one party does not meet. -/
lemma Parts.apart_update {m g' : Heaplet A B} {part : T → Heaplet A B} {t : T} (h : Parts m part)
    (hnew : ∀ t', t' ≠ t → ∀ a, g' a ≠ none → part t' a = none) {t₁ t₂ : T} {a : A}
    (hne : t₁ ≠ t₂) :
    Function.update part t g' t₁ a ≠ none → Function.update part t g' t₂ a = none := by
  refine pairwise_threads_update
    (r := fun g₁ g₂ : Heaplet A B => ∀ a, g₁ a ≠ none → g₂ a = none) ?_ ?_ hnew t₁ t₂ hne a
  · intro g₁ g₂ hr a hsome
    by_contra hboth
    exact hsome (hr a hboth)
  · exact fun _ _ hne _ => h.apart hne

omit [DecidableEq A] in
/-- **One party's step** leaves the parts disjoint parts of the new memory. -/
theorem Parts.change {m m' g' : Heaplet A B} {part : T → Heaplet A B} {t : T}
    (h : Parts m part) (hchange : LocalChange m m' (part t) g') :
    Parts m' (Function.update part t g') := by
  -- what another party has is outside the part of `t`, before and after
  have hother : ∀ {t' a}, t' ≠ t → part t' a ≠ none → g' a = none ∧ m' a = m a := by
    intro t' a hne hpart
    refine hchange.keeps (h.apart hne hpart) ?_
    obtain ⟨b, hb⟩ := Option.ne_none_iff_exists'.mp hpart
    simp [h.of t' hb]
  have hnew : ∀ t', t' ≠ t → ∀ a, g' a ≠ none → part t' a = none := by
    intro t' hne a hsome
    by_contra hpart
    exact hsome (hother hne hpart).1
  refine ⟨(Function.forall_update_iff part fun _ g => Of m' g).mpr ⟨hchange.part, ?_⟩,
    h.apart_update hnew⟩
  intro t' ht' a b hb
  rw [(hother ht' (by simp [hb])).2]
  exact h.of t' hb

omit [DecidableEq A] [DecidableEq T] in
lemma Parts.elsewhere {m m' : Heaplet A B} {part : T → Heaplet A B} (h : Parts m part)
    (hsame : ∀ t a, part t a ≠ none → m' a = m a) : Parts m' part := by
  refine ⟨fun t a b hb => ?_, h.apart⟩
  rw [hsame t a (by simp [hb])]
  exact h.of t hb

omit [DecidableEq A] in
/-- A party's part is replaced, in an unchanged memory, by cells it has or nobody has. -/
lemma Parts.replace {m g' : Heaplet A B} {part : T → Heaplet A B} {t : T} (h : Parts m part)
    (hof : Of m g') (hcells : ∀ a, g' a ≠ none → part t a ≠ none ∨ ∀ t', part t' a = none) :
    Parts m (Function.update part t g') := by
  have hnew : ∀ t', t' ≠ t → ∀ a, g' a ≠ none → part t' a = none := by
    intro t' hne a hsome
    rcases hcells a hsome with hown | hnobody
    · exact h.apart (Ne.symm hne) hown
    · exact hnobody t'
  exact ⟨(Function.forall_update_iff part fun _ g => Of m g).mpr ⟨hof, fun t' _ => h.of t'⟩,
    h.apart_update hnew⟩

end Parts

end Heaplet
