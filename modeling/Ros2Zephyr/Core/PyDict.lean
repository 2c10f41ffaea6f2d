import Mathlib.Data.List.Nodup
import Mathlib.Tactic.Common

/-!
# Python dictionaries

A `dict` as the list of its items, in the order of their first assignment.

* `PyDict.set` — `d[key] = value`: the value of a key that is present is replaced in its place.
* `PyDict.ofPairs` — the assignments of a loop; of several to one key the last one counts
  (`lookup_ofPairs`), and distinct keys leave the items as they are (`ofPairs_eq_self`).
-/

namespace PyDict

variable {κ : Type u} {α : Type v} [BEq κ]

/-- `d[key] = value` -/
def set : List (κ × α) → κ → α → List (κ × α)
  | [], key, value => [(key, value)]
  | (k, v) :: items, key, value =>
      if k == key then (k, value) :: items else (k, v) :: set items key value

/-- A loop of assignments to an empty dictionary. -/
def ofPairs (pairs : List (κ × α)) : List (κ × α) := pairs.foldl (fun d p => set d p.1 p.2) []

variable {d pairs : List (κ × α)} {key k : κ} {value : α}

lemma lookup_cons_ite {items : List (κ × α)} :
    List.lookup k ((key, value) :: items) = if k == key then some value else items.lookup k := by
  rw [List.lookup_cons]
  cases k == key <;> rfl

variable [LawfulBEq κ]

/-- The items of some keys. -/
lemma lookup_filter (keep : κ → Bool) (h : keep key = true) :
    (d.filter fun p => keep p.1).lookup key = d.lookup key := by
  induction d with
  | nil => rfl
  | cons item items ih =>
      obtain ⟨k', v⟩ := item
      by_cases hk : keep k' = true
      · simp only [List.filter_cons, hk, if_true, lookup_cons_ite, ih]
      · have hne : (key == k') = false := by
          rw [beq_eq_false_iff_ne]
          rintro rfl
          exact hk h
        simp only [List.filter_cons, hk, Bool.false_eq_true, if_false, lookup_cons_ite, hne, ih]

lemma mem_keys_set : k ∈ (set d key value).map Prod.fst ↔ k ∈ d.map Prod.fst ∨ k = key := by
  induction d with
  | nil => simp [set]
  | cons item items ih =>
      obtain ⟨k', v⟩ := item
      by_cases h : k' = key
      · subst h
        simp only [set, beq_self_eq_true, if_true, List.map_cons, List.mem_cons]
        tauto
      · have hne : (k' == key) = false := by simpa using h
        simp only [set, hne, Bool.false_eq_true, if_false, List.map_cons, List.mem_cons, ih]
        tauto

lemma nodup_set (h : (d.map Prod.fst).Nodup) : ((set d key value).map Prod.fst).Nodup := by
  induction d with
  | nil => simp [set]
  | cons item items ih =>
      obtain ⟨k', v⟩ := item
      rw [List.map_cons, List.nodup_cons] at h
      by_cases hk : k' = key
      · subst hk
        simpa [set] using h
      · have hne : (k' == key) = false := by simpa using hk
        simp only [set, hne, Bool.false_eq_true, if_false, List.map_cons, List.nodup_cons,
          mem_keys_set, not_or]
        exact ⟨⟨h.1, hk⟩, ih h.2⟩

/-- Setting a key changes what is found under that key and nothing else. -/
lemma lookup_set :
    (set d key value).lookup k = if k == key then some value else d.lookup k := by
  induction d with
  | nil => rw [set, lookup_cons_ite]
  | cons item items ih =>
      obtain ⟨k', v⟩ := item
      by_cases hk : k' = key
      · subst hk
        simp only [set, beq_self_eq_true, if_true, lookup_cons_ite]
        split <;> rfl
      · have hne : (k' == key) = false := by simpa using hk
        simp only [set, hne, Bool.false_eq_true, if_false, lookup_cons_ite, ih]
        by_cases h : k = k'
        · subst h
          simp [hne]
        · have hne' : (k == k') = false := by simpa using h
          simp [hne']

/-- Every item of the result was there or is the one assigned. -/
lemma mem_set {item : κ × α} (h : item ∈ set d key value) :
    item ∈ d ∨ item = (key, value) := by
  induction d with
  | nil => exact .inr (List.mem_singleton.mp h)
  | cons first items ih =>
      obtain ⟨k', v⟩ := first
      by_cases hk : k' = key
      · subst hk
        simp only [set, beq_self_eq_true, if_true, List.mem_cons] at h ⊢
        rcases h with rfl | h
        · exact .inr rfl
        · exact .inl (.inr h)
      · have hne : (k' == key) = false := by simpa using hk
        simp only [set, hne, Bool.false_eq_true, if_false, List.mem_cons] at h ⊢
        rcases h with rfl | h
        · exact .inl (.inl rfl)
        · rcases ih h with h | h
          · exact .inl (.inr h)
          · exact .inr h

lemma set_of_not_mem (h : key ∉ d.map Prod.fst) : set d key value = d ++ [(key, value)] := by
  induction d with
  | nil => rfl
  | cons item items ih =>
      obtain ⟨k', v⟩ := item
      rw [List.map_cons, List.mem_cons, not_or] at h
      have hne : (k' == key) = false := by simpa using fun hk => h.1 hk.symm
      simp only [set, hne, Bool.false_eq_true, if_false, List.cons_append, ih h.2]

lemma lookup_eq_some_iff (h : (d.map Prod.fst).Nodup) :
    d.lookup key = some value ↔ (key, value) ∈ d := by
  induction d with
  | nil => simp
  | cons item items ih =>
      obtain ⟨k, v⟩ := item
      rw [List.map_cons, List.nodup_cons] at h
      rw [lookup_cons_ite, List.mem_cons, Prod.mk.injEq]
      by_cases hk : key = k
      · subst hk
        have hnot : (key, value) ∉ items := fun hmem => h.1 (List.mem_map.mpr ⟨_, hmem, rfl⟩)
        simp [hnot, eq_comm]
      · have hne : (key == k) = false := by simpa using hk
        simp [hne, hk, ih h.2]

section OfPairs

lemma nodup_ofPairs : ((ofPairs pairs).map Prod.fst).Nodup := by
  have hrun : ∀ d : List (κ × α), (d.map Prod.fst).Nodup →
      ((pairs.foldl (fun d p => set d p.1 p.2) d).map Prod.fst).Nodup := by
    induction pairs with
    | nil => exact fun d hd => hd
    | cons p pairs ih => exact fun d hd => ih _ (nodup_set hd)
  exact hrun [] List.nodup_nil

/-- A dictionary has no items but those it was made from. -/
lemma mem_ofPairs {item : κ × α} (h : item ∈ ofPairs pairs) : item ∈ pairs := by
  have hrun : ∀ d : List (κ × α), item ∈ pairs.foldl (fun d p => set d p.1 p.2) d →
      item ∈ d ∨ item ∈ pairs := by
    clear h
    induction pairs with
    | nil => exact fun d hd => .inl hd
    | cons p pairs ih =>
        intro d hd
        rcases ih _ hd with hset | hrest
        · rcases mem_set hset with hmem | rfl
          · exact .inl hmem
          · exact .inr (List.mem_cons_self ..)
        · exact .inr (List.mem_cons_of_mem _ hrest)
  exact (hrun [] h).resolve_left List.not_mem_nil

/-- **The last assignment to a key counts.** -/
theorem lookup_ofPairs : (ofPairs pairs).lookup key = pairs.reverse.lookup key := by
  have hrun : ∀ d : List (κ × α), (pairs.foldl (fun d p => set d p.1 p.2) d).lookup key
      = (pairs.reverse.lookup key).or (d.lookup key) := by
    induction pairs with
    | nil => exact fun d => rfl
    | cons p pairs ih =>
        intro d
        obtain ⟨k, v⟩ := p
        rw [List.foldl_cons, ih, lookup_set, List.reverse_cons, List.lookup_append, lookup_cons_ite]
        cases List.lookup key pairs.reverse with
        | some v => rfl
        | none => cases key == k <;> rfl
  rw [ofPairs, hrun]
  exact Option.or_none

/-- **Distinct keys are assigned in their order.** -/
theorem ofPairs_eq_self (h : (pairs.map Prod.fst).Nodup) : ofPairs pairs = pairs := by
  have hrun : ∀ d : List (κ × α), ((d ++ pairs).map Prod.fst).Nodup →
      pairs.foldl (fun d p => set d p.1 p.2) d = d ++ pairs := by
    clear h
    induction pairs with
    | nil => exact fun d _ => (List.append_nil d).symm
    | cons p pairs ih =>
        intro d hd
        have hnew : p.1 ∉ d.map Prod.fst := by
          rw [List.map_append, List.nodup_append] at hd
          intro hmem
          exact hd.2.2 _ hmem _ (List.mem_cons_self ..) rfl
        rw [List.foldl_cons, set_of_not_mem hnew, ih]
        · rw [List.append_assoc, List.singleton_append]
        · rwa [List.append_assoc, List.singleton_append]
  exact hrun [] (by simpa using h)

end OfPairs

end PyDict
