import Mathlib.Data.List.Basic

/-!
# Anchored patterns

The regular expressions of a format check are mostly anchored sequences: one character of a class,
any number of characters of a class, a fixed text.  A `Pattern` is such a sequence and `fullmatch`
says whether a whole text matches, as Python's `re.fullmatch` does and as a search for `^…$` does
where `$` means the end of the text.

* `fullmatch_word` — one character of a class and then any number of another one.
* `fullmatch_separated` — two such words around a fixed text that starts outside both classes.
-/

/-- A piece of a pattern over characters `α`. -/
inductive PatternItem (α : Type*)
  | one (inClass : α → Bool)
  | many (inClass : α → Bool)
  | text (chars : List α)

abbrev Pattern (α : Type*) := List (PatternItem α)

namespace Pattern

variable {α : Type*} [DecidableEq α]

/-- The whole text matches the pattern. -/
@[simp] def fullmatch : Pattern α → List α → Bool
  | [], s => s.isEmpty
  | .one inClass :: rest, s =>
      match s with
      | [] => false
      | c :: cs => inClass c && fullmatch rest cs
  | .many inClass :: rest, s =>
      (List.range (s.length + 1)).any fun n =>
        (s.take n).all inClass && fullmatch rest (s.drop n)
  | .text chars :: rest, s => chars.isPrefixOf s && fullmatch rest (s.drop chars.length)

/-- One character of `first`, then any number of `rest`. -/
def word (first rest : α → Bool) : Pattern α := [.one first, .many rest]

/-- A text is a word. -/
def IsWord (first rest : α → Bool) (s : List α) : Prop :=
  ∃ c cs, s = c :: cs ∧ first c = true ∧ ∀ d ∈ cs, rest d = true

lemma fullmatch_one_iff {inClass : α → Bool} {p : Pattern α} {s : List α} :
    fullmatch (.one inClass :: p) s = true ↔
      ∃ c cs, s = c :: cs ∧ inClass c = true ∧ fullmatch p cs = true := by
  cases s with
  | nil => simp
  | cons c cs => simp

lemma fullmatch_many_iff {inClass : α → Bool} {p : Pattern α} {s : List α} :
    fullmatch (.many inClass :: p) s = true ↔
      ∃ l r, s = l ++ r ∧ (∀ c ∈ l, inClass c = true) ∧ fullmatch p r = true := by
  simp only [fullmatch, List.any_eq_true, List.mem_range, Bool.and_eq_true, List.all_eq_true]
  constructor
  · rintro ⟨n, -, hall, hrest⟩
    exact ⟨s.take n, s.drop n, (List.take_append_drop n s).symm, hall, hrest⟩
  · rintro ⟨l, r, rfl, hall, hrest⟩
    refine ⟨l.length, ?_, ?_, ?_⟩
    · rw [List.length_append]
      omega
    · simpa using hall
    · simpa using hrest

lemma fullmatch_text_iff {chars : List α} {p : Pattern α} {s : List α} :
    fullmatch (.text chars :: p) s = true ↔ ∃ r, s = chars ++ r ∧ fullmatch p r = true := by
  simp only [fullmatch, Bool.and_eq_true, List.isPrefixOf_iff_prefix]
  constructor
  · rintro ⟨⟨r, rfl⟩, hrest⟩
    exact ⟨r, rfl, by simpa using hrest⟩
  · rintro ⟨r, rfl, hrest⟩
    exact ⟨⟨r, rfl⟩, by simpa using hrest⟩

lemma fullmatch_nil_iff {s : List α} : fullmatch [] s = true ↔ s = [] := by
  simp

lemma fullmatch_word_append_iff {first rest : α → Bool} {p : Pattern α} {s : List α} :
    fullmatch (word first rest ++ p) s = true ↔
      ∃ l r, s = l ++ r ∧ IsWord first rest l ∧ fullmatch p r = true := by
  show fullmatch (.one first :: .many rest :: p) s = true ↔ _
  rw [fullmatch_one_iff]
  constructor
  · rintro ⟨c, cs, rfl, hc, hmany⟩
    obtain ⟨l, r, rfl, hl, hr⟩ := fullmatch_many_iff.mp hmany
    exact ⟨c :: l, r, rfl, ⟨c, l, rfl, hc, hl⟩, hr⟩
  · rintro ⟨_, r, rfl, ⟨c, l, rfl, hc, hl⟩, hr⟩
    exact ⟨c, l ++ r, rfl, hc, fullmatch_many_iff.mpr ⟨l, r, rfl, hl, hr⟩⟩

/-- **Words.**  The pattern of a word matches exactly the words. -/
theorem fullmatch_word {first rest : α → Bool} {s : List α} :
    fullmatch (word first rest) s = true ↔ IsWord first rest s := by
  rw [← List.append_nil (word first rest), fullmatch_word_append_iff]
  constructor
  · rintro ⟨l, r, rfl, hl, hr⟩
    rw [fullmatch_nil_iff.mp hr, List.append_nil]
    exact hl
  · intro h
    exact ⟨s, [], (List.append_nil s).symm, h, rfl⟩

/-- **Two words around a fixed text.** -/
theorem fullmatch_separated {first rest : α → Bool} {chars s : List α} :
    fullmatch (word first rest ++ (.text chars :: word first rest)) s = true ↔
      ∃ l r, s = l ++ (chars ++ r) ∧ IsWord first rest l ∧ IsWord first rest r := by
  rw [fullmatch_word_append_iff]
  constructor
  · rintro ⟨l, r, rfl, hl, hr⟩
    obtain ⟨r', rfl, hr'⟩ := fullmatch_text_iff.mp hr
    exact ⟨l, r', rfl, hl, fullmatch_word.mp hr'⟩
  · rintro ⟨l, r, rfl, hl, hr⟩
    exact ⟨l, chars ++ r, rfl, hl, fullmatch_text_iff.mpr ⟨r, rfl, fullmatch_word.mpr hr⟩⟩

end Pattern
