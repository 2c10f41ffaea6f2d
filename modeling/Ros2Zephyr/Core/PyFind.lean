import Ros2Zephyr.Core.PyRe
import Ros2Zephyr.Core.PyStr

/-!
# Searching a text with a regular expression

`re.findall` for the expressions of `PyRe`, which match no empty text: from left to right, each
match begins where one is possible and is as greedy as its pieces are.

* `matchPrefix` — a match at the start of a text, and what follows it.
* `findAll` — all matches, with `findAll_match` and `findAll_skip` to take a text apart.
* `template` — texts with runs of a class between them; `matchPrefix_template` and `findAll_line`
  find such a text among the lines of a file.
-/

namespace PyRe

variable {α : Type*} [DecidableEq α]

/-- `re.match`: the pieces at the start of the text, and the rest of it. -/
def matchPrefix (items : List (Item α)) (s : List α) : Option (List (List α) × List α) :=
  (matchItems (items ++ [.star fun _ => true]) s).map fun pieces =>
    (pieces.dropLast, pieces.getLastD [])

/-- The matches in a text, with the number of places at which one is looked for. -/
def findAllFrom (items : List (Item α)) : ℕ → List α → List (List (List α))
  | 0, _ => []
  | _ + 1, [] => []
  | places + 1, c :: s =>
      match matchPrefix items (c :: s) with
      | some (pieces, rest) =>
          if rest.length ≤ s.length then pieces :: findAllFrom items places rest
          else findAllFrom items places s
      | none => findAllFrom items places s

/-- `re.findall`, with every piece of each match. -/
def findAll (items : List (Item α)) (s : List α) : List (List (List α)) :=
  findAllFrom items s.length s

variable {items : List (Item α)} {s rest : List α} {pieces : List (List α)}

/-- The rest of a text is whatever it is. -/
lemma matchItems_any (s : List α) : matchItems [.star fun _ => true] s = some [s] := by
  have hend : matchItems ([] : List (Item α)) [] = some [] := rfl
  have hall : matchItems [.star fun _ => true] (s ++ []) = some [s] :=
    matchItems_star (fun _ _ => rfl) (by simp) hend
  rwa [List.append_nil] at hall

lemma matchPrefix_of_items
    (h : matchItems (items ++ [.star fun _ => true]) s = some (pieces ++ [rest])) :
    matchPrefix items s = some (pieces, rest) := by
  rw [matchPrefix, h]
  simp [List.getLastD_eq_getLast?]

lemma exists_of_forall₂_concat {β γ : Type*} {R : β → γ → Prop} {l : List β} {a : β} {m : List γ}
    (h : List.Forall₂ R (l ++ [a]) m) : ∃ m' b, m = m' ++ [b] ∧ List.Forall₂ R l m' := by
  induction l generalizing m with
  | nil =>
      cases h with
      | cons _ hnil =>
          cases hnil
          exact ⟨[], _, rfl, .nil⟩
  | cons x l ih =>
      cases h with
      | cons hx hrest =>
          obtain ⟨m', b, rfl, hm'⟩ := ih hrest
          exact ⟨_ :: m', b, rfl, .cons hx hm'⟩

/-- **What is matched fits.** -/
theorem matchPrefix_sound (h : matchPrefix items s = some (pieces, rest)) :
    List.Forall₂ Item.Fits items pieces ∧ pieces.flatten ++ rest = s := by
  obtain ⟨all, hall, heq⟩ := Option.map_eq_some_iff.mp h
  obtain ⟨hfits, rfl⟩ := matchItems_sound hall
  obtain ⟨pieces', rest', rfl, hpieces⟩ := exists_of_forall₂_concat hfits
  obtain ⟨rfl, rfl⟩ : pieces' = pieces ∧ rest' = rest := by
    simpa [List.getLastD_eq_getLast?] using heq
  exact ⟨hpieces, by simp⟩

section FindAll

/-- As many places as there are characters are enough. -/
lemma findAllFrom_eq (items : List (Item α)) {places : ℕ} (h : s.length ≤ places) :
    findAllFrom items places s = findAll items s := by
  induction places using Nat.strong_induction_on generalizing s with
  | h places ih =>
      cases s with
      | nil => cases places <;> rfl
      | cons c s =>
          obtain ⟨places, rfl⟩ : ∃ n, places = n + 1 := ⟨places - 1, by simp at h; omega⟩
          rw [List.length_cons, Nat.add_le_add_iff_right] at h
          have hsame : ∀ {rest : List α}, rest.length ≤ s.length →
              findAllFrom items places rest = findAllFrom items s.length rest := by
            intro rest hrest
            rw [ih places (Nat.lt_succ_self _) (hrest.trans h),
              ih s.length (Nat.lt_succ_of_le h) hrest]
          rw [findAll, List.length_cons, findAllFrom, findAllFrom, hsame le_rfl]
          cases matchPrefix items (c :: s) with
          | none => rfl
          | some found =>
              obtain ⟨pieces, rest⟩ := found
              by_cases hrest : rest.length ≤ s.length
              · simp only [if_pos hrest, hsame hrest]
              · simp only [if_neg hrest]

/-- Where nothing matches, the search goes on one place further. -/
lemma findAll_cons {c : α} (h : matchPrefix items (c :: s) = none) :
    findAll items (c :: s) = findAll items s := by
  rw [findAll, List.length_cons, findAllFrom, h]
  rfl

/-- A match is reported, and the search goes on after it. -/
lemma findAll_match (h : matchPrefix items s = some (pieces, rest)) (hlt : rest.length < s.length) :
    findAll items s = pieces :: findAll items rest := by
  cases s with
  | nil => cases hlt
  | cons c s =>
      rw [List.length_cons, Nat.lt_succ_iff] at hlt
      rw [findAll, List.length_cons, findAllFrom, h]
      simp only [if_pos hlt]
      rw [findAllFrom_eq items hlt]

/-- A part of the text in which no match begins. -/
lemma findAll_skip {skip : List α}
    (h : ∀ y, y ≠ [] → y <:+ skip → matchPrefix items (y ++ rest) = none) :
    findAll items (skip ++ rest) = findAll items rest := by
  induction skip with
  | nil => rfl
  | cons c skip ih =>
      have hnone : matchPrefix items (c :: (skip ++ rest)) = none :=
        h (c :: skip) (by simp) (List.suffix_refl _)
      rw [List.cons_append, findAll_cons hnone]
      exact ih fun y hne hsuffix => h y hne (hsuffix.trans (List.suffix_cons c skip))

end FindAll

/-! ## Templates -/

section Template

variable {inClass : α → Bool} {fields : List (List α × List α)}

/-- Texts with a run of the class after each of them. -/
def template (inClass : α → Bool) (texts : List (List α)) : List (Item α) :=
  texts.flatMap fun text => [.text text, .plus inClass]

/-- The groups of a match: the runs. -/
def runsOf : List (List α) → List (List α)
  | _ :: run :: pieces => run :: runsOf pieces
  | _ => []

/-- A text that fits a template. -/
def filled (fields : List (List α × List α)) : List α := fields.flatMap fun f => f.1 ++ f.2

omit [DecidableEq α] in
lemma runsOf_pieces (fields : List (List α × List α)) :
    runsOf (fields.flatMap fun f => [f.1, f.2]) = fields.map Prod.snd := by
  induction fields with
  | nil => rfl
  | cons f fields ih => exact congrArg (f.2 :: ·) ih

omit [DecidableEq α] in
lemma head_filled (htexts : ∀ f ∈ fields, ∃ c text, f.1 = c :: text ∧ inClass c = false)
    (hrest : ∀ c ∈ rest.head?, inClass c = false) :
    ∀ c ∈ (filled fields ++ rest).head?, inClass c = false := by
  cases fields with
  | nil => exact hrest
  | cons f fields =>
      obtain ⟨d, text, htext, hd⟩ := htexts f List.mem_cons_self
      intro c hc
      rw [filled, List.flatMap_cons, htext] at hc
      obtain rfl : d = c := by simpa using hc
      exact hd

/-- **A filled template is matched as it was filled**, if no text begins in the class. -/
theorem matchPrefix_template
    (hruns : ∀ f ∈ fields, f.2 ≠ [] ∧ ∀ c ∈ f.2, inClass c = true)
    (htexts : ∀ f ∈ fields, ∃ c text, f.1 = c :: text ∧ inClass c = false)
    (hrest : ∀ c ∈ rest.head?, inClass c = false) :
    matchPrefix (template inClass (fields.map Prod.fst)) (filled fields ++ rest)
      = some (fields.flatMap fun f => [f.1, f.2], rest) := by
  refine matchPrefix_of_items ?_
  induction fields with
  | nil => exact matchItems_any rest
  | cons f fields ih =>
      rw [List.forall_mem_cons] at hruns htexts
      have htail := matchItems_plus hruns.1 (head_filled htexts.2 hrest) (ih hruns.2 htexts.2)
      have hall := matchItems_text f.1 htail
      rw [filled, List.flatMap_cons, List.append_assoc, List.append_assoc]
      exact hall

lemma prefix_of_matchPrefix {text : List α} {more : List (Item α)}
    (h : matchPrefix (.text text :: more) s = some (pieces, rest)) : text <+: s := by
  obtain ⟨hfits, rfl⟩ := matchPrefix_sound h
  cases hfits with
  | cons htext hmore =>
      obtain rfl := Item.fits_text.mp htext
      rw [List.flatten_cons, List.append_assoc]
      exact List.prefix_append _ _

/-- **A line without the first text is passed over**, if the text cannot run over its end. -/
theorem findAll_line {text line : List α} {sep : α} {more : List (Item α)}
    (hsep : sep ∉ text) (h : ¬ text <:+: line) :
    findAll (.text text :: more) (line ++ sep :: rest) = findAll (.text text :: more) rest := by
  rw [List.append_cons]
  refine findAll_skip fun y hy hsuffix => ?_
  rw [Option.eq_none_iff_forall_ne_some]
  rintro ⟨pieces, rest'⟩ hsome
  obtain ⟨word, rfl, hword⟩ : ∃ word, y = word ++ [sep] ∧ word <:+ line := by
    obtain ⟨before, hsplit⟩ := hsuffix
    obtain ⟨word, last, rfl⟩ := (List.eq_nil_or_concat y).resolve_left hy
    rw [List.concat_eq_append, ← List.append_assoc] at hsplit
    obtain ⟨hline, hlast⟩ := List.append_inj' hsplit rfl
    exact ⟨word, by rw [List.concat_eq_append, hlast], before, hline⟩
  have hbegins := prefix_of_matchPrefix hsome
  -- the text and the word are prefixes of one text, so one of them is a prefix of the other
  rw [List.append_assoc] at hbegins
  rcases List.prefix_or_prefix_of_prefix hbegins (List.prefix_append word _) with hle | hle
  · exact h (hle.isInfix.trans hword.isInfix)
  · obtain ⟨more', rfl⟩ := hle
    rw [List.prefix_append_right_inj] at hbegins
    cases more' with
    | nil =>
        rw [List.append_nil] at h
        exact h hword.isInfix
    | cons c more' =>
        obtain ⟨rfl, -⟩ := List.cons_prefix_cons.mp hbegins
        exact hsep (by simp)

end Template

end PyRe
