import Ros2Zephyr.Core.PyFind

/-!
# Lines of a log

A device writes what it measures as lines of the form `MARKER key=value key=value`; the host looks
for the fields with `([A-Za-z_][A-Za-z0-9_]*)=(c+)`, where the class `c` differs from tool to tool.

* `keyValue`, `findPairs` — the expression, and the pairs that `re.findall` returns for it.
* `LogLine` — a line of that form.
* `findPairs_text` — in such a line exactly the fields are found whose value is of the class.
-/

namespace PyRe

open PyStr (isWordChar)

/-- `[A-Za-z_]` -/
def isNameStart (c : ℕ) : Bool := PyStr.isLetter c || PyStr.isUnderscore c

/-- `([A-Za-z_][A-Za-z0-9_]*)=(c+)` -/
def keyValue (inClass : ℕ → Bool) : List (Item ℕ) :=
  [.one isNameStart, .star isWordChar, .text ['='.toNat], .plus inClass]

/-- The two groups of a match. -/
def pairOf : List PyStr → PyStr × PyStr
  | [first, name, _, value] => (first ++ name, value)
  | _ => ([], [])

/-- `re.findall` of the expression. -/
def findPairs (inClass : ℕ → Bool) (text : PyStr) : List (PyStr × PyStr) :=
  (findAll (keyValue inClass) text).map pairOf

/-- An identifier of ASCII letters, digits and underscores. -/
def isName : PyStr → Bool
  | [] => false
  | c :: name => isNameStart c && name.all isWordChar

/-- A field `key=value`. -/
structure LogField where
  key : PyStr
  value : PyStr
  key_name : isName key = true
  value_word : ∀ c ∈ value, isWordChar c = true
  value_ne : value ≠ []

def LogField.text (f : LogField) : PyStr := f.key ++ '='.toNat :: f.value

/-- A marker and fields, with spaces between them. -/
structure LogLine where
  marker : PyStr
  marker_word : ∀ c ∈ marker, isWordChar c = true
  fields : List LogField

/-- The fields as they follow a marker. -/
def fieldsText (fields : List LogField) : PyStr := fields.flatMap fun f => ' '.toNat :: f.text

def LogLine.text (line : LogLine) : PyStr := line.marker ++ fieldsText line.fields

/-- What holds of the characters of a line. -/
lemma LogLine.forall_mem_text {P : ℕ → Prop} (line : LogLine) (hmarker : ∀ c ∈ line.marker, P c)
    (hblank : P ' '.toNat) (hequals : P '='.toNat)
    (hfields : ∀ f ∈ line.fields, (∀ c ∈ f.key, P c) ∧ ∀ c ∈ f.value, P c) :
    ∀ c ∈ line.text, P c := by
  simp only [LogLine.text, fieldsText, LogField.text, List.mem_append, List.mem_flatMap,
    List.mem_cons]
  rintro c (hc | ⟨f, hf, rfl | hc | rfl | hc⟩)
  · exact hmarker c hc
  · exact hblank
  · exact (hfields f hf).1 c hc
  · exact hequals
  · exact (hfields f hf).2 c hc

section Match

variable {inClass : ℕ → Bool} {s rest : PyStr}

lemma isWordChar_of_isNameStart {c : ℕ} (h : isNameStart c = true) : isWordChar c = true := by
  rw [isNameStart, Bool.or_eq_true] at h
  rw [isWordChar, Bool.or_eq_true, Bool.or_eq_true]
  tauto

lemma exists_of_isName {key : PyStr} (h : isName key = true) :
    ∃ c name, key = c :: name ∧ isNameStart c = true ∧ ∀ d ∈ name, isWordChar d = true := by
  cases key with
  | nil => cases h
  | cons c name =>
      rw [isName, Bool.and_eq_true, List.all_eq_true] at h
      exact ⟨c, name, rfl, h.1, h.2⟩

lemma exists_of_matchPrefix {pieces : List PyStr}
    (h : matchPrefix (keyValue inClass) s = some (pieces, rest)) :
    ∃ c name d tail, s = (c :: name) ++ '='.toNat :: d :: tail ∧ isNameStart c = true ∧
      (∀ x ∈ c :: name, isWordChar x = true) ∧ inClass d = true := by
  obtain ⟨hfits, rfl⟩ := matchPrefix_sound h
  obtain _ | ⟨hfirst, _ | ⟨hname, _ | ⟨hequals, _ | ⟨hvalue, _ | _⟩⟩⟩⟩ := hfits
  rename_i name _ _
  obtain ⟨c, rfl, hc⟩ := Item.fits_one.mp hfirst
  replace hname := Item.fits_star.mp hname
  obtain rfl := Item.fits_text.mp hequals
  obtain ⟨hne, hclass⟩ := Item.fits_plus.mp hvalue
  obtain ⟨d, value, rfl⟩ := List.exists_cons_of_ne_nil hne
  refine ⟨c, name, d, value ++ rest, by simp, hc, ?_, hclass d List.mem_cons_self⟩
  rw [List.forall_mem_cons]
  exact ⟨isWordChar_of_isNameStart hc, hname⟩

/-- Nothing begins in a word that is not followed by `=`. -/
lemma matchPrefix_word {word : PyStr} (hword : ∀ c ∈ word, isWordChar c = true)
    (hrest : ∀ c ∈ rest.head?, isWordChar c = false ∧ c ≠ '='.toNat) :
    matchPrefix (keyValue inClass) (word ++ rest) = none := by
  rw [Option.eq_none_iff_forall_ne_some]
  rintro ⟨pieces, rest'⟩ hsome
  obtain ⟨c, name, d, tail, heq, -, hname, -⟩ := exists_of_matchPrefix hsome
  obtain ⟨-, rfl⟩ := run_unique heq hword hname (fun c hc => (hrest c hc).1)
    (by rintro c ⟨⟩; decide)
  exact (hrest _ rfl).2 rfl

/-- Nothing begins in a key whose value is not of the class. -/
lemma matchPrefix_key {word value : PyStr} (hword : ∀ c ∈ word, isWordChar c = true)
    (hvalue : ∀ c ∈ (value ++ rest).head?, inClass c = false) :
    matchPrefix (keyValue inClass) (word ++ '='.toNat :: (value ++ rest)) = none := by
  rw [Option.eq_none_iff_forall_ne_some]
  rintro ⟨pieces, rest'⟩ hsome
  obtain ⟨c, name, d, tail, heq, -, hname, hd⟩ := exists_of_matchPrefix hsome
  obtain ⟨-, htail⟩ := run_unique heq hword hname (by rintro c ⟨⟩; decide) (by rintro c ⟨⟩; decide)
  rw [List.cons.injEq] at htail
  rw [htail.2] at hvalue
  exact absurd hd (by simp [hvalue d rfl])

lemma matchPrefix_field (f : LogField) (hvalue : ∀ c ∈ f.value, inClass c = true)
    (hrest : ∀ c ∈ rest.head?, inClass c = false) :
    ∃ pieces, matchPrefix (keyValue inClass) (f.text ++ rest) = some (pieces, rest) ∧
      pairOf pieces = (f.key, f.value) := by
  obtain ⟨c, name, hkey, hc, hname⟩ := exists_of_isName f.key_name
  refine ⟨[[c], name, ['='.toNat], f.value], matchPrefix_of_items ?_, by rw [hkey]; rfl⟩
  have htext : f.text ++ rest = c :: (name ++ (['='.toNat] ++ (f.value ++ rest))) := by
    rw [LogField.text, hkey]
    simp
  rw [htext]
  refine matchItems_char hc (matchItems_star hname ?_ (matchItems_text _
    (matchItems_plus ⟨f.value_ne, hvalue⟩ hrest (matchItems_any rest))))
  rintro c ⟨⟩
  decide

end Match

section Lines

variable {inClass : ℕ → Bool}

lemma head_fieldsText (fields : List LogField) (c : ℕ) (h : c ∈ (fieldsText fields).head?) :
    c = ' '.toNat := by
  cases fields with
  | nil => cases h
  | cons f fields =>
      rw [fieldsText, List.flatMap_cons, List.cons_append, List.head?_cons] at h
      exact (Option.mem_some_iff.mp h).symm

/-- A word before the fields is passed over. -/
lemma findAll_word {word : PyStr} (hword : ∀ c ∈ word, isWordChar c = true)
    (fields : List LogField) :
    findAll (keyValue inClass) (word ++ fieldsText fields)
      = findAll (keyValue inClass) (fieldsText fields) := by
  refine findAll_skip fun y _ hsuffix => matchPrefix_word ?_ fun c hc => ?_
  · exact fun c hc => hword c (hsuffix.subset hc)
  · rw [head_fieldsText fields c hc]
    decide

/-- So is a field whose value does not start in the class. -/
lemma findAll_field_none (f : LogField) (hvalue : ∀ c ∈ f.value.head?, inClass c = false)
    (fields : List LogField) :
    findAll (keyValue inClass) (f.text ++ fieldsText fields)
      = findAll (keyValue inClass) (fieldsText fields) := by
  have hhead : (f.value ++ fieldsText fields).head? = f.value.head? :=
    List.head?_append_of_ne_nil _ f.value_ne
  have hkey : ∀ c ∈ f.key, isWordChar c = true := by
    obtain ⟨c, name, hkey, hc, hname⟩ := exists_of_isName f.key_name
    rw [hkey, List.forall_mem_cons]
    exact ⟨isWordChar_of_isNameStart hc, hname⟩
  rw [← findAll_word f.value_word fields, LogField.text, List.append_assoc, List.cons_append,
    List.append_cons]
  refine findAll_skip fun y hne hsuffix => ?_
  -- the place is in the key or right before the value
  obtain ⟨word, rfl, hword⟩ : ∃ word, y = word ++ ['='.toNat] ∧ ∀ c ∈ word, c ∈ f.key := by
    obtain ⟨before, hsplit⟩ := hsuffix
    obtain ⟨word, last, rfl⟩ := (List.eq_nil_or_concat y).resolve_left hne
    rw [List.concat_eq_append, ← List.append_assoc] at hsplit
    obtain ⟨hkeys, hlast⟩ := List.append_inj' hsplit rfl
    refine ⟨word, by rw [List.concat_eq_append, hlast], fun c hc => ?_⟩
    rw [← hkeys]
    exact List.mem_append_right _ hc
  rw [← List.append_cons]
  exact matchPrefix_key (fun c hc => hkey c (hword c hc)) (by rwa [hhead])

/-- **The fields that are found** are those with a value of the class. -/
theorem findPairs_fieldsText (hspace : inClass ' '.toNat = false) {fields : List LogField}
    (hclear : ∀ f ∈ fields, (∀ c ∈ f.value, inClass c = true) ∨
      ∀ c ∈ f.value.head?, inClass c = false) :
    findPairs inClass (fieldsText fields)
      = (fields.filter fun f => f.value.all inClass).map fun f => (f.key, f.value) := by
  induction fields with
  | nil => rfl
  | cons f fields ih =>
      rw [List.forall_mem_cons] at hclear
      replace ih := ih hclear.2
      have hblank : findAll (keyValue inClass) (fieldsText (f :: fields))
          = findAll (keyValue inClass) (f.text ++ fieldsText fields) := by
        rw [fieldsText, List.flatMap_cons, List.cons_append]
        refine findAll_cons ?_
        rw [← List.nil_append (' '.toNat :: _)]
        refine matchPrefix_word (by simp) fun c hc => ?_
        cases hc
        decide
      rw [findPairs, hblank]
      rcases hclear.1 with hvalue | hvalue
      · obtain ⟨pieces, hmatch, hpair⟩ := matchPrefix_field f hvalue
          fun c hc => by rw [head_fieldsText fields c hc]; exact hspace
        rw [findAll_match hmatch (by simp [LogField.text]; omega), List.map_cons, hpair,
          List.filter_cons_of_pos (by simpa using hvalue), List.map_cons, ← ih]
        rfl
      · have hall : f.value.all inClass = false := by
          obtain ⟨c, value, heq⟩ := List.exists_cons_of_ne_nil f.value_ne
          rw [heq] at hvalue ⊢
          simp [hvalue c rfl]
        rw [findAll_field_none f hvalue, List.filter_cons_of_neg (by simp [hall]), ← ih]
        rfl

/-- **In a line.** -/
theorem findPairs_text (hspace : inClass ' '.toNat = false) (line : LogLine)
    (hclear : ∀ f ∈ line.fields, (∀ c ∈ f.value, inClass c = true) ∨
      ∀ c ∈ f.value.head?, inClass c = false) :
    findPairs inClass line.text
      = (line.fields.filter fun f => f.value.all inClass).map fun f => (f.key, f.value) := by
  rw [← findPairs_fieldsText hspace hclear, findPairs, LogLine.text,
    findAll_word line.marker_word]
  rfl

end Lines

end PyRe
