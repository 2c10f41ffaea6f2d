import Ros2Zephyr.Core.JsonScan
import Ros2Zephyr.Core.PyRe

/-!
# What is written is read back

`json.dumps` sorts the members of every object and `json.loads` keeps their order, so the document
that is read is the one that was written with its members sorted.

* `wellRead_of_loads` — what `loads` returns is a value that a document can hold.
* `loads_dumps` — **such a value is read back from what `dumps` writes**, up to the order of the
  members.
-/

open PyStr

namespace Json

open Fallible

/-! ## Documents

`dumps` sorts and writes in one go.  Here it is taken apart: the document is sorted, and what is
sorted is written as it is.
-/

section Layout

mutual

/-- The document with the members of every object in the order of their keys. -/
def sorted : Json → Json
  | arr items => arr (sortedItems items)
  | obj fields => obj ((sortedFields fields).insertionSort fun a b => a.1 ≤ b.1)
  | value => value

def sortedItems : List Json → List Json
  | [] => []
  | item :: items => sorted item :: sortedItems items

def sortedFields : List (PyStr × Json) → List (PyStr × Json)
  | [] => []
  | (key, value) :: fields => (key, sorted value) :: sortedFields fields

end

lemma sortedItems_eq (items : List Json) : sortedItems items = items.map sorted := by
  induction items with
  | nil => rfl
  | cons item items ih => rw [sortedItems, ih, List.map_cons]

lemma sortedFields_eq (fields : List (PyStr × Json)) :
    sortedFields fields = fields.map fun f => (f.1, sorted f.2) := by
  induction fields with
  | nil => rfl
  | cons field fields ih => rw [sortedFields, ih, List.map_cons]

variable (floats : FloatRepr)

mutual

/-- `json.dumps(value, indent=2)`: the members stay as they are. -/
def layout (level : ℕ) : Json → PyStr
  | null => "null"
  | bool b => if b then "true" else "false"
  | int n => PyStr.ofInt n
  | float (.finite q) => floats.text q
  | float .infinity => "Infinity"
  | float .negInfinity => "-Infinity"
  | float .nan => "NaN"
  | str s => quoted s
  | arr items => bracketed "[" "]" level (layoutItems (level + 1) items)
  | obj fields => bracketed "\x7b" "\x7d" level (layoutFields (level + 1) fields)

def layoutItems (level : ℕ) : List Json → List PyStr
  | [] => []
  | item :: items => layout level item :: layoutItems level items

def layoutFields (level : ℕ) : List (PyStr × Json) → List PyStr
  | [] => []
  | (key, value) :: fields =>
      (quoted key ++ (": " ++ layout level value)) :: layoutFields level fields

end

lemma layoutItems_eq (level : ℕ) (items : List Json) :
    layoutItems floats level items = items.map (layout floats level) := by
  induction items with
  | nil => rfl
  | cons item items ih => rw [layoutItems, ih, List.map_cons]

lemma layoutFields_eq (level : ℕ) (fields : List (PyStr × Json)) :
    layoutFields floats level fields = fields.map (memberText (layout floats level)) := by
  induction fields with
  | nil => rfl
  | cons field fields ih =>
      rw [layoutFields, ih, List.map_cons]
      rfl

lemma dumpsItems_eq (level : ℕ) (items : List Json) :
    dumpsItems floats level items = items.map (dumps floats level) := by
  induction items with
  | nil => rfl
  | cons item items ih => rw [dumpsItems, ih, List.map_cons]

lemma dumpsFields_eq (level : ℕ) (fields : List (PyStr × Json)) :
    dumpsFields floats level fields
      = fields.map fun f => (f.1, memberText (dumps floats level) f) := by
  induction fields with
  | nil => rfl
  | cons field fields ih =>
      rw [dumpsFields, ih, List.map_cons]
      rfl

/-- Sorting members by their keys does not look at what they hold. -/
lemma insertionSort_map_keys {α β : Type} (fields : List (PyStr × α)) (g : PyStr × α → β) :
    (fields.map fun f => (f.1, g f)).insertionSort (fun a b => a.1 ≤ b.1)
      = (fields.insertionSort fun a b => a.1 ≤ b.1).map fun f => (f.1, g f) :=
  (List.map_insertionSort (fun a b => a.1 ≤ b.1) (fun a b => a.1 ≤ b.1) (fun f => (f.1, g f)) fields
    fun _ _ _ _ => Iff.rfl).symm

mutual

/-- **What is written with sorted keys** is the sorted document. -/
theorem dumps_eq_layout (level : ℕ) :
    (value : Json) → dumps floats level value = layout floats level (sorted value)
  | null => rfl
  | bool _ => rfl
  | int _ => rfl
  | float (.finite _) => rfl
  | float .infinity => rfl
  | float .negInfinity => rfl
  | float .nan => rfl
  | str _ => rfl
  | arr items => by
      rw [dumps, sorted, layout, layoutItems_eq, dumpsItems_eq, sortedItems_eq, List.map_map]
      have hitems := dumps_eq_layout_items (level + 1) items
      rw [List.map_congr_left hitems]
      rfl
  | obj fields => by
      rw [dumps, sorted, layout, layoutFields_eq, dumpsFields_eq, sortedFields_eq,
        insertionSort_map_keys, insertionSort_map_keys, List.map_map, List.map_map]
      have hfields := dumps_eq_layout_fields (level + 1) fields
      refine congrArg _ (List.map_congr_left fun f hf => ?_)
      show memberText _ f = memberText _ (f.1, sorted f.2)
      rw [memberText, memberText, hfields f ((List.mem_insertionSort _).mp hf)]

theorem dumps_eq_layout_items (level : ℕ) : (items : List Json) →
    ∀ item ∈ items, dumps floats level item = layout floats level (sorted item)
  | [] => by
      intro item h
      cases h
  | item :: items => by
      rw [List.forall_mem_cons]
      exact ⟨dumps_eq_layout level item, dumps_eq_layout_items level items⟩

theorem dumps_eq_layout_fields (level : ℕ) : (fields : List (PyStr × Json)) →
    ∀ f ∈ fields, dumps floats level f.2 = layout floats level (sorted f.2)
  | [] => by
      intro f h
      cases h
  | (key, value) :: fields => by
      rw [List.forall_mem_cons]
      exact ⟨dumps_eq_layout level value, dumps_eq_layout_fields level fields⟩

end

end Layout

section RoundTrip

variable {codec : FloatCodec} {s rest : PyStr}

lemma starts_of_head {c : ℕ} (h : isNumberChar c = true) (tail : PyStr) : Starts (c :: tail) := by
  refine ⟨c, tail, rfl, ?_, ?_⟩
  · cases hspace : isSpace c with
    | false => rfl
    | true =>
        simp only [isSpace, Bool.or_eq_true, beq_iff_eq] at hspace
        rcases hspace with ((rfl | rfl) | rfl) | rfl <;> exact absurd h (by decide)
  · rintro rfl
    exact absurd h (by decide)

lemma starts_of_readNumber {result : NumberText × PyStr} (h : readNumber s = some result) :
    Starts s := by
  obtain ⟨c, tail, rfl, hc⟩ := head_of_readNumber h
  refine starts_of_head ?_ tail
  rcases hc with rfl | hc
  · decide
  · exact isNumberChar_of_isDigit hc

lemma starts_bracketed {c : ℕ} (hc : isSpace c = false ∧ c ≠ 93) (right : PyStr) (level : ℕ)
    (items : List PyStr) : Starts (bracketed [c] right level items) := by
  unfold bracketed
  split
  · exact ⟨c, _, rfl, hc⟩
  · exact ⟨c, _, rfl, hc⟩

/-- Every value starts with something other than white space or a closing bracket. -/
lemma starts_layout (codec : FloatCodec) (level : ℕ) (value : Json) :
    Starts (layout codec.toFloatRepr level value) := by
  match value with
  | null => exact ⟨110, _, rfl, rfl, by decide⟩
  | bool true => exact ⟨116, _, rfl, rfl, by decide⟩
  | bool false => exact ⟨102, _, rfl, rfl, by decide⟩
  | int n => exact starts_of_readNumber (readNumber_ofInt n)
  | float (.finite q) =>
      obtain ⟨t, hread, -⟩ := codec.literal q
      exact starts_of_readNumber hread
  | float .infinity => exact ⟨73, _, rfl, rfl, by decide⟩
  | float .negInfinity => exact ⟨45, _, rfl, rfl, by decide⟩
  | float .nan => exact ⟨78, _, rfl, rfl, by decide⟩
  | str s =>
      rw [layout, ← List.append_nil (quoted s), quoted_append]
      exact ⟨34, _, rfl, rfl, by decide⟩
  | arr items =>
      rw [layout]
      exact starts_bracketed (c := 91) (by decide) _ _ _
  | obj fields =>
      rw [layout]
      exact starts_bracketed (c := 123) (by decide) _ _ _

/-- A bracket with nothing in it, or with the items on lines of their own. -/
lemma bracketed_append (left right level : ℕ) (items : List PyStr) (rest : PyStr) :
    bracketed [left] [right] level items ++ rest =
      if items = [] then left :: right :: rest
      else left :: (newline (level + 1) ++
        (joinItems (level + 1) items ++ (newline level ++ right :: rest))) := by
  unfold bracketed joinItems
  split <;> simp

lemma exists_fuel {s : PyStr} {fuel : ℕ} (h : fuelFor s ≤ fuel) : ∃ n, fuel = n + 1 :=
  ⟨fuel - 1, by unfold fuelFor at h; omega⟩

lemma scansAs_constant (word : PyStr × Json) (h : word ∈ constants) :
    ScansAs codec word.1 word.2 := by
  intro rest fuel _ hfuel
  obtain ⟨fuel, rfl⟩ := exists_fuel hfuel
  exact scanValue_constant h

/-- An array is read back if its items are. -/
lemma scansAs_arr {level : ℕ} {items : List Json}
    (h : ∀ v ∈ items, ScansAs codec (layout codec.toFloatRepr (level + 1) v) v) :
    ScansAs codec (layout codec.toFloatRepr level (arr items)) (arr items) := by
  intro rest fuel _ hfuel
  obtain ⟨fuel, rfl⟩ := exists_fuel hfuel
  have hleft : PyStr.ofString "[" = [91] := rfl
  have hright : PyStr.ofString "]" = [93] := rfl
  rw [layout, hleft, hright, layoutItems_eq, bracketed_append] at hfuel ⊢
  by_cases hempty : items = []
  · subst hempty
    rfl
  · have hmap : items.map (layout codec.toFloatRepr (level + 1)) ≠ [] := by simpa using hempty
    rw [if_neg hmap] at hfuel ⊢
    obtain ⟨item, items, rfl⟩ := List.exists_cons_of_ne_nil hempty
    have hstarts := starts_layout codec (level + 1)
    have hbody := skipSpace_joinItems (hstarts item) (level + 1)
      (items.map (layout codec.toFloatRepr (level + 1))) (newline level ++ 93 :: rest)
    have hless : fuelFor (joinItems (level + 1) (List.map (layout codec.toFloatRepr (level + 1))
        (item :: items)) ++ (newline level ++ 93 :: rest)) < fuel := by
      simp only [fuelFor, List.length_append, List.length_cons] at hfuel ⊢
      omega
    have hitems := scanItems_joinItems hempty h (fun v _ => hstarts v) (level + 1) level rest hless
    obtain ⟨c, tail, hitem, -, hc⟩ := hstarts item
    have hopen : (joinItems (level + 1) (List.map (layout codec.toFloatRepr (level + 1))
        (item :: items)) ++ (newline level ++ 93 :: rest)).head? ≠ some 93 := by
      cases items with
      | nil =>
          rw [List.map_cons, List.map_nil, joinItems_singleton, hitem]
          simpa using hc
      | cons next items =>
          rw [List.map_cons, List.map_cons, joinItems_cons, hitem]
          simpa using hc
    rw [scanValue_bracket, skipSpace_newline, List.map_cons, hbody, ← List.map_cons, if_neg hopen,
      hitems]
    rfl

/-- An object is read back if its values are.  Its keys are distinct, so none of the members is
dropped. -/
lemma scansAs_obj {level : ℕ} {fields : List (PyStr × Json)} (hkeys : (fields.map Prod.fst).Nodup)
    (hreadable : ∀ f ∈ fields, Readable f.1)
    (h : ∀ f ∈ fields, ScansAs codec (layout codec.toFloatRepr (level + 1) f.2) f.2) :
    ScansAs codec (layout codec.toFloatRepr level (obj fields)) (obj fields) := by
  intro rest fuel _ hfuel
  obtain ⟨fuel, rfl⟩ := exists_fuel hfuel
  have hleft : PyStr.ofString "\x7b" = [123] := rfl
  have hright : PyStr.ofString "\x7d" = [125] := rfl
  rw [layout, hleft, hright, layoutFields_eq, bracketed_append] at hfuel ⊢
  by_cases hempty : fields = []
  · subst hempty
    rfl
  · have hmap : fields.map (memberText (layout codec.toFloatRepr (level + 1))) ≠ [] := by
      simpa using hempty
    rw [if_neg hmap] at hfuel ⊢
    obtain ⟨field, fields, rfl⟩ := List.exists_cons_of_ne_nil hempty
    have hmember := starts_memberText (layout codec.toFloatRepr (level + 1)) field
    have hbody := skipSpace_joinItems hmember (level + 1)
      (fields.map (memberText (layout codec.toFloatRepr (level + 1))))
        (newline level ++ 125 :: rest)
    have hless : fuelFor (joinItems (level + 1) (List.map (memberText (layout codec.toFloatRepr
        (level + 1))) (field :: fields)) ++ (newline level ++ 125 :: rest)) < fuel := by
      simp only [fuelFor, List.length_append, List.length_cons] at hfuel ⊢
      omega
    have hmembers := scanMembers_joinItems hempty hreadable h
      (fun f _ => starts_layout codec (level + 1) f.2) (level + 1) level rest hless
    have hopen :
        (joinItems (level + 1) (List.map (memberText (layout codec.toFloatRepr (level + 1)))
        (field :: fields)) ++ (newline level ++ 125 :: rest)).head? ≠ some 125 := by
      cases fields with
      | nil =>
          rw [List.map_cons, List.map_nil, joinItems_singleton, memberText_append, quoted_append]
          simp
      | cons next fields =>
          rw [List.map_cons, List.map_cons, joinItems_cons, memberText_append, quoted_append]
          simp
    rw [scanValue_brace, skipSpace_newline, List.map_cons, hbody, ← List.map_cons, if_neg hopen,
      hmembers]
    simp only [Except.map, PyDict.ofPairs_eq_self hkeys]

/-- **Every value is read back from what is written for it.** -/
theorem scansAs_layout {value : Json} (h : WellRead codec value) (level : ℕ) :
    ScansAs codec (layout codec.toFloatRepr level value) value := by
  induction h generalizing level with
  | null => exact scansAs_constant ("null", .null) (by simp [constants])
  | bool b =>
      cases b with
      | true => exact scansAs_constant ("true", .bool true) (by simp [constants])
      | false => exact scansAs_constant ("false", .bool false) (by simp [constants])
  | int hn =>
      intro rest fuel hrest hfuel
      obtain ⟨fuel, rfl⟩ := exists_fuel hfuel
      exact scanValue_int hn hrest
  | @float x hx =>
      cases x with
      | finite q =>
          intro rest fuel hrest hfuel
          obtain ⟨fuel, rfl⟩ := exists_fuel hfuel
          exact scanValue_float (hx q rfl) hrest
      | infinity => exact scansAs_constant ("Infinity", .float .infinity) (by simp [constants])
      | negInfinity =>
          exact scansAs_constant ("-Infinity", .float .negInfinity) (by simp [constants])
      | nan => exact scansAs_constant ("NaN", .float .nan) (by simp [constants])
  | @str s hs =>
      intro rest fuel hrest hfuel
      obtain ⟨fuel, rfl⟩ := exists_fuel hfuel
      have htext := scanText_quoted hs rest
      rw [layout, scanValue, if_pos (by rw [quoted_append]; rfl), htext]
      rfl
  | arr _ ih => exact scansAs_arr fun v hv => ih v hv (level + 1)
  | obj hkeys hreadable _ ih => exact scansAs_obj hkeys hreadable fun f hf => ih f hf (level + 1)

mutual

/-- Sorting keeps what makes a document readable. -/
theorem wellRead_sorted : {value : Json} → WellRead codec value → WellRead codec (sorted value)
  | null, h => h
  | bool _, h => h
  | int _, h => h
  | float _, h => h
  | str _, h => h
  | arr items, h => by
      cases h with
      | arr h =>
          rw [sorted]
          exact .arr (wellRead_sortedItems h)
  | obj fields, h => by
      cases h with
      | obj hkeys hreadable h =>
          have hperm := List.perm_insertionSort (fun a b : PyStr × Json => a.1 ≤ b.1)
            (sortedFields fields)
          have hfirst : (sortedFields fields).map Prod.fst = fields.map Prod.fst := by
            rw [sortedFields_eq, List.map_map]
            rfl
          rw [sorted]
          refine .obj ?_ ?_ ?_
          · exact (hperm.map Prod.fst).nodup_iff.mpr (hfirst ▸ hkeys)
          · intro f hf
            have hmem := List.mem_map_of_mem (f := Prod.fst) (hperm.mem_iff.mp hf)
            rw [hfirst] at hmem
            obtain ⟨g, hg, hkey⟩ := List.mem_map.mp hmem
            rw [← hkey]
            exact hreadable g hg
          · intro f hf
            exact wellRead_sortedFields h f (hperm.mem_iff.mp hf)

theorem wellRead_sortedItems : {items : List Json} → (∀ v ∈ items, WellRead codec v) →
    ∀ v ∈ sortedItems items, WellRead codec v
  | [], _ => by
      intro v hv
      cases hv
  | item :: items, h => by
      rw [List.forall_mem_cons] at h
      rw [sortedItems, List.forall_mem_cons]
      exact ⟨wellRead_sorted h.1, wellRead_sortedItems h.2⟩

theorem wellRead_sortedFields : {fields : List (PyStr × Json)} →
    (∀ f ∈ fields, WellRead codec f.2) → ∀ f ∈ sortedFields fields, WellRead codec f.2
  | [], _ => by
      intro f hf
      cases hf
  | (key, value) :: fields, h => by
      rw [List.forall_mem_cons] at h
      rw [sortedFields, List.forall_mem_cons]
      exact ⟨wellRead_sorted h.1, wellRead_sortedFields h.2⟩

end

/-- **What `dumps` writes, `loads` reads**, with a line break at the end or without. -/
theorem loads_dumps {value : Json} (h : WellRead codec value) (rest : PyStr)
    (hrest : rest = [] ∨ rest = [10]) :
    loads codec (dumps codec.toFloatRepr 0 value ++ rest) = .ok (sorted value) := by
  have hscan : ScansAs codec (layout codec.toFloatRepr 0 (sorted value)) (sorted value) :=
    scansAs_layout (wellRead_sorted h) 0
  have hstarts := starts_layout codec 0 (sorted value)
  have hstops : Stops rest := by
    rcases hrest with rfl | rfl
    · exact stops_nil
    · exact stops_cons (by decide)
  have hend : skipSpace rest = [] := by
    rcases hrest with rfl | rfl <;> rfl
  have hascii : (dumps codec.toFloatRepr 0 value ++ rest).head? ≠ some 0xFEFF := by
    obtain ⟨c, tail, hcons, -⟩ := hstarts
    have hc : c < 128 := ascii_dumps codec.toFloatRepr 0 value c (by
      rw [dumps_eq_layout, hcons]
      exact List.mem_cons_self ..)
    rw [dumps_eq_layout, hcons]
    simp only [List.cons_append, List.head?_cons, ne_eq, Option.some.injEq]
    omega
  rw [loads, if_neg hascii, dumps_eq_layout, hstarts.skipSpace_append, hscan hstops le_rfl, ok_bind]
  simp only [hend, if_true]

end RoundTrip

/-! ## Documents in files

Reading a file translates the ends of lines.  What is written has no carriage return, so nothing
happens to it.
-/

section Files

variable {codec : FloatCodec}

lemma forall_mem_take_one {p q : ℕ → Bool} (h : ∀ c, p c = true → q c = true) {s : PyStr}
    (hs : s.head?.any p = true) : ∀ c ∈ s.take 1, q c = true := by
  cases s with
  | nil => simp
  | cons d s => simpa using h d hs

lemma isNumberChar_of_readNumber {s : PyStr} {t : NumberText} (h : readNumber s = some (t, [])) :
    ∀ c ∈ s, isNumberChar c = true := by
  have htext := text_of_readNumber h
  rw [List.append_nil] at htext
  obtain ⟨⟨digits, tail⟩, hdigits, heq⟩ := Option.map_eq_some_iff.mp h
  rw [Prod.mk.injEq] at heq
  have hrun : ∀ s : PyStr, ∀ c ∈ s.takeWhile isDigit, isNumberChar c = true :=
    fun s c hc => isNumberChar_of_isDigit (List.mem_takeWhile_imp hc)
  have hsign : ∀ s : PyStr, ∀ c ∈ (readSign s).1, isNumberChar c = true := by
    intro s
    unfold readSign
    cases s.head? == some '-'.toNat with
    | false => simp
    | true => exact List.forall_mem_singleton.mpr rfl
  have hdigit : ∀ c ∈ digits, isNumberChar c = true := by
    obtain ⟨-, hall, -⟩ := readDigits_cases hdigits
    exact fun c hc => isNumberChar_of_isDigit (hall c hc)
  have hfraction : ∀ s : PyStr, ∀ c ∈ (readFraction s).1, isNumberChar c = true := by
    intro s
    unfold readFraction
    cases s.head? == some '.'.toNat && s.tail.head?.any isDigit with
    | false => simp
    | true => exact List.forall_mem_cons.mpr ⟨rfl, hrun _⟩
  have hexponentSign : ∀ s : PyStr, ∀ c ∈ (readExponentSign s).1, isNumberChar c = true := by
    intro s
    unfold readExponentSign
    cases hs : s.head?.any isExponentSign with
    | false => simp
    | true => exact forall_mem_take_one (fun _ => isNumberChar_of_isExponentSign) hs
  have hexponent : ∀ s : PyStr, ∀ c ∈ (readExponent s).1, isNumberChar c = true := by
    intro s
    simp only [readExponent]
    cases hs : s.head?.any isExponentMark && (readExponentSign s.tail).2.head?.any isDigit with
    | false => simp
    | true =>
        rw [Bool.and_eq_true] at hs
        simp only [cond_true, List.forall_mem_append]
        exact ⟨⟨forall_mem_take_one (fun _ => isNumberChar_of_isExponentMark) hs.1,
          hexponentSign _⟩, hrun _⟩
  rw [← htext, ← heq.1]
  simp only [NumberText.text, List.forall_mem_append]
  exact ⟨hsign _, hdigit, hfraction _, hexponent _⟩

/-- A text that is not changed when it is read from a file: it has no carriage return. -/
def Kept (s : PyStr) : Prop := ∀ c ∈ s, c ≠ 13

instance : DecidablePred Kept := fun s => inferInstanceAs (Decidable (∀ c ∈ s, c ≠ 13))

lemma kept_append {s t : PyStr} : Kept (s ++ t) ↔ Kept s ∧ Kept t := List.forall_mem_append

lemma kept_of_isNumberChar {s : PyStr} (h : ∀ c ∈ s, isNumberChar c = true) : Kept s := by
  rintro c hc rfl
  exact absurd (h 13 hc) (by decide)

lemma kept_unicodeEscape (c : ℕ) : Kept (unicodeEscape c) := by
  have hdigit : ∀ n, hexDigit n ≠ 13 := by
    intro n
    have hchars : '0'.toNat = 48 ∧ 'a'.toNat = 97 := ⟨rfl, rfl⟩
    unfold hexDigit
    split <;> omega
  rw [unicodeEscape, kept_append]
  refine ⟨by decide, ?_⟩
  simp only [Kept, List.forall_mem_cons]
  exact ⟨hdigit _, hdigit _, hdigit _, hdigit _, by simp⟩

lemma kept_escapeChar (c : ℕ) : Kept (escapeChar c) := by
  rcases escapeChar_cases c with ⟨e, h, -, he⟩ | ⟨h, hc, -⟩ | ⟨h, -⟩ | ⟨h, -⟩
  · rw [h]
    refine List.forall_mem_cons.mpr ⟨by decide, List.forall_mem_singleton.mpr ?_⟩
    rintro rfl
    cases he
  · rw [h]
    exact List.forall_mem_singleton.mpr (by omega)
  · rw [h]
    exact kept_unicodeEscape c
  · rw [h]
    exact kept_append.mpr ⟨kept_unicodeEscape _, kept_unicodeEscape _⟩

lemma kept_quoted (s : PyStr) : Kept (quoted s) := by
  simp only [quoted, kept_append]
  refine ⟨by decide, fun c hc => ?_, by decide⟩
  obtain ⟨d, -, hd⟩ := List.mem_flatMap.mp hc
  exact kept_escapeChar d c hd

lemma kept_newline (level : ℕ) : Kept (newline level) := by
  refine List.forall_mem_cons.mpr ⟨by decide, fun c hc => ?_⟩
  rw [List.eq_of_mem_replicate hc]
  decide

lemma kept_bracketed {left right : PyStr} {level : ℕ} {items : List PyStr} (hleft : Kept left)
    (hright : Kept right) (hitems : ∀ s ∈ items, Kept s) :
    Kept (bracketed left right level items) := by
  unfold bracketed
  split
  · exact kept_append.mpr ⟨hleft, hright⟩
  · simp only [kept_append]
    refine ⟨hleft, kept_newline _, ?_, kept_newline _, hright⟩
    exact (PyStr.forall_mem_intercalate (kept_append.mpr ⟨by decide, kept_newline _⟩)).mpr hitems

/-- Nothing that is written has a carriage return: in a string it is escaped. -/
lemma kept_layout {value : Json} (h : WellRead codec value) (level : ℕ) :
    Kept (layout codec.toFloatRepr level value) := by
  induction h generalizing level with
  | null => rw [layout]; decide
  | bool b => cases b <;> (rw [layout]; decide)
  | @int n _ =>
      rw [layout]
      exact kept_of_isNumberChar (isNumberChar_of_readNumber (readNumber_ofInt n))
  | @float x _ =>
      cases x with
      | finite q =>
          obtain ⟨t, hread, -⟩ := codec.literal q
          rw [layout]
          exact kept_of_isNumberChar (isNumberChar_of_readNumber hread)
      | infinity => rw [layout]; decide
      | negInfinity => rw [layout]; decide
      | nan => rw [layout]; decide
  | @str s _ =>
      rw [layout]
      exact kept_quoted s
  | arr _ ih =>
      rw [layout, layoutItems_eq]
      refine kept_bracketed (by decide) (by decide) (List.forall_mem_map.mpr fun v hv => ?_)
      exact ih v hv (level + 1)
  | obj _ _ _ ih =>
      rw [layout, layoutFields_eq]
      refine kept_bracketed (by decide) (by decide) (List.forall_mem_map.mpr fun f hf => ?_)
      simp only [memberText, kept_append]
      exact ⟨kept_quoted f.1, by decide, ih f hf (level + 1)⟩

/-- **A document that is written to a file is read back from it.** -/
theorem loads_file {value : Json} (h : WellRead codec value) :
    loads codec (PyRe.universalNewlines (dumps codec.toFloatRepr 0 value ++ [10]))
      = .ok (sorted value) := by
  have hkept : 13 ∉ dumps codec.toFloatRepr 0 value ++ [10] := by
    rw [dumps_eq_layout]
    intro hmem
    exact kept_append.mpr ⟨kept_layout (wellRead_sorted h) 0, by decide⟩ 13 hmem rfl
  rw [PyRe.universalNewlines_eq_self hkept, loads_dumps h [10] (.inr rfl)]

end Files

/-! ## What is read can be written

The converse: every value that comes out of `loads` is one that `dumps` writes and `loads` reads
again.  The texts that are read come from a file and hold no surrogates, so a surrogate in a string
was escaped.
-/

section Read

variable {codec : FloatCodec} {s rest : PyStr} {c : ℕ}

/-- A row of digits is below the power of ten of its length. -/
lemma decimal_lt {digits : PyStr} (h : ∀ c ∈ digits, isDigit c = true) :
    decimal digits < 10 ^ digits.length := by
  have hdigit : ∀ c, isDigit c = true → c - '0'.toNat < 10 := by
    intro c hc
    have hzero : '0'.toNat = 48 := rfl
    have hnine : '9'.toNat = 57 := rfl
    simp only [isDigit, inRange, Bool.and_eq_true, decide_eq_true_eq] at hc
    omega
  induction digits using List.reverseRecOn with
  | nil => decide
  | append_singleton digits c ih =>
      rw [List.forall_mem_append, List.forall_mem_singleton] at h
      have hlast := hdigit c h.2
      have hrest := ih h.1
      rw [decimal, List.foldl_append, List.length_append, List.length_singleton, pow_succ]
      simp only [List.foldl_cons, List.foldl_nil]
      rw [decimal] at hrest
      omega

/-- A number has no more digits than its spelling. -/
lemma length_ofNat_decimal_le {digits : PyStr} (h : ∀ c ∈ digits, isDigit c = true)
    (hne : digits ≠ []) : (PyStr.ofNat (decimal digits)).length ≤ digits.length := by
  rw [PyStr.ofNat, List.length_map]
  exact (Nat.length_toDigits_le_iff (by decide) (List.length_pos_iff.mpr hne)).mpr (decimal_lt h)

/-- A text that was decoded: no surrogates, and nothing beyond the last code point. -/
def Decoded (s : PyStr) : Prop := ∀ c ∈ s, c.isValidChar

lemma Decoded.of_suffix (h : Decoded s) (hrest : rest <:+ s) : Decoded rest :=
  fun c hc => h c (hrest.subset hc)

lemma Decoded.universalNewlines (h : Decoded s) : Decoded (PyRe.universalNewlines s) := by
  fun_induction PyRe.universalNewlines s with
  | case1 => exact h
  | case2 rest ih =>
      rw [Decoded, List.forall_mem_cons, List.forall_mem_cons] at h
      exact List.forall_mem_cons.mpr ⟨h.2.1, ih h.2.2⟩
  | case3 c rest _ ih =>
      rw [Decoded, List.forall_mem_cons] at h
      refine List.forall_mem_cons.mpr ⟨?_, ih h.2⟩
      split
      · decide
      · exact h.1

lemma simpleEscape_lt {e : ℕ} (h : simpleEscape e = some c) : c < 128 := by
  unfold simpleEscape at h
  split_ifs at h with hsame <;> cases h <;> omega

section Strings

lemma not_surrogate (h : c < 0xD800 ∨ 0xDFFF < c) :
    isHighSurrogate c = false ∧ isLowSurrogate c = false := by
  simp only [isHighSurrogate, isLowSurrogate, Bool.and_eq_false_iff, decide_eq_false_iff_not]
  omega

/-- Where a character comes from: one that was not escaped as a unit is no surrogate. -/
lemma readChar_origin (hs : Decoded s) (h : readChar s = some (c, rest)) :
    c < 0x110000 ∧ ((isHighSurrogate c = false ∧ isLowSurrogate c = false) ∨
      ∃ tail, s = 92 :: 117 :: tail ∧ readHex tail = some (c, rest) ∧
        (isHighSurrogate c = true → readLowSurrogate rest = none)) := by
  rcases readChar_cases h with rfl | ⟨e, rfl, hescape⟩ | ⟨tail, unit, tail', rfl, hread, hjoin⟩
  · have hvalid := hs c (List.mem_cons_self ..)
    unfold Nat.isValidChar at hvalid
    exact ⟨by omega, .inl (not_surrogate (by omega))⟩
  · have hlt := simpleEscape_lt hescape
    exact ⟨by omega, .inl (not_surrogate (by omega))⟩
  · have hunit := (readHex_cases hread).1
    rcases joinSurrogates_cases hjoin with ⟨rfl, rfl, hnext⟩ | ⟨low, hhigh, hlow, hc⟩
    · exact ⟨by omega, .inr ⟨tail, rfl, hread, hnext⟩⟩
    · obtain ⟨-, -, -, hislow⟩ := readLowSurrogate_cases hlow
      simp only [isHighSurrogate, isLowSurrogate, Bool.and_eq_true, decide_eq_true_eq]
        at hhigh hislow
      exact ⟨by omega, .inl (not_surrogate (by omega))⟩

/-- After an escaped high surrogate no low one is read. -/
lemma not_low_after_high {d : ℕ} {tail : PyStr} (hs : Decoded s)
    (h : readChar s = some (c, rest)) (hhigh : isHighSurrogate c = true)
    (hnext : readChar rest = some (d, tail)) : isLowSurrogate d = false := by
  have hrest : Decoded rest := hs.of_suffix (consumed_readChar h).suffix
  rcases (readChar_origin hs h).2 with ⟨hnot, -⟩ | ⟨-, -, -, hnone⟩
  · rw [hnot] at hhigh
    cases hhigh
  · rcases (readChar_origin hrest hnext).2 with ⟨-, hlow⟩ | ⟨tail', rfl, hread, -⟩
    · exact hlow
    · have hnone := hnone hhigh
      cases hlow : isLowSurrogate d with
      | false => rfl
      | true => simp [readLowSurrogate, hread, Option.filter, hlow] at hnone

/-- **A string that is read can be written.** -/
lemma readable_of_scanString {fuel : ℕ} {cs : PyStr} (hs : Decoded s)
    (h : scanString fuel s = some (cs, rest)) : Readable cs := by
  induction fuel generalizing s cs with
  | zero => cases h
  | succ fuel ih =>
      rw [scanString] at h
      split_ifs at h
      · cases h
        exact ⟨by simp, List.IsChain.nil⟩
      · obtain ⟨⟨c, tail⟩, hchar, h⟩ := Option.bind_eq_some_iff.mp h
        obtain ⟨⟨ds, tail'⟩, hstring, h⟩ := Option.bind_eq_some_iff.mp h
        cases h
        have hrest := ih (hs.of_suffix (consumed_readChar hchar).suffix) hstring
        refine ⟨List.forall_mem_cons.mpr ⟨(readChar_origin hs hchar).1, hrest.points⟩, ?_⟩
        cases ds with
        | nil => exact List.IsChain.singleton _
        | cons d ds =>
            refine List.isChain_cons_cons.mpr ⟨?_, hrest.unpaired⟩
            rintro ⟨hhigh, hlow⟩
            cases fuel with
            | zero => cases hstring
            | succ fuel =>
                rw [scanString] at hstring
                split_ifs at hstring
                · cases hstring
                · obtain ⟨⟨d', tail''⟩, hnext, hstring⟩ := Option.bind_eq_some_iff.mp hstring
                  obtain ⟨⟨ds', _⟩, -, hstring⟩ := Option.bind_eq_some_iff.mp hstring
                  cases hstring
                  rw [not_low_after_high hs hchar hhigh hnext] at hlow
                  cases hlow

lemma readable_of_scanText {cs : PyStr} (hs : Decoded s) (h : scanText s = .ok (cs, rest)) :
    Readable cs := by
  obtain ⟨-, hstring⟩ := scanText_cases h
  exact readable_of_scanString (hs.of_suffix (List.tail_suffix s)) hstring

end Strings

lemma wellRead_of_readConstant {value : Json} (h : readConstant s = some (value, rest)) :
    WellRead codec value := by
  obtain ⟨word, hfind, hresult⟩ := Option.map_eq_some_iff.mp h
  cases hresult
  have hword := List.mem_of_find?_eq_some hfind
  simp only [constants, List.mem_cons, List.not_mem_nil, or_false] at hword
  rcases hword with rfl | rfl | rfl | rfl | rfl | rfl
  · exact .null
  · exact .bool true
  · exact .bool false
  · exact .float fun q hq => by cases hq
  · exact .float fun q hq => by cases hq
  · exact .float fun q hq => by cases hq

/-- A number that was read can be written: an integer was within the limit, a float is what its
spelling reads as. -/
lemma wellRead_of_readNumber {n : NumberText} {value : Json} (h : readNumber s = some (n, rest))
    (hvalue : numberValue codec n = .ok value) : WellRead codec value := by
  obtain ⟨⟨digits, tail⟩, hdigits, h⟩ := Option.map_eq_some_iff.mp h
  cases h
  obtain ⟨hne, hall, -⟩ := readDigits_cases hdigits
  have hlength := length_ofNat_decimal_le hall hne
  unfold numberValue at hvalue
  split_ifs at hvalue with hfloat hlimit hsign
  · cases hvalue
    exact .float fun q hq => codec.parse_text hq
  · cases hvalue
    refine .int ?_
    rw [Convertible, Int.natAbs_natCast]
    exact hlength.trans (not_lt.mp hlimit)
  · cases hvalue
    refine .int ?_
    rw [Convertible, Int.natAbs_neg, Int.natAbs_natCast]
    exact hlength.trans (not_lt.mp hlimit)

/-- What the scanner reads, value by value. -/
lemma scan_wellRead (fuel : ℕ) :
    (∀ {s rest value}, Decoded s → scanValue codec fuel s = .ok (value, rest) →
      WellRead codec value) ∧
    (∀ {s rest items}, Decoded s → scanItems codec fuel s = .ok (items, rest) →
      ∀ v ∈ items, WellRead codec v) ∧
    ∀ {s rest members}, Decoded s → scanMembers codec fuel s = .ok (members, rest) →
      ∀ f ∈ members, Readable f.1 ∧ WellRead codec f.2 := by
  induction fuel with
  | zero =>
      refine ⟨?_, ?_, ?_⟩ <;>
        · intro s rest value _ h
          cases h
  | succ fuel ih =>
      obtain ⟨hvalue, hitems, hmembers⟩ := ih
      refine ⟨?_, ?_, ?_⟩
      · intro s rest value hs h
        rcases scanValue_cases h with ⟨cs, htext, rfl⟩ | ⟨body, items, hbody, -, hscan, rfl⟩ |
          ⟨body, members, hbody, -, hscan, rfl⟩ | hatom
        · exact .str (readable_of_scanText hs htext)
        · have hdecoded := hs.of_suffix (hbody.trans (List.tail_suffix s))
          rcases hscan with ⟨rfl, -⟩ | hscan
          · exact .arr (by simp)
          · exact .arr (hitems hdecoded hscan)
        · have hdecoded := hs.of_suffix (hbody.trans (List.tail_suffix s))
          have hall : ∀ f ∈ members, Readable f.1 ∧ WellRead codec f.2 := by
            rcases hscan with ⟨rfl, -⟩ | hscan
            · simp
            · exact hmembers hdecoded hscan
          exact .obj PyDict.nodup_ofPairs (fun f hf => (hall f (PyDict.mem_ofPairs hf)).1)
            fun f hf => (hall f (PyDict.mem_ofPairs hf)).2
        · rcases scanAtom_cases hatom with hconstant | ⟨n, hnumber, hn⟩
          · exact wellRead_of_readConstant hconstant
          · exact wellRead_of_readNumber hnumber hn
      · intro s rest items hs h
        obtain ⟨item, tail, hscan, hend⟩ := scanItems_cases h
        have htail := hs.of_suffix ((scan_rest fuel).1 hscan).suffix
        rcases hend with ⟨rfl, -⟩ | ⟨tail', items', hcomma, hrest, rfl⟩
        · simpa using hvalue hs hscan
        · exact List.forall_mem_cons.mpr
            ⟨hvalue hs hscan, hitems (htail.of_suffix hcomma.suffix) hrest⟩
      · intro s rest members hs h
        obtain ⟨key, tail, body, value, tail', hkey, hcolon, hscan, hend⟩ := scanMembers_cases h
        have hbody := hs.of_suffix ((consumed_scanText hkey).trans hcolon).suffix
        have htail := hbody.of_suffix ((scan_rest fuel).1 hscan).suffix
        have hfirst := And.intro (readable_of_scanText hs hkey) (hvalue hbody hscan)
        rcases hend with ⟨rfl, -⟩ | ⟨tail'', members', hcomma, hrest, rfl⟩
        · simpa using hfirst
        · exact List.forall_mem_cons.mpr
            ⟨hfirst, hmembers (htail.of_suffix hcomma.suffix) hrest⟩

/-- **What `loads` returns can be written and read again.** -/
theorem wellRead_of_loads {value : Json} (hs : Decoded s) (h : loads codec s = .ok value) :
    WellRead codec value := by
  unfold loads at h
  split_ifs at h
  obtain ⟨⟨value', rest⟩, hscan, h⟩ := bind_eq_ok.mp h
  dsimp only at h
  split_ifs at h
  cases h
  exact (scan_wellRead _).1 (hs.of_suffix (skipSpace_suffix s)) hscan

end Read

end Json

/-! ## Members of a sorted document

Readers of a document look up members by their keys, which sorting does not change.
-/

namespace Fields

/-- The members in the order of their keys, with their values sorted as well. -/
def sorted (fields : Fields) : Fields :=
  (Json.sortedFields fields).insertionSort fun a b => a.1 ≤ b.1

lemma member_eq_some_iff {fields : Fields} (h : (fields.map Prod.fst).Nodup) {key : PyStr}
    {value : Json} : fields.member key = some value ↔ (key, value) ∈ fields :=
  PyDict.lookup_eq_some_iff h

/-- **A member is found in the sorted document too.** -/
lemma member_sorted {fields : Fields} (h : (fields.map Prod.fst).Nodup) (key : PyStr) :
    (sorted fields).member key = (fields.member key).map Json.sorted := by
  have hperm : (sorted fields).Perm (fields.map fun f => (f.1, Json.sorted f.2)) := by
    rw [sorted, Json.sortedFields_eq]
    exact List.perm_insertionSort _ _
  have hnodup : ((sorted fields).map Prod.fst).Nodup := by
    refine (hperm.map Prod.fst).nodup_iff.mpr ?_
    rwa [List.map_map, show Prod.fst ∘ (fun f : PyStr × Json => (f.1, Json.sorted f.2)) = Prod.fst
      from rfl]
  refine Option.ext fun value => ?_
  rw [member_eq_some_iff hnodup, hperm.mem_iff, List.mem_map, Option.map_eq_some_iff]
  constructor
  · rintro ⟨f, hf, heq⟩
    cases heq
    exact ⟨f.2, (member_eq_some_iff h).mpr hf, rfl⟩
  · rintro ⟨v, hv, rfl⟩
    exact ⟨(key, v), mem_of_member hv, rfl⟩

end Fields

namespace Json

lemma sorted_obj (fields : Fields) : sorted (.obj fields) = .obj (Fields.sorted fields) := by
  rw [sorted]
  rfl

lemma sorted_arr (items : List Json) : sorted (.arr items) = .arr (items.map sorted) := by
  rw [sorted, sortedItems_eq]

section Members

variable {codec : FloatCodec} {fields : Fields}

lemma WellRead.nodup (h : WellRead codec (.obj fields)) : (fields.map Prod.fst).Nodup := by
  cases h with
  | obj h _ _ => exact h

lemma WellRead.member {key : PyStr} {value : Json} (h : WellRead codec (.obj fields))
    (hvalue : fields.member key = some value) : WellRead codec value := by
  cases h with
  | obj _ _ h => exact h _ (Fields.mem_of_member hvalue)

lemma WellRead.key {key : PyStr} {value : Json} (h : WellRead codec (.obj fields))
    (hvalue : fields.member key = some value) : Readable key := by
  cases h with
  | obj _ h _ => exact h _ (Fields.mem_of_member hvalue)

/-- Plain text is read as it is written. -/
lemma readable_of_ascii {s : PyStr} (h : Ascii s) : Readable s := by
  refine ⟨fun c hc => (h c hc).trans (by decide), ?_⟩
  induction s with
  | nil => exact List.IsChain.nil
  | cons c cs ih =>
      cases cs with
      | nil => exact List.IsChain.singleton _
      | cons d ds =>
          refine List.isChain_cons_cons.mpr ⟨?_, ih fun e he => h e (List.mem_cons_of_mem _ he)⟩
          rintro ⟨hhigh, -⟩
          have hc := h c (List.mem_cons_self ..)
          simp only [isHighSurrogate, Bool.and_eq_true, decide_eq_true_eq] at hhigh
          omega

end Members

/-! ## Plain documents

A condition that can be evaluated on a given document.
-/

section Plain

mutual

/-- A document without floats whose texts are ASCII, whose integers can be converted and whose keys
are distinct. -/
def isPlain : Json → Bool
  | null => true
  | bool _ => true
  | int n => decide (Convertible n)
  | float _ => false
  | str s => decide (Ascii s)
  | arr items => plainItems items
  | obj fields => decide (fields.map Prod.fst).Nodup && plainFields fields

def plainItems : List Json → Bool
  | [] => true
  | item :: items => isPlain item && plainItems items

def plainFields : List (PyStr × Json) → Bool
  | [] => true
  | (key, value) :: fields => decide (Ascii key) && (isPlain value && plainFields fields)

end

variable {codec : FloatCodec}

mutual

/-- Plain documents can be read. -/
theorem wellRead_of_isPlain : {value : Json} → isPlain value = true → WellRead codec value
  | null, _ => .null
  | bool b, _ => .bool b
  | int _, h => .int (of_decide_eq_true h)
  | str _, h => .str (readable_of_ascii (of_decide_eq_true h))
  | arr items, h => .arr (wellRead_of_plainItems h)
  | obj fields, h => by
      rw [isPlain, Bool.and_eq_true] at h
      have hfields := wellRead_of_plainFields h.2
      exact .obj (of_decide_eq_true h.1) (fun f hf => (hfields f hf).1) fun f hf => (hfields f hf).2

theorem wellRead_of_plainItems : {items : List Json} → plainItems items = true →
    ∀ v ∈ items, WellRead codec v
  | [], _ => by
      intro v hv
      cases hv
  | item :: items, h => by
      rw [plainItems, Bool.and_eq_true] at h
      exact List.forall_mem_cons.mpr ⟨wellRead_of_isPlain h.1, wellRead_of_plainItems h.2⟩

theorem wellRead_of_plainFields : {fields : List (PyStr × Json)} → plainFields fields = true →
    ∀ f ∈ fields, Readable f.1 ∧ WellRead codec f.2
  | [], _ => by
      intro f hf
      cases hf
  | (key, value) :: fields, h => by
      rw [plainFields, Bool.and_eq_true, Bool.and_eq_true] at h
      exact List.forall_mem_cons.mpr ⟨⟨readable_of_ascii (of_decide_eq_true h.1),
        wellRead_of_isPlain h.2.1⟩, wellRead_of_plainFields h.2.2⟩

end

end Plain

end Json
