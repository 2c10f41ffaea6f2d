import Ros2Zephyr.Core.PyDict
import Ros2Zephyr.Core.PyRe
import Ros2Zephyr.Resources.Prelink

/-!
# The readers of `.config`

`parse_config` of `tools/verify_resources.py` and the expression with which
`tools/admit_esp32c6.py` and `tools/esp32c6_resources.py` read the same file.

* `Setting` — a line for one symbol, in the three forms in which Kconfig writes it.
* `Unbroken` — `str.splitlines` ends a line at more characters than Kconfig does; a file without
  them has the same lines for both readers.
* `config_readers_exact` — what each of the two readers makes of a file of such lines.  They agree
  on numbers and on `y`; only the first knows the symbols that are not set, and only the second
  keeps the quotes of a string.
-/

namespace Ros2Zephyr

open PyRe

section Readers

/-- `value.strip('"')` -/
def stripQuotes (s : PyStr) : PyStr := ((s.dropWhile (· == 34)).reverse.dropWhile (· == 34)).reverse

/-- One turn of the loop over the lines. -/
def configAssignment (line : PyStr) : Option (PyStr × PyStr) :=
  if "CONFIG_" <+: line ∧ '='.toNat ∈ line then
    some (line.takeWhile (· != '='.toNat), stripQuotes ((line.dropWhile (· != '='.toNat)).drop 1))
  else if "# CONFIG_" <+: line ∧ " is not set" <:+ line then
    some ((line.take (line.length - 11)).drop 2, "n")
  else none

/-- `parse_config`, on the text of the file. -/
def parseConfig (text : PyStr) : Config :=
  PyDict.ofPairs ((splitLines text).filterMap configAssignment)

variable (letters : ℕ → Bool)

/-- `\w`; which letters there are beyond ASCII depends on the interpreter. -/
def isWord (c : ℕ) : Bool := PyStr.isWordChar c || decide (128 ≤ c) && letters c

/-- `^(CONFIG_\w+)=(.*)$` on one line. -/
def findAssignment (line : PyStr) : Option (PyStr × PyStr) :=
  match matchItems [.text "CONFIG_", .plus (isWord letters), .text ['='.toNat],
      .star isDot] line with
  | some [start, name, _, value] => some (start ++ name, value)
  | _ => none

/-- `dict(re.findall(r"^(CONFIG_\w+)=(.*)$", text, re.M))` -/
def findConfig (text : PyStr) : Config :=
  PyDict.ofPairs ((text.splitOn 10).filterMap (findAssignment letters))

end Readers

section Files

/-- A backslash before quotes and backslashes. -/
def escapeChars (s : PyStr) : PyStr := s.flatMap fun c => if c = 34 ∨ c = 92 then [92, c] else [c]

/-- How a symbol is set. -/
inductive ConfigValue
  | unset
  /-- `y`, `m` or a number -/
  | plain (value : PyStr)
  /-- a string -/
  | quoted (value : PyStr)

/-- The characters that stand for the value. -/
def ConfigValue.chars : ConfigValue → PyStr
  | unset => []
  | plain v => v
  | quoted v => v

def ConfigValue.isQuoted : ConfigValue → Bool
  | quoted _ => true
  | _ => false

/-- A character within a line of a text file; reading the file has turned every carriage return into
a newline. -/
def InLine (c : ℕ) : Prop := c ≠ 10 ∧ c ≠ 13

instance (c : ℕ) : Decidable (InLine c) := inferInstanceAs (Decidable (_ ∧ _))

/-- The line for one symbol. -/
structure Setting where
  name : PyStr
  value : ConfigValue
  name_ne : name ≠ []
  name_word : ∀ c ∈ name, PyStr.isWordChar c = true
  value_chars : ∀ c ∈ value.chars, InLine c
  unquoted : value.isQuoted = false → ∀ c ∈ value.chars, c ≠ 34

def Setting.key (s : Setting) : PyStr := "CONFIG_" ++ s.name

def Setting.line (s : Setting) : PyStr :=
  match s.value with
  | .unset => "# " ++ (s.key ++ " is not set")
  | .plain v => s.key ++ '='.toNat :: v
  | .quoted v => s.key ++ '='.toNat :: (34 :: (escapeChars v ++ [34]))

/-- A line without a symbol: empty, or a comment that does not say of a symbol that it is not
set. -/
structure Comment where
  text : PyStr
  chars : ∀ c ∈ text, InLine c
  form : text = [] ∨ text.head? = some '#'.toNat
  not_unset : ¬ ("# CONFIG_" <+: text ∧ " is not set" <:+ text)

inductive ConfigLine
  | comment (c : Comment)
  | setting (s : Setting)

def ConfigLine.text : ConfigLine → PyStr
  | comment c => c.text
  | setting s => s.line

def ConfigLine.setting? : ConfigLine → Option Setting
  | comment _ => none
  | setting s => some s

/-- The symbols of a file. -/
def settings (file : List ConfigLine) : List Setting := file.filterMap ConfigLine.setting?

/-- No line has a character at which `str.splitlines` ends a line. -/
def Unbroken (file : List ConfigLine) : Prop :=
  ∀ line ∈ file, ∀ c ∈ line.text, endsLine c = false

/-- The text of a file. -/
def configText (file : List ConfigLine) : PyStr := unlines (file.map ConfigLine.text)

/-- What `parse_config` reads for a symbol. -/
def ConfigValue.parsed : ConfigValue → PyStr
  | unset => "n"
  | plain v => v
  | quoted v => stripQuotes (34 :: (escapeChars v ++ [34]))

/-- What the expression finds for a symbol. -/
def ConfigValue.found : ConfigValue → Option PyStr
  | unset => none
  | plain v => some v
  | quoted v => some (34 :: (escapeChars v ++ [34]))

end Files

section Lines

variable (letters : ℕ → Bool) {s : Setting} {file : List ConfigLine}

/-- The characters of a key. -/
lemma key_chars (s : Setting) : ∀ c ∈ s.key, PyStr.isWordChar c = true := by
  rw [Setting.key, List.forall_mem_append]
  exact ⟨by decide, s.name_word⟩

lemma isWordChar_range {c : ℕ} (h : PyStr.isWordChar c = true) : 48 ≤ c ∧ c ≤ 122 ∧ c ≠ 61 := by
  have hchars : 'A'.toNat = 65 ∧ 'Z'.toNat = 90 ∧ 'a'.toNat = 97 ∧ 'z'.toNat = 122 ∧
      '0'.toNat = 48 ∧ '9'.toNat = 57 ∧ '_'.toNat = 95 := ⟨rfl, rfl, rfl, rfl, rfl, rfl, rfl⟩
  simp only [PyStr.isWordChar, PyStr.isLetter, PyStr.isDigit, PyStr.isUnderscore, PyStr.inRange,
    Bool.or_eq_true, Bool.and_eq_true, decide_eq_true_eq, beq_iff_eq] at h
  omega

lemma inLine_of_isWordChar {c : ℕ} (h : PyStr.isWordChar c = true) : InLine c := by
  have hrange := isWordChar_range h
  exact ⟨by omega, by omega⟩

lemma stripQuotes_of_not_mem {v : PyStr} (h : 34 ∉ v) : stripQuotes v = v := by
  have hdrop : ∀ u : PyStr, 34 ∉ u → u.dropWhile (· == 34) = u := by
    intro u hu
    cases u with
    | nil => rfl
    | cons c u =>
        refine List.dropWhile_cons_of_neg ?_
        rw [List.mem_cons, not_or] at hu
        simpa using fun hc : c = 34 => hu.1 hc.symm
  rw [stripQuotes, hdrop v h, hdrop v.reverse (by simpa using h), List.reverse_reverse]

/-- An assignment is cut at its first equals sign. -/
lemma configAssignment_set (s : Setting) (v : PyStr) :
    configAssignment (s.key ++ '='.toNat :: v) = some (s.key, stripQuotes v) := by
  have hkey : ∀ c ∈ s.key, (c != '='.toNat) = true := by
    intro c hc
    have hne := (isWordChar_range (key_chars s c hc)).2.2
    simpa using hne
  have hstart : "CONFIG_" <+: s.key ++ '='.toNat :: v :=
    (List.prefix_append _ s.name).trans (List.prefix_append _ _)
  have htake : (s.key ++ '='.toNat :: v).takeWhile (· != '='.toNat) = s.key := by
    rw [List.takeWhile_append_of_pos hkey, List.takeWhile_cons_of_neg (by decide), List.append_nil]
  have hdrop : (s.key ++ '='.toNat :: v).dropWhile (· != '='.toNat) = '='.toNat :: v := by
    rw [List.dropWhile_append_of_pos hkey, List.dropWhile_cons_of_neg (by decide)]
  rw [configAssignment, if_pos ⟨hstart, by simp⟩, htake, hdrop]
  rfl

/-- **What `parse_config` makes of a line.** -/
lemma configAssignment_line (s : Setting) :
    configAssignment s.line = some (s.key, s.value.parsed) := by
  unfold Setting.line
  cases hvalue : s.value with
  | unset =>
      set line := PyStr.ofString "# " ++ (s.key ++ " is not set")
      have hhash : ¬ "CONFIG_" <+: line := by
        rintro ⟨t, ht⟩
        exact absurd (List.cons.inj ht).1 (by decide)
      have hstart : "# CONFIG_" <+: line :=
        ⟨s.name ++ " is not set", by simp only [line, Setting.key, List.append_assoc]; rfl⟩
      have hline : line = "# " ++ s.key ++ " is not set" := (List.append_assoc ..).symm
      have hend : " is not set" <:+ line := ⟨"# " ++ s.key, hline.symm⟩
      have hlength : line.length - 11 = ("# " ++ s.key).length := by
        have hsuffix : (PyStr.ofString " is not set").length = 11 := rfl
        rw [hline, List.length_append, hsuffix]
        omega
      rw [configAssignment, if_neg fun h => hhash h.1, if_pos ⟨hstart, hend⟩, hlength, hline,
        List.take_left]
      rfl
  | plain v =>
      have hquotes := s.unquoted (by rw [hvalue]; rfl)
      rw [hvalue] at hquotes
      have hplain : 34 ∉ v := fun hmem => hquotes 34 hmem rfl
      simp only [configAssignment_set, ConfigValue.parsed, stripQuotes_of_not_mem hplain]
  | quoted v => simp only [configAssignment_set, ConfigValue.parsed]

lemma configAssignment_comment (c : Comment) : configAssignment c.text = none := by
  have hstart : ¬ "CONFIG_" <+: c.text := by
    rintro ⟨t, ht⟩
    rcases c.form with h | h
    · rw [h] at ht
      cases ht
    · rw [← ht] at h
      exact absurd (Option.some.inj h) (by decide)
  rw [configAssignment, if_neg fun h => hstart h.1, if_neg c.not_unset]

lemma findAssignment_set (s : Setting) {v : PyStr} (hv : ∀ c ∈ v, InLine c) :
    findAssignment letters (s.key ++ '='.toNat :: v) = some (s.key, v) := by
  have hdot : ∀ c ∈ v, isDot c = true := by
    intro c hc
    simpa [isDot] using (hv c hc).1
  have hword : ∀ c ∈ s.name, isWord letters c = true := by
    intro c hc
    rw [isWord, s.name_word c hc, Bool.true_or]
  have hstop : isWord letters '='.toNat = false := by
    rw [isWord, decide_eq_false (by decide)]
    rfl
  have hmatch : matchItems [.text "CONFIG_", .plus (isWord letters),
      .text ['='.toNat], .star isDot] ("CONFIG_" ++ (s.name ++ ('='.toNat :: v)))
      = some [PyStr.ofString "CONFIG_", s.name, ['='.toNat], v] := by
    refine matchItems_text _ (matchItems_plus ⟨s.name_ne, hword⟩ ?_ ?_)
    · intro c hc
      cases hc
      exact hstop
    · refine matchItems_text ['='.toNat] ?_
      have hend : matchItems [.star isDot] (v ++ []) = some [v] :=
        matchItems_star hdot (by simp) rfl
      rwa [List.append_nil] at hend
  rw [findAssignment, Setting.key, List.append_assoc, hmatch]

lemma escapeChars_chars {v : PyStr} (h : ∀ c ∈ v, InLine c) : ∀ c ∈ escapeChars v, InLine c := by
  intro c hc
  obtain ⟨d, hd, hc⟩ := List.mem_flatMap.mp hc
  split_ifs at hc
  · simp only [List.mem_cons, List.not_mem_nil, or_false] at hc
    rcases hc with rfl | rfl
    · decide
    · exact h c hd
  · rw [List.mem_singleton.mp hc]
    exact h d hd

/-- **What the expression makes of a line.** -/
lemma findAssignment_line (s : Setting) :
    findAssignment letters s.line = s.value.found.map (s.key, ·) := by
  have hchars := s.value_chars
  unfold Setting.line
  cases hvalue : s.value with
  | unset => rfl
  | plain v =>
      rw [hvalue] at hchars
      exact findAssignment_set letters s hchars
  | quoted v =>
      rw [hvalue] at hchars
      refine findAssignment_set letters s ?_
      simp only [List.forall_mem_append, List.forall_mem_cons]
      exact ⟨by decide, escapeChars_chars hchars, by decide, by simp⟩

lemma findAssignment_comment (c : Comment) : findAssignment letters c.text = none := by
  rcases c.form with h | h
  · rw [h]
    rfl
  · obtain ⟨rest, hrest⟩ := List.head?_eq_some_iff.mp h
    rw [hrest]
    rfl

lemma line_chars (s : Setting) : ∀ c ∈ s.line, InLine c := by
  have hkey : ∀ c ∈ s.key, InLine c := fun c hc => inLine_of_isWordChar (key_chars s c hc)
  have hchars := s.value_chars
  unfold Setting.line
  cases hvalue : s.value with
  | unset =>
      simp only [List.forall_mem_append]
      exact ⟨by decide, hkey, by decide⟩
  | plain v =>
      rw [hvalue] at hchars
      simp only [List.forall_mem_append, List.forall_mem_cons]
      exact ⟨hkey, by decide, hchars⟩
  | quoted v =>
      rw [hvalue] at hchars
      simp only [List.forall_mem_append, List.forall_mem_cons]
      exact ⟨hkey, by decide, by decide, escapeChars_chars hchars, by decide, by simp⟩

lemma text_chars (line : ConfigLine) : ∀ c ∈ line.text, InLine c := by
  cases line with
  | comment c => exact c.chars
  | setting s => exact line_chars s

end Lines

/-! ## Quoted values

A string is written with escapes.  `parse_config` only takes quotes off its ends, so what it reads
is the string exactly if nothing was escaped.
-/

section Quotes

variable {v : PyStr}

lemma escapeChars_append (u v : PyStr) : escapeChars (u ++ v) = escapeChars u ++ escapeChars v :=
  List.flatMap_append

lemma length_le_escapeChars (v : PyStr) : v.length ≤ (escapeChars v).length := by
  induction v with
  | nil => exact le_rfl
  | cons c v ih =>
      rw [escapeChars, List.flatMap_cons, List.length_append, List.length_cons]
      rw [escapeChars] at ih
      split_ifs <;> simp only [List.length_cons, List.length_nil] <;> omega

/-- Escaping leaves alone exactly the values without quotes and backslashes. -/
lemma escapeChars_eq_self_iff : escapeChars v = v ↔ ∀ c ∈ v, c ≠ 34 ∧ c ≠ 92 := by
  induction v with
  | nil => simp [escapeChars]
  | cons c v ih =>
      rw [List.forall_mem_cons, ← ih, escapeChars, List.flatMap_cons]
      by_cases hc : c = 34 ∨ c = 92
      · rw [if_pos hc]
        refine iff_of_false (fun h => ?_) fun h => ?_
        · have hlength := congrArg List.length h
          have hle := length_le_escapeChars v
          simp only [escapeChars, List.length_append, List.length_cons, List.length_nil]
            at hlength hle
          omega
        · rcases hc with hc | hc
          · exact h.1.1 hc
          · exact h.1.2 hc
      · rw [if_neg hc, List.singleton_append, List.cons.injEq]
        rw [not_or] at hc
        simp only [true_and, hc, ne_eq, not_false_eq_true, and_self, escapeChars]

/-- An escaped value does not start with a quote. -/
lemma head_escapeChars (v rest : PyStr) (hv : v ≠ []) :
    (escapeChars v ++ rest).dropWhile (· == 34) = escapeChars v ++ rest := by
  obtain ⟨c, v, rfl⟩ := List.exists_cons_of_ne_nil hv
  rw [escapeChars, List.flatMap_cons, List.append_assoc]
  by_cases hc : c = 34 ∨ c = 92
  · rw [if_pos hc]
    rfl
  · rw [if_neg hc]
    rw [not_or] at hc
    exact List.dropWhile_cons_of_neg (by simpa using hc.1)

/-- `strip` removes the quotes around a value, and one at its end with them. -/
lemma stripQuotes_quoted (v : PyStr) :
    stripQuotes (34 :: (escapeChars v ++ [34]))
      = ((escapeChars v).reverse.dropWhile (· == 34)).reverse := by
  rw [stripQuotes, List.dropWhile_cons_of_pos (by decide)]
  by_cases hv : v = []
  · subst hv
    rfl
  · rw [head_escapeChars v [34] hv, List.reverse_append, List.reverse_singleton,
      List.singleton_append, List.dropWhile_cons_of_pos (by decide)]

/-- **A string is read as it was set** exactly if it has no quotes and no backslashes. -/
lemma parsed_quoted_iff : ConfigValue.parsed (.quoted v) = v ↔ ∀ c ∈ v, c ≠ 34 ∧ c ≠ 92 := by
  rw [ConfigValue.parsed, stripQuotes_quoted]
  induction v using List.reverseRecOn with
  | nil => simp [escapeChars]
  | append_singleton u c _ =>
      have hsingle : escapeChars [c] = if c = 34 ∨ c = 92 then [92, c] else [c] := by
        simp [escapeChars]
      by_cases hquote : c = 34
      · -- the quote is stripped and its backslash stays
        subst hquote
        have hread : ((escapeChars (u ++ [34])).reverse.dropWhile (· == 34)).reverse
            = escapeChars u ++ [92] := by
          rw [escapeChars_append, hsingle, if_pos (.inl rfl)]
          simp
        rw [hread]
        refine iff_of_false (fun h => ?_) fun h => ?_
        · have hlast := List.append_inj_right' h rfl
          exact absurd hlast (by decide)
        · exact (h 34 (by simp)).1 rfl
      · have hend : ((escapeChars (u ++ [c])).reverse.dropWhile (· == 34)).reverse
            = escapeChars (u ++ [c]) := by
          rw [escapeChars_append, hsingle]
          split_ifs <;> simp [hquote]
        rw [hend, escapeChars_eq_self_iff]

end Quotes

/-! ## Files

Both readers go through the lines, each with its own idea of a line: `str.splitlines` knows more
ends of lines than the `$` of the expression.
-/

section Exact

variable (letters : ℕ → Bool) {file : List ConfigLine}

/-- The assignments that `parse_config` finds are the settings of the file. -/
lemma filterMap_configAssignment (file : List ConfigLine) :
    (file.map ConfigLine.text).filterMap configAssignment
      = (settings file).map fun s => (s.key, s.value.parsed) := by
  induction file with
  | nil => rfl
  | cons line file ih =>
      cases line with
      | comment c =>
          rw [List.map_cons, ConfigLine.text, List.filterMap_cons_none (configAssignment_comment c),
            ih]
          rfl
      | setting s =>
          rw [List.map_cons, ConfigLine.text,
            List.filterMap_cons_some (configAssignment_line s), ih]
          rfl

/-- Those that the expression finds are the settings that are set. -/
lemma filterMap_findAssignment (file : List ConfigLine) :
    (file.map ConfigLine.text).filterMap (findAssignment letters)
      = (settings file).filterMap fun s => s.value.found.map (s.key, ·) := by
  induction file with
  | nil => rfl
  | cons line file ih =>
      cases line with
      | comment c =>
          rw [List.map_cons, ConfigLine.text,
            List.filterMap_cons_none (findAssignment_comment letters c), ih]
          rfl
      | setting s =>
          have hsettings : settings (.setting s :: file) = s :: settings file := rfl
          rw [List.map_cons, ConfigLine.text, hsettings, List.filterMap_cons, List.filterMap_cons,
            findAssignment_line, ih]

lemma splitOn_unlines {lines : List PyStr} (h : ∀ line ∈ lines, ∀ c ∈ line, InLine c) :
    (unlines lines).splitOn 10 = lines ++ [[]] := by
  induction lines with
  | nil => rfl
  | cons line lines ih =>
      rw [List.forall_mem_cons] at h
      have hline : 10 ∉ line := fun hmem => (h.1 10 hmem).1 rfl
      rw [unlines_cons, List.splitOn_append_cons_self, List.splitOn_eq_singleton hline, ih h.2]
      rfl

/-- The items that the two readers put into their dictionaries. -/
lemma parseConfig_configText (hkeys : ((settings file).map Setting.key).Nodup)
    (hunbroken : Unbroken file) :
    parseConfig (configText file) = (settings file).map fun s => (s.key, s.value.parsed) := by
  have hlines : ∀ line ∈ file.map ConfigLine.text, ∀ c ∈ line, endsLine c = false :=
    List.forall_mem_map.mpr hunbroken
  rw [parseConfig, configText, splitLines_unlines hlines, filterMap_configAssignment,
    PyDict.ofPairs_eq_self]
  rwa [List.map_map]

lemma mem_findConfig_keys {key value : PyStr}
    (h : (key, value) ∈ (settings file).filterMap fun s => s.value.found.map (s.key, ·)) :
    ∃ s ∈ settings file, s.key = key ∧ s.value.found = some value := by
  obtain ⟨s, hs, hfound⟩ := List.mem_filterMap.mp h
  obtain ⟨v, hv, heq⟩ := Option.map_eq_some_iff.mp hfound
  cases heq
  exact ⟨s, hs, rfl, hv⟩

lemma nodup_found_keys (hkeys : ((settings file).map Setting.key).Nodup) :
    (((settings file).filterMap fun s => s.value.found.map (s.key, ·)).map Prod.fst).Nodup := by
  refine List.Nodup.sublist ?_ hkeys
  induction settings file with
  | nil => exact List.Sublist.refl _
  | cons s rest ih =>
      rw [List.filterMap_cons]
      cases s.value.found with
      | none => exact ih.cons _
      | some v => exact ih.cons_cons _

lemma findConfig_configText (hkeys : ((settings file).map Setting.key).Nodup) :
    findConfig letters (configText file)
      = (settings file).filterMap fun s => s.value.found.map (s.key, ·) := by
  have hlines : ∀ line ∈ file.map ConfigLine.text, ∀ c ∈ line, InLine c :=
    List.forall_mem_map.mpr fun line _ => text_chars line
  have hempty : findAssignment letters [] = none := rfl
  rw [findConfig, configText, splitOn_unlines hlines, List.filterMap_append,
    filterMap_findAssignment, List.filterMap_cons_none hempty, List.filterMap_nil, List.append_nil,
    PyDict.ofPairs_eq_self (nodup_found_keys hkeys)]

/-- A value of `parse_config` stands within a line. -/
lemma endsLine_of_configAssignment {line key value : PyStr}
    (hline : ∀ c ∈ line, endsLine c = false) (h : configAssignment line = some (key, value)) :
    ∀ c ∈ value, endsLine c = false := by
  unfold configAssignment at h
  split_ifs at h
  · cases h
    intro c hc
    refine hline c ?_
    rw [stripQuotes, List.mem_reverse] at hc
    have hstripped := (List.dropWhile_sublist _).subset hc
    rw [List.mem_reverse] at hstripped
    exact (List.dropWhile_sublist _).subset
      ((List.drop_sublist _ _).subset ((List.dropWhile_sublist _).subset hstripped))
  · cases h
    decide

/-- Whatever the text, no value of `parse_config` has a character that ends a line. -/
lemma endsLine_of_parseConfig {text key value : PyStr}
    (h : (parseConfig text).lookup key = some value) : ∀ c ∈ value, endsLine c = false := by
  have hmem := PyDict.mem_ofPairs ((PyDict.lookup_eq_some_iff PyDict.nodup_ofPairs).mp h)
  obtain ⟨line, hline, hassigned⟩ := List.mem_filterMap.mp hmem
  exact endsLine_of_configAssignment (endsLine_of_mem_splitLines hline) hassigned

/-- What the expression finds in a file. -/
lemma lookup_findConfig (hkeys : ((settings file).map Setting.key).Nodup) {key value : PyStr} :
    (findConfig letters (configText file)).lookup key = some value ↔
      ∃ s ∈ settings file, s.key = key ∧ s.value.found = some value := by
  rw [findConfig_configText letters hkeys, PyDict.lookup_eq_some_iff (nodup_found_keys hkeys)]
  refine ⟨mem_findConfig_keys, ?_⟩
  rintro ⟨s, hs, rfl, hv⟩
  exact List.mem_filterMap.mpr ⟨s, hs, by rw [hv]; rfl⟩

/-- What `parse_config` reads in an unbroken file. -/
lemma lookup_parseConfig (hkeys : ((settings file).map Setting.key).Nodup)
    (hunbroken : Unbroken file) {key value : PyStr} :
    (parseConfig (configText file)).lookup key = some value ↔
      ∃ s ∈ settings file, s.key = key ∧ s.value.parsed = value := by
  rw [parseConfig_configText hkeys hunbroken,
    PyDict.lookup_eq_some_iff (by rwa [List.map_map]), List.mem_map]
  simp only [Prod.mk.injEq]

/-- **The readers of `.config`.**  Take a file with one line for each symbol.  The expression of the
ESP32-C6 tools has exactly the symbols that are set, strings with their quotes.  If the file is
unbroken, `parse_config` has exactly the symbols of the file: `n` for one that is not set, and
otherwise its value, which for a string is the string that was set exactly if it has no quotes and
no backslashes.  In any file, it reads no string as it was set that `str.splitlines` breaks. -/
theorem config_readers_exact (letters : ℕ → Bool) (file : List ConfigLine)
    (hkeys : ((settings file).map Setting.key).Nodup) :
    (∀ s ∈ settings file,
      (findConfig letters (configText file)).lookup s.key = s.value.found) ∧
    (∀ key, (∀ s ∈ settings file, s.key ≠ key) →
      (findConfig letters (configText file)).lookup key = none) ∧
    (Unbroken file →
      (∀ s ∈ settings file,
        match s.value with
        | .unset => (parseConfig (configText file)).lookup s.key = some (PyStr.ofString "n")
        | .plain v => (parseConfig (configText file)).lookup s.key = some v
        | .quoted v => (parseConfig (configText file)).lookup s.key = some v ↔
            ∀ c ∈ v, c ≠ 34 ∧ c ≠ 92) ∧
      ∀ key, (∀ s ∈ settings file, s.key ≠ key) →
        (parseConfig (configText file)).lookup key = none) ∧
    ∀ s ∈ settings file, ∀ v, s.value = .quoted v →
      (parseConfig (configText file)).lookup s.key = some v → ∀ c ∈ v, endsLine c = false := by
  have hunique : ∀ s ∈ settings file, ∀ t ∈ settings file, t.key = s.key → t = s :=
    fun s hs t ht h => List.inj_on_of_nodup_map hkeys ht hs h
  refine ⟨fun s hs => ?_, fun key hkey => ?_, fun hunbroken => ⟨fun s hs => ?_, fun key hkey => ?_⟩,
    fun s _ v _ hread => endsLine_of_parseConfig hread⟩
  · refine Option.ext fun value => ?_
    rw [lookup_findConfig letters hkeys]
    constructor
    · rintro ⟨t, ht, hkey, hfound⟩
      rwa [hunique s hs t ht hkey] at hfound
    · intro hfound
      exact ⟨s, hs, rfl, hfound⟩
  · refine Option.eq_none_iff_forall_ne_some.mpr fun value h => ?_
    obtain ⟨s, hs, hs', -⟩ := (lookup_findConfig letters hkeys).mp h
    exact hkey s hs hs'
  · have hread : (parseConfig (configText file)).lookup s.key = some s.value.parsed :=
      (lookup_parseConfig hkeys hunbroken).mpr ⟨s, hs, rfl, rfl⟩
    cases hvalue : s.value with
    | unset =>
        rw [hvalue] at hread
        exact hread
    | plain v =>
        rw [hvalue] at hread
        exact hread
    | quoted v =>
        rw [hvalue] at hread
        dsimp only
        rw [hread, Option.some.injEq]
        exact parsed_quoted_iff
  · refine Option.eq_none_iff_forall_ne_some.mpr fun value h => ?_
    obtain ⟨s, hs, hs', -⟩ := (lookup_parseConfig hkeys hunbroken).mp h
    exact hkey s hs hs'

/-- The head of a file that Kconfig writes. -/
def generatedComment : Comment where
  text := "# Automatically generated file; DO NOT EDIT."
  chars := by decide
  form := by decide
  not_unset := by decide

def boardSetting : Setting where
  name := "BOARD"
  value := .quoted "native_sim"
  name_ne := by decide
  name_word := by decide
  value_chars := by decide
  unquoted := by decide

def stackSetting : Setting where
  name := "MAIN_STACK_SIZE"
  value := .plain "4096"
  name_ne := by decide
  name_word := by decide
  value_chars := by decide
  unquoted := by decide

def smpSetting : Setting where
  name := "SMP"
  value := .unset
  name_ne := by decide
  name_word := by decide
  value_chars := by decide
  unquoted := by decide

def sampleConfig : List ConfigLine :=
  [.comment generatedComment, .setting boardSetting, .setting stackSetting, .setting smpSetting]

def sampleConfigText : PyStr :=
  "# Automatically generated file; DO NOT EDIT.
CONFIG_BOARD=\"native_sim\"
CONFIG_MAIN_STACK_SIZE=4096
# CONFIG_SMP is not set
"

/-- A file with a comment, a string, a number and a symbol that is not set, as both readers see it.
-/
theorem config_readers_exact_sample : configText sampleConfig = sampleConfigText ∧
    (parseConfig sampleConfigText).lookup boardSetting.key
      = some (PyStr.ofString "native_sim") ∧
    (findConfig (fun _ => false) sampleConfigText).lookup boardSetting.key
      = some (PyStr.ofString "\"native_sim\"") ∧
    (parseConfig sampleConfigText).lookup stackSetting.key = some (PyStr.ofString "4096") ∧
    (findConfig (fun _ => false) sampleConfigText).lookup stackSetting.key
      = some (PyStr.ofString "4096") ∧
    (parseConfig sampleConfigText).lookup smpSetting.key = some (PyStr.ofString "n") ∧
    (findConfig (fun _ => false) sampleConfigText).lookup smpSetting.key = none := by
  have htext : configText sampleConfig = sampleConfigText := by decide
  have hkeys : ((settings sampleConfig).map Setting.key).Nodup := by decide
  have hunbroken : Unbroken sampleConfig := by
    simp only [Unbroken, sampleConfig, List.forall_mem_cons]
    exact ⟨by decide, by decide, by decide, by decide, by simp⟩
  have hboard : boardSetting ∈ settings sampleConfig := List.mem_cons_self
  have hstack : stackSetting ∈ settings sampleConfig := List.mem_cons_of_mem _ List.mem_cons_self
  have hsmp : smpSetting ∈ settings sampleConfig :=
    List.mem_cons_of_mem _ (List.mem_cons_of_mem _ List.mem_cons_self)
  obtain ⟨hfound, -, hparsed, -⟩ := config_readers_exact (fun _ => false) sampleConfig hkeys
  rw [htext] at hfound hparsed
  obtain ⟨hread, -⟩ := hparsed hunbroken
  exact ⟨htext, (hread _ hboard).mpr (by decide), hfound _ hboard, hread _ hstack, hfound _ hstack,
    hread _ hsmp, hfound _ hsmp⟩

end Exact

end Ros2Zephyr
