import Ros2Zephyr.Core.Lines
import Ros2Zephyr.Core.PyDict
import Ros2Zephyr.Resources.ConfigFile
import Ros2Zephyr.Resources.Inventory
import Ros2Zephyr.Resources.LinkedStacks

/-!
# The readers of the memory configuration

The table of regions at the head of a linker map, as `parse_memory_regions` of
`tools/verify_resources.py` and `inventory` of `tools/esp32c6_resources.py` read it.  The first
takes every region of the table line by line; the second searches the text for the two RAM regions
of the C6, with an expression whose white space may run over the end of a line.

* `MemoryTable` — a map with its table, as the linker prints it: rows for the regions, and lines
  such as the header and the row of the default region that neither reader takes.
* `map_readers_exact` — the first reader leaves out a row with more than one word of attributes, the
  second does not look at them; the two agree exactly if no RAM region is such a row.
-/

namespace Ros2Zephyr

open Fallible PyRe PyRe.Item PyStr

section Readers

/-- `text.split(marker, 1)`, if the marker occurs. -/
def splitOnce (marker text : PyStr) : Option (PyStr × PyStr) :=
  (Lines.find marker text).map fun i => (text.take i, text.drop (i + marker.length))

/-- `text.split(marker, 1)[0]` -/
def beforeMarker (marker text : PyStr) : PyStr := ((splitOnce marker text).map Prod.fst).getD text

/-- `line.strip()` -/
def stripSpaces (s : PyStr) : PyStr := ((s.dropWhile isSpace).reverse.dropWhile isSpace).reverse

/-- `^([^\s*][^\s]*)\s+0x([0-9a-fA-F]+)\s+0x([0-9a-fA-F]+)` -/
def regionItems : List (Item ℕ) :=
  [one fun c => isNonSpace c && c != '*'.toNat, star isNonSpace, plus isSpace, text "0x",
    plus isHexDigit, plus isSpace, text "0x", plus isHexDigit]

/-- The expression with `(?:\s+\S+)?$`.  The number of words decides between the two cases. -/
def matchRegion (line : PyStr) : Option (List PyStr) :=
  (matchItems (regionItems ++ [plus isSpace, plus isNonSpace]) line).or
    (matchItems regionItems line)

/-- One turn of the loop over the lines. -/
def regionLine (line : PyStr) : Option (PyStr × Region) :=
  (matchRegion (stripSpaces line)).map fun pieces =>
    (pieces.getD 0 [] ++ pieces.getD 1 [],
      ⟨hexValue (pieces.getD 4 []), hexValue (pieces.getD 7 [])⟩)

def memoryMarker : PyStr := "Memory Configuration"
def mapMarker : PyStr := "Linker script and memory map"

/-- `parse_memory_regions` -/
def parseMemoryRegions (mapText : PyStr) : Regions :=
  match splitOnce memoryMarker mapText with
  | some (_, after) =>
      if mapMarker <:+: mapText then
        PyDict.ofPairs ((splitLines (beforeMarker mapMarker after)).filterMap regionLine)
      else []
  | none => []

variable (unicode : PyStr.UnicodeData) (letters : ℕ → Bool)

/-- The names that the inventory asks for. -/
def ramNames : List PyStr := ["sram0_0_seg", "lp_ram_seg"]

/-- `name\s+(0x\w+)\s+(0x\w+)`, with the rest of the text as the last piece. -/
def ramItems (name : PyStr) : List (Item ℕ) :=
  [text name, plus isSpace, text "0x", plus (isWord letters), plus isSpace, text "0x",
    plus (isWord letters), star fun _ => true]

/-- A RAM region at the start of a text: its groups, and the length of the match. -/
def matchRam (s : PyStr) : Option ((PyStr × PyStr × PyStr) × ℕ) :=
  (ramNames.findSome? fun name => matchItems (ramItems letters name) s).map fun pieces =>
    ((pieces.getD 0 [], pieces.getD 2 [] ++ pieces.getD 3 [], pieces.getD 5 [] ++ pieces.getD 6 []),
      (pieces.take 7).flatten.length)

/-- `re.findall(r"^(sram0_0_seg|lp_ram_seg)\s+(0x\w+)\s+(0x\w+)", text, re.M)`: `skip` characters of
the last match are left, and `start` tells whether a line begins here. -/
def findRam : ℕ → Bool → PyStr → List (PyStr × PyStr × PyStr)
  | _, _, [] => []
  | skip + 1, _, c :: s => findRam skip (c == 10) s
  | 0, start, c :: s =>
      match if start then matchRam letters (c :: s) else none with
      | some (groups, length) => groups :: findRam (length - 1) (c == 10) s
      | none => findRam 0 (c == 10) s

/-- `int(digits, 16)` of a word with its `0x`. -/
def hexWord (word : PyStr) : Except PyException ℕ :=
  match readLiteral (unicode.toAscii word) with
  | some n => .ok n
  | none => .error (.valueError "invalid literal for int() with base 16")

/-- The loop over what was found. -/
def ramRegions (found : List (PyStr × PyStr × PyStr)) : Except PyException Regions := do
  let pairs ← found.mapM fun (name, origin, length) => do
    let origin ← hexWord unicode origin
    let length ← hexWord unicode length
    .ok (name, (⟨origin, length⟩ : Region))
  .ok (PyDict.ofPairs pairs)

/-- The regions of `inventory`, before the sections are put into them. -/
def inventoryRegions (mapText : PyStr) : Except PyException Regions :=
  match splitOnce (memoryMarker ++ [10]) mapText with
  | some (_, after) => do
      let regions ← ramRegions unicode (findRam letters 0 true (beforeMarker "Linker script" after))
      if ramNames.all fun name => (regions.lookup name).isSome then .ok regions
      else .error (.valueError "Unrecognized C6 linker regions")
  | none => .error .indexError

end Readers

section Format

/-- The blanks between two columns. -/
def Gap := { s : PyStr // s ≠ [] ∧ ∀ c ∈ s, c = 32 }

/-- A row of the table.  The linker prints the attributes that a section must have and those that it
must not have as two words. -/
structure RegionRow where
  name : SymbolName
  notDefault : name.val.head? ≠ some '*'.toNat
  gap : Gap
  origin : HexDigits
  gap' : Gap
  length : HexDigits
  attributes : List (Gap × SymbolName)

def RegionRow.endText (r : RegionRow) : PyStr :=
  r.attributes.flatMap fun word => word.1.val ++ word.2.val

/-- The three columns that are read, before a text. -/
def RegionRow.columns (r : RegionRow) (tail : PyStr) : PyStr :=
  r.name.val ++ (r.gap.val ++ ("0x" ++ (r.origin.val ++ (r.gap'.val ++
    ("0x" ++ (r.length.val ++ tail))))))

def RegionRow.line (r : RegionRow) : PyStr := r.columns r.endText

def RegionRow.region (r : RegionRow) : Region := ⟨hexValue r.origin, hexValue r.length⟩

/-- At most one word of attributes. -/
def RegionRow.narrow (r : RegionRow) : Bool := decide (r.attributes.length ≤ 1)

/-- A line that is not the row of a region: a blank one, the header or the default region. -/
structure OtherLine where
  text : PyStr
  chars : ∀ c ∈ text, endsLine c = false
  not_region : regionLine text = none
  not_ram : ∀ name ∈ ramNames, ¬ name <+: text

inductive TableLine
  | row (r : RegionRow)
  | other (line : OtherLine)

def TableLine.text : TableLine → PyStr
  | row r => r.line
  | other line => line.text

def TableLine.row? : TableLine → Option RegionRow
  | row r => some r
  | other _ => none

/-- A map: the lines between the two markers, and what the linker prints before and after them. -/
def mapWithTable (preamble : PyStr) (lines : List TableLine) (postamble : PyStr) : PyStr :=
  preamble ++ (memoryMarker ++ ([10] ++ (unlines (lines.map TableLine.text)
    ++ (mapMarker ++ postamble))))

/-- **A map with its table**, in which the markers are first where they are printed. -/
structure MemoryTable where
  preamble : PyStr
  lines : List TableLine
  postamble : PyStr
  names_nodup : ((lines.filterMap TableLine.row?).map fun r => r.name.val).Nodup
  marker_first : Lines.find memoryMarker (mapWithTable preamble lines postamble)
    = some preamble.length
  end_first : Lines.find "Linker script"
      (unlines (lines.map TableLine.text) ++ (mapMarker ++ postamble))
    = some (unlines (lines.map TableLine.text)).length

/-- The regions of rows. -/
def regionsOf (rows : List RegionRow) : Regions := rows.map fun r => (r.name.val, r.region)

namespace MemoryTable

variable (table : MemoryTable)

def text : PyStr := mapWithTable table.preamble table.lines table.postamble

/-- The text of the table. -/
def body : PyStr := unlines (table.lines.map TableLine.text)

def rows : List RegionRow := table.lines.filterMap TableLine.row?

/-- The printed regions. -/
def regions : Regions := regionsOf table.rows

/-- Those with at most one word of attributes. -/
def narrowRegions : Regions := regionsOf (table.rows.filter RegionRow.narrow)

end MemoryTable

end Format

section Rows

lemma Gap.blanks (gap : Gap) : gap.val ≠ [] ∧ ∀ c ∈ gap.val, isSpace c = true := by
  refine ⟨gap.prop.1, fun c hc => ?_⟩
  rw [gap.prop.2 c hc]
  decide

lemma endsLine_of_isNonSpace {c : ℕ} (h : isNonSpace c = true) : endsLine c = false := by
  simp only [isNonSpace, isSpace, Bool.not_eq_true', Bool.or_eq_false_iff, decide_eq_false_iff_not,
    beq_eq_false_iff_ne] at h
  simp only [endsLine, Bool.or_eq_false_iff, decide_eq_false_iff_not, beq_eq_false_iff_ne]
  omega

lemma endsLine_of_isHexDigit {c : ℕ} (h : isHexDigit c = true) : endsLine c = false :=
  endsLine_of_isNonSpace (by simp [isNonSpace, isSpace_of_isHexDigit h])

lemma endsLine_blank {gap : Gap} : ∀ c ∈ gap.val, endsLine c = false := by
  intro c hc
  rw [gap.prop.2 c hc]
  decide

lemma endsLine_endText (r : RegionRow) : ∀ c ∈ r.endText, endsLine c = false := by
  simp only [RegionRow.endText, List.forall_mem_flatMap, List.forall_mem_append]
  exact fun word _ => ⟨endsLine_blank, fun c hc => endsLine_of_isNonSpace (word.2.prop.2 c hc)⟩

/-- A word of attributes starts with a blank. -/
lemma endText_cons {r : RegionRow} {word : Gap × SymbolName} {words : List (Gap × SymbolName)}
    (h : r.attributes = word :: words) :
    r.endText = word.1.val ++ (word.2.val ++ words.flatMap fun word =>
      word.1.val ++ word.2.val) := by
  rw [RegionRow.endText, h, List.flatMap_cons, List.append_assoc]

lemma row_chars (r : RegionRow) : ∀ c ∈ r.line, endsLine c = false := by
  simp only [RegionRow.line, RegionRow.columns, List.forall_mem_append]
  exact ⟨fun c hc => endsLine_of_isNonSpace (r.name.prop.2 c hc), endsLine_blank, by decide,
    fun c hc => endsLine_of_isHexDigit (r.origin.prop.2 c hc), endsLine_blank, by decide,
    fun c hc => endsLine_of_isHexDigit (r.length.prop.2 c hc), endsLine_endText r⟩

lemma tableLine_chars (line : TableLine) : ∀ c ∈ line.text, endsLine c = false := by
  cases line with
  | row r => exact row_chars r
  | other line => exact line.chars

/-- A row starts and ends with something other than white space. -/
lemma stripSpaces_row (r : RegionRow) : stripSpaces r.line = r.line := by
  have hends : ∀ s : PyStr, s ≠ [] → (∀ c ∈ s.head?, isSpace c = false) →
      (∀ c ∈ s.getLast?, isSpace c = false) → stripSpaces s = s := by
    intro s hs hfirst hlast
    have hdrop : ∀ t : PyStr, (∀ c ∈ t.head?, isSpace c = false) → t.dropWhile isSpace = t := by
      intro t ht
      cases t with
      | nil => rfl
      | cons c t => exact List.dropWhile_cons_of_neg (by simp [ht c rfl])
    rw [stripSpaces, hdrop s hfirst, hdrop s.reverse (by rwa [List.head?_reverse]),
      List.reverse_reverse]
  have hlast : ∀ {p : ℕ → Bool} {front run : PyStr}, run ≠ [] → (∀ c ∈ run, p c = true) →
      (∀ c, p c = true → isSpace c = false) → ∀ c ∈ (front ++ run).getLast?, isSpace c = false := by
    intro p front run hrun hall hp c hc
    rw [List.getLast?_append_of_ne_nil _ hrun] at hc
    exact hp c (hall c (List.mem_of_getLast? hc))
  refine hends _ ?_ ?_ ?_
  · rw [RegionRow.line, RegionRow.columns]
    simp [r.name.prop.1]
  · rw [RegionRow.line, RegionRow.columns]
    exact head_append r.name.prop fun _ => not_space_of_nonSpace
  · rw [RegionRow.line, RegionRow.columns, RegionRow.endText]
    rcases List.eq_nil_or_concat r.attributes with h | ⟨words, word, h⟩
    · rw [h]
      simp only [List.flatMap_nil, List.append_nil, ← List.append_assoc]
      exact hlast r.length.prop.1 r.length.prop.2 fun _ => isSpace_of_isHexDigit
    · rw [h]
      simp only [List.concat_eq_append, List.flatMap_append, List.flatMap_singleton,
        ← List.append_assoc]
      exact hlast word.2.prop.1 word.2.prop.2 fun _ => not_space_of_nonSpace

/-- The columns of a row, with anything that can follow the last number. -/
lemma matchItems_columns (r : RegionRow) {items : List (Item ℕ)} {tail : PyStr}
    {pieces : List PyStr} (htail : ∀ c ∈ tail.head?, isHexDigit c = false)
    (h : matchItems items tail = some pieces) :
    ∃ first rest, first ++ rest = r.name.val ∧ matchItems (regionItems ++ items) (r.columns tail)
      = some ([first, rest, r.gap.val, "0x", r.origin.val, r.gap'.val,
          "0x", r.length.val] ++ pieces) := by
  obtain ⟨c, rest, hname⟩ := List.exists_cons_of_ne_nil r.name.prop.1
  have hall := r.name.prop.2
  have hdefault := r.notDefault
  rw [RegionRow.columns, hname]
  rw [hname] at hall hdefault
  rw [List.forall_mem_cons] at hall
  have hfirst : (isNonSpace c && c != '*'.toNat) = true := by
    rw [hall.1, Bool.true_and]
    simpa using hdefault
  have hnumbers := matchItems_plus r.gap.blanks (zero_not_space _) (matchItems_text
    "0x" (matchItems_plus r.origin.prop
      (head_append r.gap'.blanks fun _ => isHexDigit_of_isSpace)
      (matchItems_plus r.gap'.blanks (zero_not_space _) (matchItems_text "0x"
        (matchItems_plus r.length.prop htail h)))))
  exact ⟨[c], rest, rfl, matchItems_char hfirst (matchItems_star hall.2
    (head_append r.gap.blanks fun _ => nonSpace_of_space) hnumbers)⟩

/-- A text that starts with the name of a row, as far as its first blank. -/
lemma name_unique (r : RegionRow) {run gap tail tail' : PyStr}
    (hrun : ∀ c ∈ run, isNonSpace c = true)
    (hgap : gap ≠ [] ∧ ∀ c ∈ gap, isSpace c = true) (h : r.columns tail = run ++ (gap ++ tail')) :
    r.name.val = run := by
  rw [RegionRow.columns] at h
  exact (run_unique h r.name.prop.2 hrun (head_append r.gap.blanks fun _ => nonSpace_of_space)
    (head_append hgap fun _ => nonSpace_of_space)).1

/-- A row is matched column by column, so that the rest of the expression is matched by the text
behind the columns. -/
lemma exists_of_matchItems_columns (r : RegionRow) {items : List (Item ℕ)} {tail : PyStr}
    {pieces : List PyStr} (htail : ∀ c ∈ tail.head?, isHexDigit c = false)
    (hitems : ∀ s found, matchItems items s = some found → ∀ c ∈ s.head?, isHexDigit c = false)
    (h : matchItems (regionItems ++ items) (r.columns tail) = some pieces) :
    ∃ found, matchItems items tail = some found := by
  obtain ⟨first, tail, _, hline, hfirst, hmatch, -⟩ := exists_of_matchItems_repeated h
  obtain ⟨rest, tail, _, rfl, hrest, hmatch, -⟩ := exists_of_matchItems_repeated hmatch
  obtain ⟨gap, tail, _, rfl, hgap, hmatch, -⟩ := exists_of_matchItems_repeated hmatch
  obtain ⟨tail, _, rfl, hmatch, -⟩ := exists_of_matchItems_text hmatch
  obtain ⟨origin, tail, _, rfl, horigin, hmatch, -⟩ := exists_of_matchItems_repeated hmatch
  obtain ⟨gap', tail, _, rfl, hgap', hmatch, -⟩ := exists_of_matchItems_repeated hmatch
  obtain ⟨tail, _, rfl, hmatch, -⟩ := exists_of_matchItems_text hmatch
  obtain ⟨length, tail, found, rfl, hlength, hmatch, -⟩ := exists_of_matchItems_repeated hmatch
  replace hgap := fits_plus.mp hgap
  replace horigin := fits_plus.mp horigin
  replace hgap' := fits_plus.mp hgap'
  replace hlength := fits_plus.mp hlength
  have hname : ∀ c ∈ first ++ rest, isNonSpace c = true := by
    obtain ⟨c, rfl, hc⟩ := fits_one.mp hfirst
    rw [Bool.and_eq_true] at hc
    exact List.forall_mem_cons.mpr ⟨hc.1, fits_star.mp hrest⟩
  -- white space and digits alternate, so both readings of the line have the same columns
  rw [RegionRow.columns, ← List.append_assoc first] at hline
  obtain ⟨-, hline⟩ := run_unique hline r.name.prop.2 hname
    (head_append r.gap.blanks fun _ => nonSpace_of_space)
    (head_append hgap fun _ => nonSpace_of_space)
  obtain ⟨-, hline⟩ := run_unique hline r.gap.blanks.2 hgap.2 (zero_not_space _) (zero_not_space _)
  obtain ⟨-, hline⟩ := run_unique (List.append_cancel_left hline) r.origin.prop.2 horigin.2
    (head_append r.gap'.blanks fun _ => isHexDigit_of_isSpace)
    (head_append hgap' fun _ => isHexDigit_of_isSpace)
  obtain ⟨-, hline⟩ := run_unique hline r.gap'.blanks.2 hgap'.2 (zero_not_space _)
    (zero_not_space _)
  obtain ⟨-, rfl⟩ := run_unique (List.append_cancel_left hline) r.length.prop.2 hlength.2 htail
    (hitems _ _ hmatch)
  exact ⟨found, hmatch⟩

/-- The optional end of the expression is one word. -/
lemma exists_of_matchItems_word {s : PyStr} {found : List PyStr}
    (h : matchItems [plus isSpace, plus isNonSpace] s = some found) :
    ∃ blank word, s = blank ++ word ∧ (blank ≠ [] ∧ ∀ c ∈ blank, isSpace c = true) ∧
      word ≠ [] ∧ ∀ c ∈ word, isNonSpace c = true := by
  obtain ⟨blank, tail, _, rfl, hblank, hmatch, -⟩ := exists_of_matchItems_repeated h
  obtain ⟨word, tail, _, rfl, hword, hmatch, -⟩ := exists_of_matchItems_repeated hmatch
  have hnil : tail = [] := by
    cases tail with
    | nil => rfl
    | cons c tail => cases hmatch
  rw [hnil, List.append_nil]
  exact ⟨blank, word, rfl, fits_plus.mp hblank, fits_plus.mp hword⟩

lemma word_items_start {s : PyStr} {found : List PyStr}
    (h : matchItems [plus isSpace, plus isNonSpace] s = some found) :
    ∀ c ∈ s.head?, isHexDigit c = false := by
  obtain ⟨blank, word, rfl, hblank, -⟩ := exists_of_matchItems_word h
  exact head_append hblank fun _ => isHexDigit_of_isSpace

/-- The expression with its optional end takes a row without attributes for what it is. -/
lemma matchItems_no_attributes (r : RegionRow) :
    matchItems (regionItems ++ [plus isSpace, plus isNonSpace]) (r.columns []) = none := by
  rw [← Option.not_isSome_iff_eq_none, Option.isSome_iff_exists]
  rintro ⟨pieces, hmatch⟩
  obtain ⟨found, hfound⟩ := exists_of_matchItems_columns r (by simp) (fun _ _ => word_items_start)
    hmatch
  obtain ⟨blank, word, hnil, hblank, -⟩ := exists_of_matchItems_word hfound
  exact hblank.1 (List.append_eq_nil_iff.mp hnil.symm).1

/-- Neither form of the expression takes a row with two words of attributes. -/
lemma matchRegion_wide (r : RegionRow) {gap gap' : Gap} {word : SymbolName} {tail : PyStr} :
    matchRegion (r.columns (gap.val ++ (word.val ++ (gap'.val ++ tail)))) = none := by
  have htail : ∀ c ∈ (gap.val ++ (word.val ++ (gap'.val ++ tail))).head?, isHexDigit c = false :=
    head_append gap.blanks fun _ => isHexDigit_of_isSpace
  rw [matchRegion, Option.or_eq_none_iff]
  constructor
  · rw [← Option.not_isSome_iff_eq_none, Option.isSome_iff_exists]
    rintro ⟨pieces, hmatch⟩
    obtain ⟨found, hfound⟩ := exists_of_matchItems_columns r htail (fun _ _ => word_items_start)
      hmatch
    obtain ⟨blank, last, hsplit, hblank, hlast⟩ := exists_of_matchItems_word hfound
    have hhead : ∀ c ∈ last.head?, isSpace c = false := by
      have happend : ∀ c ∈ (last ++ []).head?, isSpace c = false :=
        head_append hlast fun _ => not_space_of_nonSpace
      rwa [List.append_nil] at happend
    obtain ⟨-, rfl⟩ := run_unique hsplit gap.blanks.2 hblank.2
      (head_append word.prop fun _ => not_space_of_nonSpace) hhead
    obtain ⟨c, rest, hgap⟩ := List.exists_cons_of_ne_nil gap'.prop.1
    have hspace := gap'.blanks.2 c (by rw [hgap]; exact List.mem_cons_self)
    have hword := hlast.2 c (by simp [hgap])
    rw [nonSpace_of_space hspace] at hword
    cases hword
  · rw [← Option.not_isSome_iff_eq_none, Option.isSome_iff_exists]
    rintro ⟨pieces, hmatch⟩
    have hstart : ∀ (s : PyStr) (found : List PyStr),
        matchItems ([] : List (Item ℕ)) s = some found →
        ∀ c ∈ s.head?, isHexDigit c = false := by
      intro s found hs
      cases s with
      | nil => simp
      | cons c s => cases hs
    rw [← List.append_nil regionItems] at hmatch
    obtain ⟨found, hfound⟩ := exists_of_matchItems_columns r htail hstart hmatch
    obtain ⟨c, rest, hgap⟩ := List.exists_cons_of_ne_nil gap.prop.1
    rw [hgap] at hfound
    cases hfound

/-- A row is read as what it was printed from, if it has at most one word of attributes. -/
lemma regionLine_row (r : RegionRow) :
    regionLine r.line = if r.narrow then some (r.name.val, r.region) else none := by
  have hend : matchItems ([] : List (Item ℕ)) [] = some [] := rfl
  have hread : ∀ {first rest : PyStr} {tail : List PyStr}, first ++ rest = r.name.val →
      matchRegion r.line = some ([first, rest, r.gap.val, "0x", r.origin.val,
        r.gap'.val, "0x", r.length.val] ++ tail) →
      regionLine r.line = some (r.name.val, r.region) := by
    intro first rest tail hname hmatch
    rw [regionLine, stripSpaces_row, hmatch]
    simp [hname, RegionRow.region]
  cases hwords : r.attributes with
  | nil =>
      have hnarrow : r.narrow = true := by simp [RegionRow.narrow, hwords]
      have hline : r.line = r.columns [] := by rw [RegionRow.line, RegionRow.endText, hwords]; rfl
      obtain ⟨first, rest, hname, hmatch⟩ := matchItems_columns r (by simp) hend
      rw [List.append_nil] at hmatch
      rw [hnarrow, if_pos rfl]
      exact hread hname (by rw [hline, matchRegion, matchItems_no_attributes, Option.none_or,
        hmatch])
  | cons word words =>
      rw [show r.line = r.columns r.endText from rfl, endText_cons hwords]
      cases words with
      | nil =>
          have hnarrow : r.narrow = true := by simp [RegionRow.narrow, hwords]
          have hword := matchItems_plus word.1.blanks
            (head_append word.2.prop fun _ => not_space_of_nonSpace)
            (matchItems_plus word.2.prop (by simp) hend)
          obtain ⟨first, rest, hname, hmatch⟩ := matchItems_columns r
            (head_append word.1.blanks fun _ => isHexDigit_of_isSpace) hword
          have hline : r.line = r.columns (word.1.val ++ (word.2.val ++ [])) := by
            rw [RegionRow.line, endText_cons hwords]
            rfl
          rw [hnarrow, if_pos rfl, List.flatMap_nil, ← hline]
          exact hread hname (by rw [hline, matchRegion, hmatch, Option.some_or])
      | cons word' words =>
          have hwide : r.narrow = false := by simp [RegionRow.narrow, hwords]
          have hline : r.columns (word.1.val ++ (word.2.val ++ (word' :: words).flatMap
              fun word => word.1.val ++ word.2.val)) = r.line := by
            rw [RegionRow.line, endText_cons hwords]
          rw [hwide, if_neg Bool.false_ne_true, hline, regionLine, stripSpaces_row, ← hline,
            List.flatMap_cons, List.append_assoc, matchRegion_wide]
          rfl

end Rows

section Table

lemma splitOnce_first {marker x y : PyStr}
    (h : Lines.find marker (x ++ (marker ++ y)) = some x.length) :
    splitOnce marker (x ++ (marker ++ y)) = some (x, y) := by
  simp [splitOnce, h]

lemma beforeMarker_first {marker x y : PyStr}
    (h : Lines.find marker (x ++ (marker ++ y)) = some x.length) :
    beforeMarker marker (x ++ (marker ++ y)) = x := by
  simp [beforeMarker, splitOnce_first h]

variable (table : MemoryTable)

/-- What the lines of a table give. -/
lemma filterMap_regionLine (lines : List TableLine) :
    (lines.map TableLine.text).filterMap regionLine
      = regionsOf ((lines.filterMap TableLine.row?).filter RegionRow.narrow) := by
  induction lines with
  | nil => rfl
  | cons line lines ih =>
      cases line with
      | other line =>
          rw [List.map_cons, TableLine.text, List.filterMap_cons_none line.not_region, ih]
          rfl
      | row r =>
          have hrows : (TableLine.row r :: lines).filterMap TableLine.row?
              = r :: lines.filterMap TableLine.row? := rfl
          rw [List.map_cons, TableLine.text, hrows, List.filterMap_cons, regionLine_row,
            List.filter_cons, ih]
          cases r.narrow <;> rfl

lemma nodup_regionsOf {rows : List RegionRow} (h : (rows.map fun r => r.name.val).Nodup)
    (p : RegionRow → Bool) : ((regionsOf (rows.filter p)).map Prod.fst).Nodup := by
  rw [regionsOf, List.map_map]
  exact h.sublist (List.filter_sublist.map _)

/-- The table is taken line by line. -/
lemma parseMemoryRegions_text : parseMemoryRegions table.text = table.narrowRegions := by
  have hmarker : splitOnce memoryMarker table.text = some (table.preamble,
      [10] ++ (table.body ++ (mapMarker ++ table.postamble))) :=
    splitOnce_first table.marker_first
  have hend : Lines.find mapMarker ((10 :: table.body) ++ (mapMarker ++ table.postamble))
      = some (10 :: table.body).length := by
    have hlonger : Lines.find mapMarker (table.body ++ (mapMarker ++ table.postamble))
        = some table.body.length :=
      Lines.find_extend (PyStr.ofString " and memory map") table.end_first
    rw [List.cons_append, Lines.find, hlonger]
    rfl
  have hinside : mapMarker <:+: table.text := by
    refine ⟨table.preamble ++ (memoryMarker ++ ([10] ++ table.body)), table.postamble, ?_⟩
    simp only [MemoryTable.text, MemoryTable.body, mapWithTable, List.append_assoc]
  have hlines : splitLines (10 :: table.body) = [] :: table.lines.map TableLine.text := by
    rw [MemoryTable.body, ← List.nil_append (10 :: _), ← unlines_cons, splitLines_unlines]
    rw [List.forall_mem_cons, List.forall_mem_map]
    exact ⟨by simp, fun line _ => tableLine_chars line⟩
  have hempty : regionLine [] = none := rfl
  rw [parseMemoryRegions, hmarker]
  dsimp only
  rw [if_pos hinside, List.singleton_append, ← List.cons_append, beforeMarker_first hend, hlines,
    List.filterMap_cons_none hempty, filterMap_regionLine]
  exact PyDict.ofPairs_eq_self (nodup_regionsOf table.names_nodup RegionRow.narrow)

variable (letters : ℕ → Bool)

/-- What a match leaves of its line is skipped. -/
lemma findRam_skip {front : PyStr} (h : ∀ c ∈ front, c ≠ 10) (rest : PyStr) :
    findRam letters front.length false (front ++ rest) = findRam letters 0 false rest := by
  induction front with
  | nil => rfl
  | cons c front ih =>
      rw [List.forall_mem_cons] at h
      rw [List.length_cons, List.cons_append, findRam, beq_false_of_ne h.1, ih h.2]

lemma findRam_inside {line : PyStr} (h : ∀ c ∈ line, c ≠ 10) (rest : PyStr) :
    findRam letters 0 false (line ++ 10 :: rest) = findRam letters 0 true rest := by
  induction line with
  | nil => rfl
  | cons c line ih =>
      rw [List.forall_mem_cons] at h
      rw [List.cons_append, findRam, beq_false_of_ne h.1]
      exact ih h.2

/-- A line without a RAM region. -/
lemma findRam_line {line : PyStr} (h : ∀ c ∈ line, c ≠ 10) {rest : PyStr}
    (hnone : matchRam letters (line ++ 10 :: rest) = none) :
    findRam letters 0 true (line ++ 10 :: rest) = findRam letters 0 true rest := by
  cases line with
  | nil =>
      rw [List.nil_append] at hnone ⊢
      rw [findRam, if_pos rfl, hnone]
      rfl
  | cons c line =>
      rw [List.forall_mem_cons] at h
      rw [List.cons_append] at hnone ⊢
      rw [findRam, if_pos rfl, hnone]
      dsimp only
      rw [beq_false_of_ne h.1, findRam_inside letters h.2]

/-- A row is found under its own name only. -/
lemma name_of_ramItems {r : RegionRow} {tail name : PyStr} {pieces : List PyStr}
    (hname : ∀ c ∈ name, isNonSpace c = true)
    (h : matchItems (ramItems letters name) (r.columns tail) = some pieces) :
    r.name.val = name := by
  obtain ⟨tail', _, hline, hmatch, -⟩ := exists_of_matchItems_text h
  obtain ⟨gap, rest, _, rfl, hgap, -, -⟩ := exists_of_matchItems_repeated hmatch
  exact name_unique r hname (fits_plus.mp hgap) hline

lemma isWord_of_isHexDigit {c : ℕ} (h : isHexDigit c = true) : isWord letters c = true := by
  simp only [isHexDigit, isDigit, inRange, Bool.or_eq_true, Bool.and_eq_true,
    decide_eq_true_eq] at h
  simp only [isWord, isWordChar, isLetter, isDigit, inRange, Bool.or_eq_true, Bool.and_eq_true,
    decide_eq_true_eq]
  have hchars : 'A'.toNat = 65 ∧ 'Z'.toNat = 90 ∧ 'a'.toNat = 97 ∧ 'z'.toNat = 122 ∧
      'f'.toNat = 102 ∧ 'F'.toNat = 70 := ⟨rfl, rfl, rfl, rfl, rfl, rfl⟩
  omega

lemma isWord_gap {gap : Gap} {tail : PyStr} :
    ∀ c ∈ (gap.val ++ tail).head?, isWord letters c = false := by
  refine head_append (p := fun c => c == 32) ⟨gap.prop.1, fun c hc => ?_⟩ fun c hc => ?_
  · exact beq_iff_eq.mpr (gap.prop.2 c hc)
  · rw [beq_iff_eq.mp hc]
    rfl

/-- A RAM region is found in its row. -/
lemma matchItems_ram (r : RegionRow) {tail : PyStr}
    (htail : ∀ c ∈ tail.head?, isWord letters c = false) :
    matchItems (ramItems letters r.name.val) (r.columns tail) = some [r.name.val, r.gap.val,
      "0x", r.origin.val, r.gap'.val, "0x", r.length.val, tail] := by
  have hword : ∀ digits : HexDigits, digits.val ≠ [] ∧ ∀ c ∈ digits.val, isWord letters c = true :=
    fun digits => ⟨digits.prop.1, fun c hc => isWord_of_isHexDigit letters (digits.prop.2 c hc)⟩
  have hend : matchItems [star fun _ => true] tail = some [tail] := by
    have hnil : matchItems ([] : List (Item ℕ)) [] = some [] := rfl
    have hany : ∀ c ∈ tail, (fun _ => true : ℕ → Bool) c = true := by simp
    have hall := matchItems_star hany (by simp) hnil
    rwa [List.append_nil] at hall
  exact matchItems_text _ (matchItems_plus r.gap.blanks (zero_not_space _) (matchItems_text
    "0x" (matchItems_plus (hword r.origin) (isWord_gap letters)
      (matchItems_plus r.gap'.blanks (zero_not_space _) (matchItems_text "0x"
        (matchItems_plus (hword r.length) htail hend))))))

/-- What the search takes from a row. -/
def RegionRow.groups (r : RegionRow) : PyStr × PyStr × PyStr :=
  (r.name.val, "0x" ++ r.origin.val, "0x" ++ r.length.val)

lemma ramNames_chars : ∀ name ∈ ramNames, ∀ c ∈ name, isNonSpace c = true := by decide

lemma matchRam_other {r : RegionRow} (h : r.name.val ∉ ramNames) (tail : PyStr) :
    matchRam letters (r.columns tail) = none := by
  rw [matchRam, Option.map_eq_none_iff, List.findSome?_eq_none_iff]
  intro name hname
  rw [← Option.not_isSome_iff_eq_none, Option.isSome_iff_exists]
  rintro ⟨pieces, hmatch⟩
  rw [name_of_ramItems letters (ramNames_chars name hname) hmatch] at h
  exact h hname

/-- The row of a RAM region is a match, whatever its attributes are. -/
lemma matchRam_row {r : RegionRow} (h : r.name.val ∈ ramNames) {tail : PyStr}
    (htail : ∀ c ∈ tail.head?, isWord letters c = false) :
    matchRam letters (r.columns tail) = some (r.groups, (r.columns []).length) := by
  have hfound : (ramNames.findSome? fun name => matchItems (ramItems letters name) (r.columns tail))
      = some [r.name.val, r.gap.val, "0x", r.origin.val, r.gap'.val,
        "0x", r.length.val, tail] := by
    rw [← matchItems_ram letters r htail]
    have hsome : ((ramNames.findSome? fun name =>
        matchItems (ramItems letters name) (r.columns tail))).isSome := by
      rw [List.findSome?_isSome_iff]
      exact ⟨r.name.val, h, by rw [matchItems_ram letters r htail]; rfl⟩
    obtain ⟨pieces, hpieces⟩ := Option.isSome_iff_exists.mp hsome
    obtain ⟨name, hname, hmatch⟩ := List.exists_of_findSome?_eq_some hpieces
    rw [hpieces, ← hmatch, name_of_ramItems letters (ramNames_chars name hname) hmatch]
  rw [matchRam, hfound]
  simp [RegionRow.groups, RegionRow.columns]

lemma columns_append (r : RegionRow) (tail rest : PyStr) :
    r.columns tail ++ rest = r.columns (tail ++ rest) := by
  simp only [RegionRow.columns, List.append_assoc]

lemma ne_newline_of_endsLine {line : PyStr} (h : ∀ c ∈ line, endsLine c = false) :
    ∀ c ∈ line, c ≠ 10 := by
  rintro c hc rfl
  exact absurd (h 10 hc) (by decide)

/-- One row of the table. -/
lemma findRam_row (r : RegionRow) (rest : PyStr) :
    findRam letters 0 true (r.line ++ 10 :: rest)
      = (if r.name.val ∈ ramNames then [r.groups] else []) ++ findRam letters 0 true rest := by
  have hchars := ne_newline_of_endsLine (row_chars r)
  split
  next hname =>
    have htail : ∀ c ∈ (r.endText ++ 10 :: rest).head?, isWord letters c = false := by
      cases hwords : r.attributes with
      | nil =>
          rw [RegionRow.endText, hwords]
          intro c hc
          cases hc
          rfl
      | cons word words =>
          rw [endText_cons hwords, List.append_assoc]
          exact isWord_gap letters
    obtain ⟨c, front, hfront⟩ : ∃ c front, r.columns [] = c :: front := by
      refine List.exists_cons_of_ne_nil ?_
      simp [RegionRow.columns, r.name.prop.1]
    have hline : r.line = c :: (front ++ r.endText) := by
      rw [RegionRow.line, ← List.cons_append, ← hfront, columns_append, List.nil_append]
    rw [hline] at hchars
    simp only [List.forall_mem_cons, List.forall_mem_append] at hchars
    have hmatch := matchRam_row letters hname htail
    rw [← columns_append, ← RegionRow.line, hline, hfront, List.cons_append] at hmatch
    rw [hline, List.cons_append, findRam, if_pos rfl, hmatch]
    dsimp only
    rw [beq_false_of_ne hchars.1, List.length_cons, Nat.add_sub_cancel, List.append_assoc,
      findRam_skip letters hchars.2.1, findRam_inside letters hchars.2.2, List.singleton_append]
  next hname =>
    refine findRam_line letters hchars ?_
    rw [RegionRow.line, columns_append]
    exact matchRam_other letters hname _

/-- A line that does not start with the name of a RAM region. -/
lemma matchRam_none {s : PyStr} (h : ∀ name ∈ ramNames, ¬ name <+: s) :
    matchRam letters s = none := by
  rw [matchRam, Option.map_eq_none_iff, List.findSome?_eq_none_iff]
  intro name hname
  rw [← Option.not_isSome_iff_eq_none, Option.isSome_iff_exists]
  rintro ⟨pieces, hmatch⟩
  obtain ⟨tail, _, hsplit, -, -⟩ := exists_of_matchItems_text hmatch
  exact h name hname ⟨tail, hsplit.symm⟩

/-- A name without a newline that starts a text stands in its first line. -/
lemma prefix_of_prefix_line {name line rest : PyStr} (hname : 10 ∉ name)
    (h : name <+: line ++ 10 :: rest) : name <+: line := by
  rcases le_or_gt name.length line.length with hle | hlt
  · exact List.prefix_of_prefix_length_le h (List.prefix_append _ _) hle
  · have hline : line ++ [10] <+: line ++ 10 :: rest :=
      (List.prefix_append_right_inj line).mpr ⟨rest, rfl⟩
    have hlonger := List.prefix_of_prefix_length_le hline h (by simp; omega)
    exact absurd (hlonger.subset (by simp)) hname

/-- The search goes over the table line by line: a row of a RAM region is found, every other line is
passed over. -/
lemma findRam_lines (lines : List TableLine) :
    findRam letters 0 true (unlines (lines.map TableLine.text))
      = ((lines.filterMap TableLine.row?).filter fun r => r.name.val ∈ ramNames).map
          RegionRow.groups := by
  induction lines with
  | nil => rfl
  | cons line lines ih =>
      rw [List.map_cons, unlines_cons]
      cases line with
      | other line =>
          rw [TableLine.text, findRam_line letters (ne_newline_of_endsLine line.chars), ih]
          · rfl
          · refine matchRam_none letters fun name hname hstart => line.not_ram name hname ?_
            refine prefix_of_prefix_line (fun hmem => ?_) hstart
            exact absurd (ramNames_chars name hname 10 hmem) (by decide)
      | row r =>
          have hrows : (TableLine.row r :: lines).filterMap TableLine.row?
              = r :: lines.filterMap TableLine.row? := rfl
          rw [TableLine.text, findRam_row, ih, hrows, List.filter_cons]
          split <;> simp [*]

lemma digitValue_of_isHexDigit {c : ℕ} (h : isHexDigit c = true) :
    isUnderscore c = false ∧ ∃ d < 16, digitValue c = some d := by
  simp only [isHexDigit, isDigit, inRange, Bool.or_eq_true, Bool.and_eq_true,
    decide_eq_true_eq] at h
  have hchars : 'A'.toNat = 65 ∧ 'Z'.toNat = 90 ∧ 'a'.toNat = 97 ∧ 'z'.toNat = 122 ∧
      'f'.toNat = 102 ∧ 'F'.toNat = 70 ∧ '0'.toNat = 48 ∧ '9'.toNat = 57 ∧ '_'.toNat = 95 :=
    ⟨rfl, rfl, rfl, rfl, rfl, rfl, rfl, rfl, rfl⟩
  refine ⟨by rw [isUnderscore, beq_eq_false_iff_ne]; omega, ?_⟩
  simp only [digitValue, isDigit, inRange, Bool.and_eq_true, decide_eq_true_eq]
  split_ifs
  · exact ⟨_, by omega, rfl⟩
  · exact ⟨_, by omega, rfl⟩
  · exact ⟨_, by omega, rfl⟩
  · omega

lemma readDigits_hex {digits : PyStr} (h : ∀ c ∈ digits, isHexDigit c = true) (value : ℕ) :
    (readDigits 16 value true digits).isSome := by
  induction digits generalizing value with
  | nil => rfl
  | cons c digits ih =>
      rw [List.forall_mem_cons] at h
      obtain ⟨hunderscore, d, hd, hvalue⟩ := digitValue_of_isHexDigit h.1
      simp only [readDigits, hunderscore, hvalue, hd, if_true]
      exact ih h.2 _

variable (unicode : PyStr.UnicodeData)

lemma toAscii_of_lt {s : PyStr} (h : ∀ c ∈ s, c < 127) : unicode.toAscii s = s := by
  rw [UnicodeData.toAscii]
  conv_rhs => rw [← List.map_id s]
  exact List.map_congr_left fun c hc => if_pos (h c hc)

/-- The word of a number has the value of its digits. -/
lemma hexWord_digits (digits : HexDigits) :
    hexWord unicode ("0x" ++ digits.val) = .ok (hexValue digits.val) := by
  have hascii : unicode.toAscii ("0x" ++ digits.val)
      = "0x" ++ digits.val := by
    refine toAscii_of_lt unicode (List.forall_mem_append.mpr ⟨by decide, fun c hc => ?_⟩)
    have hword := isWord_of_isHexDigit (fun _ => false) (digits.prop.2 c hc)
    rw [isWord, Bool.and_false, Bool.or_false] at hword
    have hrange := isWordChar_range hword
    omega
  obtain ⟨c, rest, heq⟩ := List.exists_cons_of_ne_nil digits.prop.1
  have hall := digits.prop.2
  rw [heq, List.forall_mem_cons] at hall
  obtain ⟨hunderscore, d, hd, hvalue⟩ := digitValue_of_isHexDigit hall.1
  have hdigits : readDigits 16 0 false digits.val = some (hexValue digits.val) := by
    have hsome : (readDigits 16 0 false digits.val).isSome := by
      rw [heq]
      simp only [readDigits, hunderscore, hvalue, hd, if_true]
      exact readDigits_hex hall.2 _
    obtain ⟨n, hn⟩ := Option.isSome_iff_exists.mp hsome
    rw [hexValue, hn, Option.getD_some]
  have hliteral :
      readLiteral ("0x" ++ digits.val) = readDigits 16 0 false digits.val := by
    have hstart : (digits.val.head?.any isUnderscore) = false := by
      rw [heq]
      exact hunderscore
    show readDigits 16 0 false (if digits.val.head?.any isUnderscore then _ else _) = _
    rw [hstart]
    rfl
  rw [hexWord, hascii, hliteral, hdigits]

/-- The table is searched for its RAM regions. -/
lemma ramRegions_table : ramRegions unicode (findRam letters 0 true table.body)
    = .ok (table.regions.filter fun p => p.1 ∈ ramNames) := by
  have hrows : regionsOf (table.rows.filter fun r => r.name.val ∈ ramNames)
      = table.regions.filter fun p => p.1 ∈ ramNames := by
    rw [MemoryTable.regions, regionsOf, regionsOf, List.filter_map]
    rfl
  have hread : ∀ rows : List RegionRow,
      (rows.map RegionRow.groups).mapM (fun (name, origin, length) => do
        let origin ← hexWord unicode origin
        let length ← hexWord unicode length
        (.ok (name, (⟨origin, length⟩ : Region)) : Except PyException (PyStr × Region)))
      = .ok (regionsOf rows) := by
    intro rows
    induction rows with
    | nil => rfl
    | cons r rows ih =>
        rw [List.map_cons, List.mapM_cons, ih]
        simp only [RegionRow.groups, hexWord_digits]
        rfl
  have hnodup := nodup_regionsOf table.names_nodup fun r => r.name.val ∈ ramNames
  rw [ramRegions, MemoryTable.body, findRam_lines, hread, ok_bind, PyDict.ofPairs_eq_self hnodup]
  exact congrArg Except.ok hrows

lemma lookup_ram (name : PyStr) (h : name ∈ ramNames) :
    (table.regions.filter fun p => p.1 ∈ ramNames).lookup name = table.regions.lookup name :=
  PyDict.lookup_filter (fun name => decide (name ∈ ramNames)) (decide_eq_true h)

/-- The inventory takes the RAM regions of the table, whatever their attributes. -/
lemma inventoryRegions_text :
    (inventoryRegions unicode letters table.text >>= c6Regions) = c6Regions table.regions := by
  have hmarker : splitOnce (memoryMarker ++ [10]) table.text = some (table.preamble,
      table.body ++ (mapMarker ++ table.postamble)) := by
    have hfirst := Lines.find_extend [10] table.marker_first
    rw [← List.append_assoc memoryMarker] at hfirst
    have hsplit := splitOnce_first hfirst
    rwa [List.append_assoc memoryMarker] at hsplit
  have hblock : beforeMarker (PyStr.ofString "Linker script")
      (table.body ++ (mapMarker ++ table.postamble)) = table.body :=
    beforeMarker_first (y := " and memory map" ++ table.postamble) table.end_first
  rw [inventoryRegions, hmarker]
  dsimp only
  rw [hblock, ramRegions_table]
  have hsram := lookup_ram table "sram0_0_seg" (by decide)
  have hlp := lookup_ram table "lp_ram_seg" (by decide)
  have hboth : (ramNames.all fun name =>
      ((table.regions.filter fun p => p.1 ∈ ramNames).lookup name).isSome)
      = ((table.regions.lookup (PyStr.ofString "sram0_0_seg")).isSome &&
        (table.regions.lookup (PyStr.ofString "lp_ram_seg")).isSome) := by
    rw [← hsram, ← hlp, ramNames, List.all_cons, List.all_cons, List.all_nil, Bool.and_true]
  rw [ok_bind, hboth]
  cases hs : table.regions.lookup (PyStr.ofString "sram0_0_seg") with
  | none => simp [c6Regions, hs, error_bind]
  | some sram =>
      cases hl : table.regions.lookup (PyStr.ofString "lp_ram_seg") with
      | none => simp [c6Regions, hs, hl, error_bind]
      | some lp => simp [c6Regions, hsram, hlp, hs, hl, ok_bind]

/-! ### Where the two agree

The inventory looks up two names in all regions, the verifier in the narrow ones.
-/

variable {table}

/-- A printed region is found under its name, by the verifier only if it is narrow. -/
lemma lookup_row {r : RegionRow} (hr : r ∈ table.rows) :
    table.regions.lookup r.name.val = some r.region ∧
      table.narrowRegions.lookup r.name.val = if r.narrow then some r.region else none := by
  have hnodup : (table.regions.map Prod.fst).Nodup := by
    rw [MemoryTable.regions, regionsOf, List.map_map]
    exact table.names_nodup
  have hnarrow : (table.narrowRegions.map Prod.fst).Nodup :=
    nodup_regionsOf table.names_nodup RegionRow.narrow
  refine ⟨(PyDict.lookup_eq_some_iff hnodup).mpr (List.mem_map.mpr ⟨r, hr, rfl⟩), ?_⟩
  split
  next h =>
    refine (PyDict.lookup_eq_some_iff hnarrow).mpr (List.mem_map.mpr ⟨r, ?_, rfl⟩)
    exact List.mem_filter.mpr ⟨hr, h⟩
  next h =>
    refine Option.eq_none_iff_forall_ne_some.mpr fun region hregion => h ?_
    obtain ⟨r', hr', heq⟩ := List.mem_map.mp ((PyDict.lookup_eq_some_iff hnarrow).mp hregion)
    obtain ⟨hmem, hnarrow'⟩ := List.mem_filter.mp hr'
    have hsame : r' = r :=
      List.inj_on_of_nodup_map table.names_nodup hmem hr (Prod.mk.inj heq).1
    rwa [← hsame]

lemma lookup_missing {name : PyStr} (h : ∀ r ∈ table.rows, r.name.val ≠ name) :
    table.regions.lookup name = none ∧ table.narrowRegions.lookup name = none := by
  have hnone : ∀ rows : List RegionRow, (∀ r ∈ rows, r.name.val ≠ name) →
      (regionsOf rows).lookup name = none := by
    intro rows hrows
    rw [List.lookup_eq_none_iff]
    intro p hp
    obtain ⟨r, hr, rfl⟩ := List.mem_map.mp hp
    exact bne_iff_ne.mpr (hrows r hr).symm
  exact ⟨hnone _ h, hnone _ fun r hr => h r (List.mem_filter.mp hr).1⟩

/-- Only the two RAM regions count. -/
lemma c6Regions_congr {regions regions' : Regions}
    (h : ∀ name ∈ ramNames, regions.lookup name = regions'.lookup name) :
    c6Regions regions = c6Regions regions' := by
  rw [c6Regions, c6Regions, h _ (by decide), h _ (by decide)]

lemma c6Regions_missing {regions : Regions} {name : PyStr} (hname : name ∈ ramNames)
    (h : regions.lookup name = none) :
    c6Regions regions = .error (.valueError "Unrecognized C6 linker regions") := by
  simp only [ramNames, List.mem_cons, List.not_mem_nil, or_false] at hname
  rcases hname with rfl | rfl
  · rw [c6Regions, h]
  · rw [c6Regions, h]
    cases regions.lookup (PyStr.ofString "sram0_0_seg") <;> rfl

lemma exists_c6Regions {regions : Regions}
    (h : ∀ name ∈ ramNames, ∃ region, regions.lookup name = some region) :
    ∃ ram, c6Regions regions = .ok ram := by
  obtain ⟨sram, hsram⟩ := h "sram0_0_seg" (by decide)
  obtain ⟨lp, hlp⟩ := h "lp_ram_seg" (by decide)
  exact ⟨_, by rw [c6Regions, hsram, hlp]⟩

/-- Every RAM region of the table is narrow, or one of them is missing. -/
def MemoryTable.Readable (table : MemoryTable) : Prop :=
  (∀ r ∈ table.rows, r.name.val ∈ ramNames → r.narrow = true) ∨
    ∃ name ∈ ramNames, ∀ r ∈ table.rows, r.name.val ≠ name

/-- The two lookups agree exactly if the RAM regions are narrow or one of them is missing anyway. -/
lemma c6Regions_narrow_iff :
    c6Regions table.regions = c6Regions table.narrowRegions ↔ table.Readable := by
  constructor
  · intro h
    by_cases hmissing : ∃ name ∈ ramNames, ∀ r ∈ table.rows, r.name.val ≠ name
    · exact .inr hmissing
    · -- both regions are there, so that the reader of narrow rows must have them, too
      push Not at hmissing
      obtain ⟨ram, hram⟩ : ∃ ram, c6Regions table.regions = .ok ram := by
        refine exists_c6Regions fun name hname => ?_
        obtain ⟨r, hr, rfl⟩ := hmissing name hname
        exact ⟨_, (lookup_row hr).1⟩
      refine .inl fun r hr hname => ?_
      by_contra hwide
      have hnone : table.narrowRegions.lookup r.name.val = none := by
        rw [(lookup_row hr).2, if_neg hwide]
      rw [hram, c6Regions_missing hname hnone] at h
      cases h
  · rintro (hnarrow | ⟨name, hname, hmissing⟩)
    · refine c6Regions_congr fun name hname => ?_
      by_cases hrow : ∃ r ∈ table.rows, r.name.val = name
      · obtain ⟨r, hr, rfl⟩ := hrow
        rw [(lookup_row hr).1, (lookup_row hr).2, if_pos (hnarrow r hr hname)]
      · push Not at hrow
        rw [(lookup_missing hrow).1, (lookup_missing hrow).2]
    · rw [c6Regions_missing hname (lookup_missing hmissing).1,
        c6Regions_missing hname (lookup_missing hmissing).2]

end Table

/-! ## Two maps

The head of the map of a C6 image, and the map that the repository tests its reader with.
-/

section Samples

lemma blanks_ok (n : ℕ) :
    List.replicate (n + 1) 32 ≠ [] ∧ ∀ c ∈ List.replicate (n + 1) 32, c = 32 :=
  ⟨by simp, fun _ hc => List.eq_of_mem_replicate hc⟩

def blanks (n : ℕ) : Gap := ⟨List.replicate (n + 1) 32, blanks_ok n⟩

/-- A row with numbers of eight digits and one word of attributes. -/
def sampleRow (name : SymbolName) (notDefault : name.val.head? ≠ some '*'.toNat) (fill : ℕ)
    (origin length : HexDigits) (attributes : SymbolName) : RegionRow where
  name := name
  notDefault := notDefault
  gap := blanks fill
  origin := origin
  gap' := blanks 8
  length := length
  attributes := [(blanks 8, attributes)]

def flashRow : RegionRow :=
  sampleRow ⟨"FLASH", by decide⟩ (by decide) 11 ⟨"42000000", by decide⟩ ⟨"003f0000", by decide⟩
    ⟨"xr", by decide⟩

def sramRow : RegionRow :=
  sampleRow ⟨"sram0_0_seg", by decide⟩ (by decide) 5 ⟨"40800000", by decide⟩
    ⟨"0006bbc0", by decide⟩ ⟨"xrw", by decide⟩

def lpRow : RegionRow :=
  sampleRow ⟨"lp_ram_seg", by decide⟩ (by decide) 6 ⟨"50000000", by decide⟩
    ⟨"00004000", by decide⟩ ⟨"xrw", by decide⟩

def blankLine : OtherLine where
  text := []
  chars := by decide
  not_region := by decide +kernel
  not_ram := by decide

def headerLine : OtherLine where
  text := "Name             Origin             Length             Attributes"
  chars := by decide
  not_region := by decide +kernel
  not_ram := by decide

/-- The default region of a 32-bit target. -/
def defaultLine : OtherLine where
  text := "*default*        0x00000000         0xffffffff"
  chars := by decide
  not_region := by decide +kernel
  not_ram := by decide

/-- The head of the map of a C6 image. -/
def c6Table : MemoryTable where
  preamble := []
  lines := [.other blankLine, .other headerLine, .row flashRow, .row sramRow, .row lpRow,
    .other defaultLine, .other blankLine]
  postamble := [10]
  names_nodup := by decide +kernel
  marker_first := by decide +kernel
  end_first := by decide +kernel

def c6MapText : PyStr :=
  "Memory Configuration

Name             Origin             Length             Attributes
FLASH            0x42000000         0x003f0000         xr
sram0_0_seg      0x40800000         0x0006bbc0         xrw
lp_ram_seg       0x50000000         0x00004000         xrw
*default*        0x00000000         0xffffffff

Linker script and memory map
"

/-- The map of `tests/test_verify_resources.py`, which has no row for the default region. -/
def testTable : MemoryTable where
  preamble := []
  lines := [.other blankLine, .other headerLine,
    .row (sampleRow ⟨"FLASH", by decide⟩ (by decide) 11 ⟨"00000000", by decide⟩
      ⟨"00100000", by decide⟩ ⟨"r", by decide⟩),
    .row (sampleRow ⟨"dram0_0_seg", by decide⟩ (by decide) 5 ⟨"3fc80000", by decide⟩
      ⟨"00060000", by decide⟩ ⟨"rw", by decide⟩),
    .other blankLine]
  postamble := "
.dram0.noinit
 .noinit.app.0
                0x3fc81000       0x800 app/libapp.a(control.c.obj)
                0x3fc81000                control_stack
"
  names_nodup := by decide +kernel
  marker_first := by decide +kernel
  end_first := by decide +kernel

example : testTable.narrowRegions.lookup (PyStr.ofString "dram0_0_seg")
    = some ⟨0x3fc80000, 0x60000⟩ := by
  decide +kernel

end Samples

end Ros2Zephyr
