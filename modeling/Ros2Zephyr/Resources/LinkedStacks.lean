import Ros2Zephyr.Core.PyInt
import Ros2Zephyr.Core.PyRe
import Ros2Zephyr.Deployment.Validate

/-!
# Stacks in a linker map

`parse_linked_stacks` of `tools/verify_resources.py`, and the maps that it is meant for.  The parser
goes through the lines with two variables: a section name that waits for its details, and the record
to which symbols are added.

* `parseLinkedStacks` — the parser, with the four expressions as the code has them.
* `MapLayout` — a map: `.noinit` records with their symbols, and other lines between them.
* `parseLinkedStacks_layout` — of every record the parser sees the stack symbols up to the first
  line that is none.
-/

namespace Ros2Zephyr

open PyRe PyRe.Item PyStr

section Parser

def isHexDigit (c : ℕ) : Bool := isDigit c || inRange 'a' 'f' c || inRange 'A' 'F' c

/-- `int(digits, 16)` -/
def hexValue (digits : PyStr) : ℕ := (readDigits 16 0 false digits).getD 0

/-- `0x([0-9a-fA-F]+)\s+0x([0-9a-fA-F]+)\s+(.+)$` -/
def placement : List (Item ℕ) :=
  [text "0x", plus isHexDigit, plus isSpace, text "0x", plus isHexDigit, plus isSpace, plus isDot]

/-- The size and the source of a line with a placement. -/
def matchPlacement (start : List (Item ℕ)) (line : PyStr) : Option (ℕ × PyStr) :=
  (matchItems (start ++ placement) line).map fun pieces =>
    let groups := pieces.drop start.length
    (hexValue (groups.getD 4 []), groups.getD 6 [])

/-- `^\s(\.noinit\S*)\s+0x([0-9a-fA-F]+)\s+0x([0-9a-fA-F]+)\s+(.+)$` -/
def oneLine : PyStr → Option (ℕ × PyStr) :=
  matchPlacement [one isSpace, text ".noinit", star isNonSpace, plus isSpace]

/-- `^\s+0x([0-9a-fA-F]+)\s+0x([0-9a-fA-F]+)\s+(.+)$` -/
def detailLine : PyStr → Option (ℕ × PyStr) := matchPlacement [plus isSpace]

/-- `^\s(\.noinit\S*)\s*$` -/
def nameLine (line : PyStr) : Option PyStr :=
  (matchItems [one isSpace, text ".noinit", star isNonSpace, star isSpace] line).map fun pieces =>
    ((pieces.drop 1).take 2).flatten

def isNameStart (c : ℕ) : Bool := isLetter c || isUnderscore c

/-- `[A-Za-z_][A-Za-z0-9_]*stack(?:s)?` -/
def stackName : List (Item ℕ) :=
  [one isNameStart, star isWordChar, text "stack", optional fun c => c == 's'.toNat]

/-- `^\s+0x[0-9a-fA-F]+\s+([A-Za-z_][A-Za-z0-9_]*stack(?:s)?)\s*$` -/
def stackSymbol (line : PyStr) : Option PyStr :=
  (matchItems ([plus isSpace, text "0x", plus isHexDigit, plus isSpace] ++
    (stackName ++ [star isSpace])) line).map fun pieces => ((pieces.drop 4).take 4).flatten

structure OpenRecord where
  bytes : ℕ
  source : PyStr
  names : List PyStr

structure StackRow where
  name : PyStr
  bytes : ℕ
  source : PyStr
  deriving DecidableEq

structure StackParser where
  pending : PyStr
  current : Option OpenRecord
  rows : List StackRow

/-- The row of a record, if it has names. -/
def OpenRecord.rows (r : OpenRecord) : List StackRow :=
  if r.names = [] then []
  else [⟨List.intercalate ", " (sortKeys r.names), r.bytes, r.source⟩]

namespace StackParser

def start : StackParser := ⟨[], none, []⟩

def finishCurrent (s : StackParser) : StackParser :=
  { s with
    current := none
    rows := s.rows ++ (s.current.map OpenRecord.rows).getD [] }

/-- A record begins. -/
def openRecord (s : StackParser) (found : ℕ × PyStr) : StackParser :=
  { s.finishCurrent with pending := [], current := some ⟨found.1, found.2, []⟩ }

/-- One turn of the loop over the lines. -/
def parseLine (s : StackParser) (line : PyStr) : StackParser :=
  match oneLine line with
  | some found => s.openRecord found
  | none =>
    match nameLine line with
    | some name => { s.finishCurrent with pending := name }
    | none =>
      match if s.pending ≠ [] then detailLine line else none with
      | some found => s.openRecord found
      | none =>
        match s.current with
        | some r =>
          match stackSymbol line with
          | some name => { s with current := some { r with names := r.names ++ [name] } }
          | none => s.finishCurrent
        | none => s

end StackParser

/-- `parse_linked_stacks` -/
def parseLinkedStacks (mapText : PyStr) : List StackRow :=
  ((splitLines mapText).foldl StackParser.parseLine .start).finishCurrent.rows

end Parser

section Layout

/-- White space between two parts of a line. -/
abbrev Blanks := { s : PyStr // s ≠ [] ∧ ∀ c ∈ s, isSpace c = true }

/-- White space at the end of a line, if there is any. -/
abbrev Trailing := { s : PyStr // ∀ c ∈ s, isSpace c = true }

abbrev HexDigits := { s : PyStr // s ≠ [] ∧ ∀ c ∈ s, isHexDigit c = true }

/-- A name without white space. -/
abbrev SymbolName := { s : PyStr // s ≠ [] ∧ ∀ c ∈ s, isNonSpace c = true }

/-- The object file of a record, up to the end of its line. -/
abbrev ObjectName :=
  { s : PyStr // (∃ c ∈ s.head?, isNonSpace c = true) ∧ ∀ c ∈ s, isDot c = true }

/-- Address, size and object of an input section. -/
structure Placed where
  address : HexDigits
  gap : Blanks
  size : HexDigits
  gap' : Blanks
  object : ObjectName

def Placed.line (p : Placed) : PyStr :=
  "0x" ++ (p.address.val ++ (p.gap.val ++ ("0x" ++
    (p.size.val ++ (p.gap'.val ++ p.object.val)))))

structure SymbolLine where
  indent : Blanks
  address : HexDigits
  gap : Blanks
  name : SymbolName
  trailing : Trailing

def SymbolLine.line (l : SymbolLine) : PyStr :=
  l.indent.val ++ ("0x" ++ (l.address.val ++ (l.gap.val ++
    (l.name.val ++ l.trailing.val))))

/-- Where the placement stands: behind the name, or on the next line. -/
inductive RecordForm
  | oneLine (gap : Blanks)
  | twoLines (trailing : Trailing) (indent : Blanks)

/-- A `.noinit` input section with its symbols. -/
structure NoinitRecord where
  lead : { c : ℕ // isSpace c = true }
  suffix : { s : PyStr // ∀ c ∈ s, isNonSpace c = true }
  form : RecordForm
  placed : Placed
  symbols : List SymbolLine

namespace NoinitRecord

/-- The section name with the character before it. -/
def nameText (r : NoinitRecord) : PyStr :=
  r.lead.val :: (".noinit" ++ r.suffix.val)

def headLines (r : NoinitRecord) : List PyStr :=
  match r.form with
  | .oneLine gap => [r.nameText ++ (gap.val ++ r.placed.line)]
  | .twoLines trailing indent => [r.nameText ++ trailing.val, indent.val ++ r.placed.line]

def lines (r : NoinitRecord) : List PyStr := r.headLines ++ r.symbols.map SymbolLine.line

def names (r : NoinitRecord) : List PyStr := r.symbols.map fun l => l.name.val

end NoinitRecord

/-- The first line of a `.noinit` record. -/
def StartsNoinit (line : PyStr) : Prop :=
  ∃ c rest, isSpace c = true ∧ line = c :: (".noinit" ++ rest)

/-- Lines between two records: headers of output sections, blank lines, records of other sections
with their details and symbols.  The first of them is no symbol line. -/
structure Between where
  lines : List PyStr
  noRecord : ∀ line ∈ lines, ¬ StartsNoinit line
  first : ∀ line ∈ lines.head?, ¬ "0x" <+: line.dropWhile isSpace

/-- **A map**, as far as its `.noinit` records go. -/
structure MapLayout where
  preamble : List PyStr
  noRecord : ∀ line ∈ preamble, ¬ StartsNoinit line
  records : List (NoinitRecord × Between)

def MapLayout.lines (m : MapLayout) : List PyStr :=
  m.preamble ++ m.records.flatMap fun (r, between) => r.lines ++ between.lines

/-- A non-empty text followed by `stack` or `stacks`. -/
def endsInStack (name : PyStr) : Bool :=
  ([PyStr.ofString "stack", PyStr.ofString "stacks"]).any fun ending =>
    ending.isSuffixOf name && decide (ending.length < name.length)

/-- The row that a record should have. -/
def NoinitRecord.stackRows (r : NoinitRecord) : List StackRow :=
  OpenRecord.rows ⟨hexValue r.placed.size, r.placed.object, r.names.filter endsInStack⟩

def MapLayout.stackRows (m : MapLayout) : List StackRow :=
  m.records.flatMap fun (r, _) => r.stackRows

end Layout

section Lines

/-- A name that the parser takes for a stack. -/
def isStackName (name : PyStr) : Bool := (matchItems stackName name).isSome

lemma isSpace_of_isHexDigit {c : ℕ} (h : isHexDigit c = true) : isSpace c = false := by
  simp only [isHexDigit, isDigit, inRange, Bool.or_eq_true, Bool.and_eq_true,
    decide_eq_true_eq] at h
  simp only [isSpace, Bool.or_eq_false_iff, decide_eq_false_iff_not, beq_eq_false_iff_ne]
  have hbounds : 48 ≤ c ∧ c ≤ 102 := by
    rcases h with (h | h) | h <;> simp at h <;> omega
  omega

lemma isHexDigit_of_isSpace {c : ℕ} (h : isSpace c = true) : isHexDigit c = false := by
  by_contra hhex
  rw [isSpace_of_isHexDigit (Bool.not_eq_false _ ▸ hhex)] at h
  cases h

/-- The first character of a text that starts with a row of a class. -/
lemma head_append {p q : ℕ → Bool} {run tail : PyStr} (hrun : run ≠ [] ∧ ∀ c ∈ run, p c = true)
    (hpq : ∀ c, p c = true → q c = false) : ∀ c ∈ (run ++ tail).head?, q c = false := by
  intro c hc
  rw [List.head?_append_of_ne_nil _ hrun.1] at hc
  exact hpq c (hrun.2 c (List.mem_of_head? hc))

/-- A text that starts with a literal. -/
lemma literal_not_space {first : ℕ} {word : PyStr} (h : isSpace first = false) (tail : PyStr) :
    ∀ c ∈ ((first :: word) ++ tail).head?, isSpace c = false := by
  intro c hc
  cases hc
  exact h

lemma zero_not_space (tail : PyStr) :
    ∀ c ∈ ("0x" ++ tail).head?, isSpace c = false :=
  literal_not_space (by decide) tail

lemma dot_not_space (tail : PyStr) :
    ∀ c ∈ (".noinit" ++ tail).head?, isSpace c = false :=
  literal_not_space (by decide) tail

lemma nonSpace_of_space {c : ℕ} (h : isSpace c = true) : isNonSpace c = false := by
  simp [isNonSpace, h]

lemma not_space_of_nonSpace {c : ℕ} (h : isNonSpace c = true) : isSpace c = false := by
  simpa [isNonSpace] using h

/-- The placement at the end of a line. -/
lemma matchItems_placement (p : Placed) :
    matchItems placement p.line = some [PyStr.ofString "0x", p.address.val, p.gap.val,
      PyStr.ofString "0x", p.size.val, p.gap'.val, p.object.val] := by
  have hobject : matchItems [plus isDot] p.object.val = some [p.object.val] := by
    have hne : p.object.val ≠ [] := by
      obtain ⟨c, hc, -⟩ := p.object.prop.1
      rintro hnil
      rw [hnil] at hc
      cases hc
    have hmatch : matchItems [plus isDot] (p.object.val ++ []) = some [p.object.val] :=
      matchItems_plus ⟨hne, p.object.prop.2⟩ (by simp) rfl
    rwa [List.append_nil] at hmatch
  have hstart : ∀ c ∈ p.object.val.head?, isSpace c = false := by
    obtain ⟨c, hc, hspace⟩ := p.object.prop.1
    intro d hd
    cases Option.some.inj (hc.symm.trans hd)
    exact not_space_of_nonSpace hspace
  refine matchItems_text _ (matchItems_plus p.address.prop ?_ (matchItems_plus p.gap.prop
    (zero_not_space _) (matchItems_text _ (matchItems_plus p.size.prop ?_
      (matchItems_plus p.gap'.prop hstart hobject)))))
  · exact head_append p.gap.prop fun _ => isHexDigit_of_isSpace
  · exact head_append p.gap'.prop fun _ => isHexDigit_of_isSpace

/-- A line with a record in one line. -/
lemma oneLine_record (r : NoinitRecord) (gap : Blanks) :
    oneLine (r.nameText ++ (gap.val ++ r.placed.line)) =
      some (hexValue r.placed.size, r.placed.object.val) := by
  have hmatch : matchItems ([one isSpace, text ".noinit", star isNonSpace, plus isSpace] ++
      placement) (r.nameText ++ (gap.val ++ r.placed.line)) = some _ :=
    matchItems_one r.lead.prop (dot_not_space _) (matchItems_text _
      (matchItems_star r.suffix.prop (head_append gap.prop fun _ => nonSpace_of_space)
        (matchItems_plus gap.prop (zero_not_space _) (matchItems_placement r.placed))))
  rw [oneLine, matchPlacement, hmatch]
  rfl

lemma detailLine_record (p : Placed) (indent : Blanks) :
    detailLine (indent.val ++ p.line) = some (hexValue p.size, p.object.val) := by
  have hmatch : matchItems ([plus isSpace] ++ placement) (indent.val ++ p.line) = some _ :=
    matchItems_plus indent.prop (zero_not_space _) (matchItems_placement p)
  rw [detailLine, matchPlacement, hmatch]
  rfl

lemma head_trailing (trailing : Trailing) : ∀ c ∈ trailing.val.head?, isNonSpace c = false :=
  fun c hc => nonSpace_of_space (trailing.prop c (List.mem_of_head? hc))

lemma nameLine_record (r : NoinitRecord) (trailing : Trailing) :
    nameLine (r.nameText ++ trailing.val) = some (".noinit" ++ r.suffix.val) := by
  have hend : matchItems [star isSpace] trailing.val = some [trailing.val] := by
    have hmatch : matchItems [star isSpace] (trailing.val ++ []) = some [trailing.val] :=
      matchItems_star trailing.prop (by simp) rfl
    rwa [List.append_nil] at hmatch
  have hmatch : matchItems [one isSpace, text ".noinit", star isNonSpace, star isSpace]
      (r.lead.val :: (".noinit" ++ (r.suffix.val ++ trailing.val))) = some _ :=
    matchItems_one r.lead.prop (dot_not_space _) (matchItems_text _
      (matchItems_star r.suffix.prop (head_trailing trailing) hend))
  rw [NoinitRecord.nameText, List.cons_append, List.append_assoc, nameLine, hmatch]
  simp

/-- Only the lines of `.noinit` records start like one. -/
lemma startsNoinit_of_matchItems {rest : List (Item ℕ)} {line : PyStr} {pieces : List PyStr}
    (h : matchItems (one isSpace :: text ".noinit" :: rest) line = some pieces) :
    StartsNoinit line := by
  obtain ⟨run, tail, found, rfl, hrun, hrest, -⟩ := exists_of_matchItems_repeated h
  obtain ⟨c, rfl, hc⟩ := fits_one.mp hrun
  obtain ⟨tail, -, rfl, -, -⟩ := exists_of_matchItems_text hrest
  exact ⟨c, tail, hc, rfl⟩

lemma oneLine_eq_none {line : PyStr} (h : ¬ StartsNoinit line) : oneLine line = none := by
  rw [oneLine, matchPlacement, Option.map_eq_none_iff, Option.eq_none_iff_forall_ne_some]
  exact fun pieces hmatch => h (startsNoinit_of_matchItems hmatch)

lemma nameLine_eq_none {line : PyStr} (h : ¬ StartsNoinit line) : nameLine line = none := by
  rw [nameLine, Option.map_eq_none_iff, Option.eq_none_iff_forall_ne_some]
  exact fun pieces hmatch => h (startsNoinit_of_matchItems hmatch)

/-- The name line of a record is not taken for a whole record. -/
lemma oneLine_nameText (r : NoinitRecord) (trailing : Trailing) :
    oneLine (r.nameText ++ trailing.val) = none := by
  rw [oneLine, matchPlacement, Option.map_eq_none_iff, Option.eq_none_iff_forall_ne_some]
  intro pieces hmatch
  obtain ⟨run, tail, _, hline, hrun, hmatch, -⟩ := exists_of_matchItems_repeated hmatch
  obtain ⟨c, rfl, -⟩ := fits_one.mp hrun
  obtain ⟨tail, _, rfl, hmatch, -⟩ := exists_of_matchItems_text hmatch
  obtain ⟨suffix, tail, _, rfl, hsuffix, hmatch, -⟩ := exists_of_matchItems_repeated hmatch
  obtain ⟨gap, tail, _, rfl, hgap, hmatch, -⟩ := exists_of_matchItems_repeated hmatch
  obtain ⟨tail, -, rfl, -, -⟩ := exists_of_matchItems_text hmatch
  rw [NoinitRecord.nameText, List.cons_append, List.append_assoc, List.singleton_append,
    List.cons.injEq, List.append_right_inj] at hline
  obtain ⟨-, htrailing⟩ := run_unique hline.2 r.suffix.prop (fits_star.mp hsuffix)
    (head_trailing trailing) (head_append (fits_plus.mp hgap) fun _ => nonSpace_of_space)
  -- the number would have to be white space
  have hspace := trailing.prop '0'.toNat (by
    rw [htrailing]
    exact List.mem_append_right _ List.mem_cons_self)
  cases hspace

/-- A line that starts with white space and a number. -/
lemma not_startsNoinit (indent : Blanks) (tail : PyStr) :
    ¬ StartsNoinit (indent.val ++ ("0x" ++ tail)) := by
  rintro ⟨c, rest, hc, hline⟩
  have hsplit : indent.val ++ ("0x" ++ tail) =
      [c] ++ (".noinit" ++ rest) := hline
  obtain ⟨-, htail⟩ := run_unique hsplit indent.prop.2 (by simpa using hc) (zero_not_space _)
    (dot_not_space _)
  cases htail

lemma nonSpace_of_isWordChar {c : ℕ} (h : isWordChar c = true) : isNonSpace c = true := by
  simp only [isWordChar, isLetter, isDigit, isUnderscore, inRange, Bool.or_eq_true,
    Bool.and_eq_true,
    decide_eq_true_eq, beq_iff_eq] at h
  have hbounds : 48 ≤ c ∧ c ≤ 122 := by
    rcases h with ((h | h) | h) | h <;> simp at h <;> omega
  simp only [isNonSpace, isSpace, Bool.not_eq_true', Bool.or_eq_false_iff, decide_eq_false_iff_not,
    beq_eq_false_iff_ne]
  omega

lemma isWordChar_of_isNameStart {c : ℕ} (h : isNameStart c = true) : isWordChar c = true := by
  simp only [isNameStart, isWordChar, Bool.or_eq_true] at h ⊢
  tauto

lemma forall₂_stackName {pieces : List PyStr} :
    List.Forall₂ Item.Fits stackName pieces ↔ ∃ first middle ending,
      pieces = [[first], middle, "stack", ending] ∧ isNameStart first = true ∧
      (∀ c ∈ middle, isWordChar c = true) ∧ (ending = [] ∨ ending = ['s'.toNat]) := by
  simp only [stackName, List.forall₂_cons_left_iff, List.forall₂_nil_left_iff, fits_one, fits_star,
    fits_optional, beq_iff_eq]
  constructor
  · rintro ⟨_, _, ⟨first, rfl, hfirst⟩,
      ⟨middle, _, hmiddle, ⟨_, _, rfl, ⟨ending, _, hending, rfl, rfl⟩,
      rfl⟩, rfl⟩, rfl⟩
    refine ⟨first, middle, ending, rfl, hfirst, hmiddle, ?_⟩
    rcases hending with rfl | ⟨c, rfl, rfl⟩
    · exact .inl rfl
    · exact .inr rfl
  · rintro ⟨first, middle, ending, rfl, hfirst, hmiddle, hending⟩
    refine ⟨_, _, ⟨first, rfl, hfirst⟩, ⟨middle, _, hmiddle, ⟨_, _, rfl, ⟨ending, _, ?_, rfl, rfl⟩,
      rfl⟩, rfl⟩, rfl⟩
    rcases hending with rfl | rfl
    · exact .inl rfl
    · exact .inr ⟨_, rfl, rfl⟩

lemma isWordChar_of_stackName {pieces : List PyStr} (h : List.Forall₂ Item.Fits stackName pieces) :
    ∀ c ∈ pieces.flatten, isWordChar c = true := by
  obtain ⟨first, middle, ending, rfl, hfirst, hmiddle, hending⟩ := forall₂_stackName.mp h
  have hword : ∀ c ∈ PyStr.ofString "stack", isWordChar c = true := by decide
  have hend : ∀ c ∈ ending, isWordChar c = true := by
    rcases hending with rfl | rfl <;> decide
  simp only [List.flatten_cons, List.flatten_nil, List.append_nil, List.forall_mem_append,
    List.forall_mem_singleton]
  exact ⟨isWordChar_of_isNameStart hfirst, hmiddle, hword, hend⟩

/-- A name with white space behind it. -/
lemma name_of_matchItems {name : SymbolName} {trailing : Trailing} {pieces : List PyStr}
    (h : matchItems (stackName ++ [star isSpace]) (name.val ++ trailing.val) = some pieces) :
    (pieces.take 4).flatten = name.val ∧ isStackName name.val = true := by
  obtain ⟨hfits, hflat⟩ := matchItems_sound h
  have hword : List.Forall₂ Item.Fits stackName (pieces.take 4) := List.forall₂_take 4 hfits
  have hspace : List.Forall₂ Item.Fits [star isSpace] (pieces.drop 4) := List.forall₂_drop 4 hfits
  have hrest : ∀ c ∈ (pieces.drop 4).flatten.head?, isNonSpace c = false := by
    simp only [List.forall₂_cons_left_iff, List.forall₂_nil_left_iff, fits_star] at hspace
    obtain ⟨run, _, hrun, rfl, heq⟩ := hspace
    rw [heq, List.flatten_singleton]
    exact fun c hc => nonSpace_of_space (hrun c (List.mem_of_head? hc))
  have hsplit : (pieces.take 4).flatten ++ (pieces.drop 4).flatten = name.val ++ trailing.val := by
    rw [← List.flatten_append, List.take_append_drop, hflat]
  obtain ⟨hname, -⟩ := run_unique hsplit
    (fun c hc => nonSpace_of_isWordChar (isWordChar_of_stackName hword c hc)) name.prop.2 hrest
    (head_trailing trailing)
  refine ⟨hname, ?_⟩
  rw [isStackName, ← hname]
  exact matchItems_complete hword

/-- What the parser takes from a symbol line is its name. -/
lemma name_of_stackSymbol {l : SymbolLine} {name : PyStr} (h : stackSymbol l.line = some name) :
    name = l.name.val ∧ isStackName l.name = true := by
  rw [stackSymbol, Option.map_eq_some_iff] at h
  obtain ⟨pieces, hmatch, rfl⟩ := h
  obtain ⟨indent, tail, _, hline, hindent, hmatch₁, rfl⟩ := exists_of_matchItems_repeated hmatch
  obtain ⟨tail, _, rfl, hmatch₂, rfl⟩ := exists_of_matchItems_text hmatch₁
  obtain ⟨address, tail, _, rfl, haddress, hmatch₃, rfl⟩ := exists_of_matchItems_repeated hmatch₂
  obtain ⟨gap, tail, found, rfl, hgap, hfound, rfl⟩ := exists_of_matchItems_repeated hmatch₃
  -- the line leaves white space, digits and white space again at the same places
  have hfirst : ∀ c ∈ tail.head?, isSpace c = false := by
    obtain ⟨run, rest, _, heq, hrun, -, -⟩ := exists_of_matchItems_repeated hfound
    obtain ⟨first, rfl, hstart⟩ := fits_one.mp hrun
    intro c hc
    rw [heq] at hc
    cases hc
    exact not_space_of_nonSpace (nonSpace_of_isWordChar (isWordChar_of_isNameStart hstart))
  have hname : ∀ c ∈ (l.name.val ++ l.trailing.val).head?, isSpace c = false :=
    head_append l.name.prop fun _ => not_space_of_nonSpace
  obtain ⟨-, hline⟩ := run_unique hline l.indent.prop.2 (fits_plus.mp hindent).2 (zero_not_space _)
    (zero_not_space _)
  obtain ⟨-, hline⟩ := run_unique (List.append_cancel_left hline) l.address.prop.2
    (fits_plus.mp haddress).2 (head_append l.gap.prop fun _ => isHexDigit_of_isSpace)
    (head_append (fits_plus.mp hgap) fun _ => isHexDigit_of_isSpace)
  obtain ⟨-, rfl⟩ := run_unique hline l.gap.prop.2 (fits_plus.mp hgap).2 hname hfirst
  exact name_of_matchItems hfound

/-- What the parser takes from a symbol line. -/
lemma stackSymbol_line (l : SymbolLine) :
    stackSymbol l.line = if isStackName l.name then some l.name.val else none := by
  cases hsymbol : stackSymbol l.line with
  | some name =>
      obtain ⟨rfl, hstack⟩ := name_of_stackSymbol hsymbol
      rw [if_pos hstack]
  | none =>
      rw [if_neg]
      intro hstack
      obtain ⟨pieces, hpieces⟩ := Option.isSome_iff_exists.mp hstack
      obtain ⟨hfits, hflat⟩ := matchItems_sound hpieces
      rw [stackSymbol, Option.map_eq_none_iff] at hsymbol
      have hline : ([l.indent.val, "0x", l.address.val, l.gap.val] ++
          (pieces ++ [l.trailing.val])).flatten = l.line := by
        simp [SymbolLine.line, hflat]
      have hall :
          List.Forall₂ Item.Fits ([plus isSpace, text "0x", plus isHexDigit,
          plus isSpace] ++ (stackName ++ [star isSpace]))
          ([l.indent.val, "0x", l.address.val, l.gap.val] ++
            (pieces ++ [l.trailing.val])) :=
        .cons (fits_plus.mpr l.indent.prop) (.cons (fits_text.mpr rfl)
          (.cons (fits_plus.mpr l.address.prop) (.cons (fits_plus.mpr l.gap.prop)
            (List.rel_append hfits (.cons (fits_star.mpr l.trailing.prop) .nil)))))
      have hsome := matchItems_complete hall
      rw [hline, hsymbol] at hsome
      cases hsome

/-- A stack symbol starts with a number. -/
lemma stackSymbol_eq_none {line : PyStr}
    (h : ¬ "0x" <+: line.dropWhile isSpace) : stackSymbol line = none := by
  rw [stackSymbol, Option.map_eq_none_iff, Option.eq_none_iff_forall_ne_some]
  intro pieces hmatch
  obtain ⟨indent, tail, _, rfl, hindent, hmatch, -⟩ := exists_of_matchItems_repeated hmatch
  obtain ⟨tail, -, rfl, -, -⟩ := exists_of_matchItems_text hmatch
  refine h ?_
  rw [List.dropWhile_append_of_pos (fits_plus.mp hindent).2]
  exact ⟨tail, rfl⟩

end Lines

section Run

namespace StackParser

variable {s : StackParser} {line : PyStr}

lemma finishCurrent_of_none (h : s.current = none) : s.finishCurrent = s := by
  obtain ⟨pending, current, rows⟩ := s
  cases h
  simp [finishCurrent]

lemma finishCurrent_finishCurrent : s.finishCurrent.finishCurrent = s.finishCurrent :=
  finishCurrent_of_none rfl

/-- A line that starts no record, when no details are awaited. -/
lemma parseLine_plain (hline : ¬ StartsNoinit line) (hpending : s.pending = []) :
    s.parseLine line =
      match s.current with
      | some r =>
        match stackSymbol line with
        | some name => { s with current := some { r with names := r.names ++ [name] } }
        | none => s.finishCurrent
      | none => s := by
  rw [parseLine, oneLine_eq_none hline, nameLine_eq_none hline, if_neg (by simp [hpending])]

/-- The lines with the name and the placement of a record. -/
lemma foldl_headLines (r : NoinitRecord) :
    r.headLines.foldl parseLine s = s.openRecord (hexValue r.placed.size, r.placed.object.val) := by
  rw [NoinitRecord.headLines]
  cases r.form with
  | oneLine gap =>
      rw [List.foldl_cons, List.foldl_nil, parseLine, oneLine_record]
  | twoLines trailing indent =>
      have hdetail : ¬ StartsNoinit (indent.val ++ r.placed.line) := not_startsNoinit indent _
      rw [List.foldl_cons, List.foldl_cons, List.foldl_nil, parseLine, parseLine, oneLine_nameText,
        nameLine_record, oneLine_eq_none hdetail, nameLine_eq_none hdetail]
      have hpending : PyStr.ofString ".noinit" ++ r.suffix.val ≠ [] := List.cons_ne_nil _ _
      simp only [ne_eq, hpending, not_false_eq_true, if_true, detailLine_record, openRecord,
        finishCurrent, Option.map_none, Option.getD_none, List.append_nil]

lemma not_startsNoinit_symbol (l : SymbolLine) : ¬ StartsNoinit l.line :=
  not_startsNoinit l.indent _

/-- Lines behind a closed record. -/
lemma foldl_of_none {lines : List PyStr} (hlines : ∀ line ∈ lines, ¬ StartsNoinit line)
    (hpending : s.pending = []) (hcurrent : s.current = none) : lines.foldl parseLine s = s := by
  induction lines with
  | nil => rfl
  | cons line lines ih =>
      rw [List.forall_mem_cons] at hlines
      rw [List.foldl_cons, parseLine_plain hlines.1 hpending, hcurrent]
      exact ih hlines.2

/-- **The symbols of a record.**  A name is added as long as every line has a stack symbol. -/
lemma foldl_symbols (symbols : List SymbolLine) (r : OpenRecord) (rows : List StackRow) :
    let s := (symbols.map SymbolLine.line).foldl parseLine ⟨[], some r, rows⟩
    s.pending = [] ∧ s.finishCurrent.rows = rows ++ OpenRecord.rows
      { r with names := r.names ++ (symbols.map fun l => l.name.val).takeWhile isStackName } := by
  induction symbols generalizing r with
  | nil => simp [finishCurrent]
  | cons l symbols ih =>
      have hline : parseLine ⟨[], some r, rows⟩ l.line = _ :=
        parseLine_plain (not_startsNoinit_symbol l) rfl
      rw [stackSymbol_line] at hline
      rw [List.map_cons, List.foldl_cons, hline]
      by_cases hstack : isStackName l.name.val = true
      · simp only [hstack, if_true, List.map_cons, List.takeWhile_cons_of_pos]
        simpa using ih ⟨r.bytes, r.source, r.names ++ [l.name.val]⟩
      · have hlines : ∀ line ∈ symbols.map SymbolLine.line, ¬ StartsNoinit line := by
          intro line hmem
          obtain ⟨l', -, rfl⟩ := List.mem_map.mp hmem
          exact not_startsNoinit_symbol l'
        have hclosed : finishCurrent ⟨[], some r, rows⟩ = ⟨[], none, rows ++ r.rows⟩ := rfl
        simp only [hstack, Bool.false_eq_true, if_false, hclosed, List.map_cons,
          List.takeWhile_cons_of_neg, not_false_eq_true, List.append_nil]
        rw [foldl_of_none hlines rfl rfl, finishCurrent_of_none rfl]
        exact ⟨rfl, rfl⟩

/-- The lines between two records close the record before them. -/
lemma foldl_between (b : Between) (hpending : s.pending = []) :
    (b.lines.foldl parseLine s).finishCurrent.rows = s.finishCurrent.rows := by
  obtain ⟨lines, hlines, hfirst⟩ := b
  cases lines with
  | nil => rfl
  | cons line lines =>
      rw [List.forall_mem_cons] at hlines
      have hclose : s.parseLine line = s.finishCurrent := by
        rw [parseLine_plain hlines.1 hpending, stackSymbol_eq_none (hfirst line rfl)]
        cases hcurrent : s.current with
        | some r => rfl
        | none => exact (finishCurrent_of_none hcurrent).symm
      rw [List.foldl_cons, hclose, foldl_of_none (s := s.finishCurrent) hlines.2 hpending rfl,
        finishCurrent_finishCurrent]

end StackParser

/-- The row that the parser finds for a record. -/
def NoinitRecord.seenRows (r : NoinitRecord) : List StackRow :=
  OpenRecord.rows ⟨hexValue r.placed.size, r.placed.object, r.names.takeWhile isStackName⟩

open StackParser in
/-- One record and what follows it. -/
lemma foldl_record (s : StackParser) (r : NoinitRecord) (b : Between) :
    ((r.lines ++ b.lines).foldl parseLine s).finishCurrent.rows =
      s.finishCurrent.rows ++ r.seenRows := by
  rw [NoinitRecord.lines, List.foldl_append, List.foldl_append, foldl_headLines]
  obtain ⟨hsymbols, hrows⟩ := foldl_symbols r.symbols
    ⟨hexValue r.placed.size, r.placed.object.val, []⟩ s.finishCurrent.rows
  exact (foldl_between b hsymbols).trans hrows

/-- **What the parser sees of a map.** -/
theorem parseLinkedStacks_layout {mapText : PyStr} {m : MapLayout}
    (h : splitLines mapText = m.lines) :
    parseLinkedStacks mapText = m.records.flatMap fun (r, _) => r.seenRows := by
  have hrecords : ∀ (records : List (NoinitRecord × Between)) (s : StackParser),
      ((records.flatMap fun (r, b) => r.lines ++ b.lines).foldl StackParser.parseLine
        s).finishCurrent.rows =
        s.finishCurrent.rows ++ records.flatMap fun (r, _) => r.seenRows := by
    intro records
    induction records with
    | nil => simp
    | cons record records ih =>
        intro s
        rw [List.flatMap_cons, List.foldl_append, ih, foldl_record, List.flatMap_cons,
          List.append_assoc]
  rw [parseLinkedStacks, h, MapLayout.lines, List.foldl_append,
    StackParser.foldl_of_none m.noRecord rfl rfl, hrecords]
  rfl

end Run

section Attribution

/-- A C identifier. -/
abbrev IsIdentifier (name : PyStr) : Prop := Pattern.IsWord isNameStart isWordChar name

/-- A proper ending of a text. -/
lemma properSuffix_iff {ending name : PyStr} :
    (ending.isSuffixOf name && decide (ending.length < name.length)) = true ↔
      ∃ front, name = front ++ ending ∧ front ≠ [] := by
  rw [Bool.and_eq_true, List.isSuffixOf_iff_suffix, decide_eq_true_iff]
  constructor
  · rintro ⟨⟨front, rfl⟩, hlength⟩
    refine ⟨front, rfl, ?_⟩
    rintro rfl
    exact absurd hlength (lt_irrefl _)
  · rintro ⟨front, rfl, hfront⟩
    refine ⟨⟨front, rfl⟩, ?_⟩
    have hpos := List.length_pos_of_ne_nil hfront
    rw [List.length_append]
    omega

lemma endsInStack_iff {name : PyStr} :
    endsInStack name = true ↔ ∃ front ending, name = front ++ ("stack" ++ ending) ∧
      front ≠ [] ∧ (ending = [] ∨ ending = ['s'.toNat]) := by
  rw [endsInStack, List.any_cons, List.any_cons, List.any_nil, Bool.or_false, Bool.or_eq_true,
    properSuffix_iff, properSuffix_iff]
  constructor
  · rintro (⟨front, rfl, hfront⟩ | ⟨front, rfl, hfront⟩)
    · exact ⟨front, [], rfl, hfront, .inl rfl⟩
    · exact ⟨front, ['s'.toNat], rfl, hfront, .inr rfl⟩
  · rintro ⟨front, ending, rfl, hfront, rfl | rfl⟩
    · exact .inl ⟨front, rfl, hfront⟩
    · exact .inr ⟨front, rfl, hfront⟩

lemma isStackName_iff {name : PyStr} :
    isStackName name = true ↔ IsIdentifier name ∧ endsInStack name = true := by
  rw [endsInStack_iff]
  constructor
  · intro h
    obtain ⟨pieces, hpieces⟩ := Option.isSome_iff_exists.mp h
    obtain ⟨hfits, rfl⟩ := matchItems_sound hpieces
    have hword := isWordChar_of_stackName hfits
    obtain ⟨first, middle, ending, rfl, hfirst, -, hending⟩ := forall₂_stackName.mp hfits
    refine ⟨⟨first, _, rfl, hfirst, fun c hc => hword c (List.mem_cons_of_mem _ hc)⟩,
      first :: middle, ending, by simp, List.cons_ne_nil _ _, hending⟩
  · rintro ⟨⟨first, rest, hname, hfirst, hrest⟩, front, ending, rfl, hfront, hending⟩
    obtain ⟨first', middle, rfl⟩ := List.exists_cons_of_ne_nil hfront
    rw [List.cons_append, List.cons.injEq] at hname
    obtain ⟨rfl, rfl⟩ := hname
    have hfits := forall₂_stackName.mpr ⟨first', middle, ending, rfl, hfirst,
      fun c hc => hrest c (List.mem_append_left _ hc), hending⟩
    have hsome := matchItems_complete hfits
    simpa [isStackName] using hsome

/-- The stack symbols of a record are identifiers and stand before all other symbols. -/
def NoinitRecord.Tidy (r : NoinitRecord) : Prop :=
  ∃ front back, r.names = front ++ back ∧
    (∀ name ∈ front, IsIdentifier name ∧ endsInStack name = true) ∧
    ∀ name ∈ back, endsInStack name = false

lemma filter_endsInStack (names : List PyStr) :
    names.filter endsInStack =
      names.takeWhile isStackName ++ (names.dropWhile isStackName).filter endsInStack := by
  conv_lhs => rw [← List.takeWhile_append_dropWhile (p := isStackName) (l := names)]
  rw [List.filter_append, List.filter_eq_self.mpr]
  intro name hname
  exact (isStackName_iff.mp (List.mem_takeWhile_imp hname)).2

/-- A record is tidy if behind its first name that is no stack identifier none ends like a stack. -/
lemma tidy_iff {r : NoinitRecord} :
    r.Tidy ↔ (r.names.dropWhile isStackName).filter endsInStack = [] := by
  constructor
  · rintro ⟨front, back, hnames, hfront, hback⟩
    rw [hnames, List.dropWhile_append_of_pos fun name hname =>
      isStackName_iff.mpr (hfront name hname),
      List.filter_eq_nil_iff]
    intro name hname
    rw [hback name ((List.dropWhile_suffix _).mem hname)]
    exact Bool.false_ne_true
  · intro hnil
    refine ⟨_, _, List.takeWhile_append_dropWhile.symm,
      fun name hname => isStackName_iff.mp (List.mem_takeWhile_imp hname), fun name hname => ?_⟩
    have hnot := List.filter_eq_nil_iff.mp hnil name hname
    simpa using hnot

lemma length_intercalate {separator : PyStr} {l : List PyStr} (h : l ≠ []) :
    (List.intercalate separator l).length + separator.length =
      (l.map List.length).sum + l.length * separator.length := by
  induction l with
  | nil => exact absurd rfl h
  | cons first rest ih =>
      cases rest with
      | nil => simp [List.intercalate]
      | cons second rest =>
          have hrest := ih (List.cons_ne_nil _ _)
          have hsplit : List.intercalate separator (first :: second :: rest)
              = first ++ (separator ++ List.intercalate separator (second :: rest)) := by
            simp [List.intercalate]
          rw [hsplit, List.length_append, List.length_append, List.map_cons, List.sum_cons,
            List.length_cons, Nat.succ_mul]
          omega

lemma length_joined {names : List PyStr} (h : names ≠ []) :
    (List.intercalate ", " (sortKeys names)).length + 2 =
      (names.map List.length).sum + names.length * 2 := by
  have hperm : (sortKeys names).Perm names := List.perm_insertionSort _ _
  have hne : sortKeys names ≠ [] := by
    intro hnil
    rw [hnil] at hperm
    exact h hperm.symm.eq_nil
  rw [← (hperm.map List.length).sum_nat, ← hperm.length_eq]
  exact length_intercalate hne

/-- More names give another row. -/
lemma rows_append_eq_iff {bytes : ℕ} {source : PyStr} {names extra : List PyStr} :
    OpenRecord.rows ⟨bytes, source, names⟩ = OpenRecord.rows ⟨bytes, source, names ++ extra⟩ ↔
      extra = [] := by
  constructor
  · intro hrows
    by_contra hextra
    have hboth : names ++ extra ≠ [] := List.append_ne_nil_of_right_ne_nil _ hextra
    rw [OpenRecord.rows, OpenRecord.rows, if_neg hboth] at hrows
    by_cases hnames : names = []
    · rw [if_pos hnames] at hrows
      cases hrows
    · rw [if_neg hnames, List.singleton_inj, StackRow.mk.injEq] at hrows
      dsimp only at hrows
      have hlength := length_joined hnames
      have hlength' := length_joined hboth
      rw [← hrows.1, List.map_append, List.sum_append, List.length_append] at hlength'
      have hpos := List.length_pos_of_ne_nil hextra
      omega
  · rintro rfl
    rw [List.append_nil]

lemma length_flatMap_le {α β : Type} {l : List α} {f g : α → List β}
    (hle : ∀ a ∈ l, (f a).length ≤ (g a).length) :
    (l.flatMap f).length ≤ (l.flatMap g).length := by
  induction l with
  | nil => exact le_refl _
  | cons a l ih =>
      rw [List.forall_mem_cons] at hle
      rw [List.flatMap_cons, List.flatMap_cons, List.length_append, List.length_append]
      exact Nat.add_le_add hle.1 (ih hle.2)

/-- Lists that are put together from parts of which none is longer than its counterpart. -/
lemma flatMap_eq_iff {α β : Type} {l : List α} {f g : α → List β}
    (hle : ∀ a ∈ l, (f a).length ≤ (g a).length) :
    l.flatMap f = l.flatMap g ↔ ∀ a ∈ l, f a = g a := by
  induction l with
  | nil => simp
  | cons a l ih =>
      rw [List.forall_mem_cons] at hle
      rw [List.flatMap_cons, List.flatMap_cons, List.forall_mem_cons, ← ih hle.2]
      constructor
      · intro heq
        have hlength := congrArg List.length heq
        rw [List.length_append, List.length_append] at hlength
        have hrest := length_flatMap_le hle.2
        exact List.append_inj heq (by omega)
      · rintro ⟨hfirst, hrest⟩
        rw [hfirst, hrest]

lemma length_rows_le {r r' : OpenRecord} (h : r'.names = [] → r.names = []) :
    r.rows.length ≤ r'.rows.length := by
  rw [OpenRecord.rows, OpenRecord.rows]
  by_cases hnames : r.names = []
  · simp [hnames]
  · have hnames' : r'.names ≠ [] := fun hnil => hnames (h hnil)
    simp [hnames, hnames']

/-- **Attribution of the stacks in a map.**  For every text with the lines of a map, the parser
finds the rows of its `.noinit` records exactly if in each of them the stack symbols are identifiers
and stand before all other symbols. -/
theorem linked_stacks_attributed_iff {mapText : PyStr} {m : MapLayout}
    (h : splitLines mapText = m.lines) :
    parseLinkedStacks mapText = m.stackRows ↔ ∀ record ∈ m.records, record.1.Tidy := by
  rw [parseLinkedStacks_layout h, MapLayout.stackRows, flatMap_eq_iff]
  · refine forall₂_congr fun ⟨r, _⟩ _ => ?_
    show r.seenRows = r.stackRows ↔ r.Tidy
    rw [tidy_iff, NoinitRecord.seenRows, NoinitRecord.stackRows, filter_endsInStack,
      rows_append_eq_iff]
  · rintro ⟨r, b⟩ -
    refine length_rows_le fun hnil => ?_
    rw [filter_endsInStack] at hnil
    exact (List.append_eq_nil_iff.mp hnil).1

def oneBlank : Blanks := ⟨[' '.toNat], by decide⟩

def noTrailing : Trailing := ⟨[], by decide⟩

def zeroAddress : HexDigits := ⟨"0", by decide⟩

def symbolLine (name : SymbolName) : SymbolLine :=
  ⟨oneBlank, zeroAddress, oneBlank, name, noTrailing⟩

/-- A map with one record in two lines. -/
def mapWith (symbols : List SymbolName) : MapLayout where
  preamble := []
  noRecord := by simp
  records :=
    [({ lead := ⟨' '.toNat, by decide⟩
        suffix := ⟨".app", by decide⟩
        form := .twoLines noTrailing oneBlank
        placed := {
          address := zeroAddress
          gap := oneBlank
          size := ⟨"800", by decide⟩
          gap' := oneBlank
          object := ⟨"control.c.obj", by decide +kernel⟩ }
        symbols := symbols.map symbolLine },
      { lines := [], noRecord := by simp, first := by simp })]

def controlStack : SymbolName := ⟨"control_stack", by decide⟩

def controlData : SymbolName := ⟨"control_data", by decide⟩

/-- A stack and then another symbol. -/
theorem linked_stacks_attributed_tidy :
    ∃ mapText, splitLines mapText = (mapWith [controlStack, controlData]).lines ∧
      parseLinkedStacks mapText = [⟨"control_stack", 0x800, "control.c.obj"⟩] := by
  have hlines : splitLines (PyStr.ofString
      " .noinit.app\n 0x0 0x800 control.c.obj\n 0x0 control_stack\n 0x0 control_data\n") =
      (mapWith [controlStack, controlData]).lines := by
    decide +kernel
  refine ⟨_, hlines, ((linked_stacks_attributed_iff hlines).mpr ?_).trans (by decide +kernel)⟩
  intro record hrecord
  rw [List.mem_singleton.mp hrecord]
  have hidentifier : IsIdentifier "control_stack" :=
    (isStackName_iff.mp (by decide +kernel)).1
  exact ⟨[controlStack.val], [controlData.val], rfl, by simpa using ⟨hidentifier, by decide⟩,
    by decide⟩

/-- Another symbol and then the stack: the record is lost. -/
theorem linked_stack_lost :
    ∃ mapText, splitLines mapText = (mapWith [controlData, controlStack]).lines ∧
      parseLinkedStacks mapText = [] ∧
      (mapWith [controlData, controlStack]).stackRows =
        [⟨"control_stack", 0x800, "control.c.obj"⟩] := by
  refine ⟨PyStr.ofString
    " .noinit.app\n 0x0 0x800 control.c.obj\n 0x0 control_data\n 0x0 control_stack\n", ?_, ?_, ?_⟩
  · decide +kernel
  · decide +kernel
  · decide +kernel

end Attribution

end Ros2Zephyr
