import Mathlib.Data.List.Basic
import Mathlib.Data.List.TakeWhile
import Mathlib.Tactic.Common

/-!
# Regular expressions on lines

Python's `re` for expressions that are a sequence of pieces from `^` to `$`: repeated characters of
a class, and fixed texts.  The pieces are tried as `re` does it, greedily and with backtracking, and
the result has what each of them matched, from which the groups are put together.

* `matchItems` — the matcher.
* `matchItems_sound`, `matchItems_complete` — what it finds fits, and it finds something if anything
  fits.
* `matchItems_run` — a repetition that is followed by a character outside its class is
  deterministic.
* `splitLines` — `str.splitlines`, which ends a line at more characters than the newline.
-/

namespace PyRe

variable {α : Type*}

/-- A piece of an expression. -/
inductive Item (α : Type*)
  | repeated (inClass : α → Bool) (least : ℕ) (most : Option ℕ)
  | text (chars : List α)

namespace Item

/-- `c` -/
def one (inClass : α → Bool) : Item α := repeated inClass 1 (some 1)

/-- `c?` -/
def optional (inClass : α → Bool) : Item α := repeated inClass 0 (some 1)

/-- `c*` -/
def star (inClass : α → Bool) : Item α := repeated inClass 0 none

/-- `c+` -/
def plus (inClass : α → Bool) : Item α := repeated inClass 1 none

/-- The texts that the piece can match. -/
def Fits : Item α → List α → Prop
  | repeated inClass least most, s =>
      (∀ c ∈ s, inClass c = true) ∧ least ≤ s.length ∧ ∀ m, most = some m → s.length ≤ m
  | text chars, s => s = chars

lemma fits_text {chars s : List α} : (text chars).Fits s ↔ s = chars := Iff.rfl

lemma fits_one {inClass : α → Bool} {s : List α} :
    (one inClass).Fits s ↔ ∃ c, s = [c] ∧ inClass c = true := by
  constructor
  · rintro ⟨hclass, hleast, hmost⟩
    obtain ⟨c, rfl⟩ := List.length_eq_one_iff.mp (le_antisymm (hmost 1 rfl) hleast)
    exact ⟨c, rfl, hclass c List.mem_cons_self⟩
  · rintro ⟨c, rfl, hc⟩
    exact ⟨by simpa using hc, le_refl _, by rintro m ⟨⟩; exact le_refl _⟩

lemma fits_optional {inClass : α → Bool} {s : List α} :
    (optional inClass).Fits s ↔ s = [] ∨ ∃ c, s = [c] ∧ inClass c = true := by
  constructor
  · rintro ⟨hclass, -, hmost⟩
    cases s with
    | nil => exact .inl rfl
    | cons c rest =>
        have hrest : rest = [] := by simpa using hmost 1 rfl
        subst hrest
        exact .inr ⟨c, rfl, hclass c List.mem_cons_self⟩
  · rintro (rfl | ⟨c, rfl, hc⟩)
    · exact ⟨by simp, le_refl _, fun _ _ => Nat.zero_le _⟩
    · exact ⟨by simpa using hc, Nat.zero_le _, by rintro m ⟨⟩; exact le_refl _⟩

lemma fits_plus {inClass : α → Bool} {s : List α} :
    (plus inClass).Fits s ↔ s ≠ [] ∧ ∀ c ∈ s, inClass c = true := by
  simp [plus, Fits, Nat.one_le_iff_ne_zero, and_comm]

lemma fits_star {inClass : α → Bool} {s : List α} :
    (star inClass).Fits s ↔ ∀ c ∈ s, inClass c = true := by
  simp [star, Fits]

end Item

/-- The longest repetition at the start of a text. -/
def longest (inClass : α → Bool) (most : Option ℕ) (s : List α) : ℕ :=
  match most with
  | some m => min m (s.takeWhile inClass).length
  | none => (s.takeWhile inClass).length

section Runs

variable {s : List α} {inClass : α → Bool} {least : ℕ} {most : Option ℕ}

lemma mem_lengths {least most n : ℕ} :
    n ∈ (List.range (most + 1)).reverse.filter (least ≤ ·) ↔ least ≤ n ∧ n ≤ most := by
  simp only [List.mem_filter, List.mem_reverse, List.mem_range, decide_eq_true_eq, Nat.lt_succ_iff]
  exact and_comm

lemma longest_le (inClass : α → Bool) (most : Option ℕ) (s : List α) :
    longest inClass most s ≤ (s.takeWhile inClass).length := by
  cases most with
  | none => exact le_refl _
  | some m => exact min_le_right _ _

/-- Every repetition up to the longest one fits. -/
lemma fits_take {n : ℕ} (hleast : least ≤ n) (hn : n ≤ longest inClass most s) :
    (Item.repeated inClass least most).Fits (s.take n) := by
  have hrun := hn.trans (longest_le inClass most s)
  have htake : s.take n = (s.takeWhile inClass).take n := by
    conv_rhs => rw [List.prefix_iff_eq_take.mp (List.takeWhile_prefix inClass)]
    rw [List.take_take, min_eq_left hrun]
  have hlength : (s.take n).length = n := by
    rw [htake, List.length_take, min_eq_left hrun]
  refine ⟨fun c hc => ?_, hlength.symm ▸ hleast, fun m hm => ?_⟩
  · rw [htake] at hc
    exact List.mem_takeWhile_imp (List.mem_of_mem_take hc)
  · subst hm
    rw [hlength]
    exact hn.trans (min_le_left _ _)

lemma length_le_longest {run tail : List α} (h : (Item.repeated inClass least most).Fits run) :
    run.length ≤ longest inClass most (run ++ tail) := by
  obtain ⟨hclass, -, hmost⟩ := h
  have hrun : run.length ≤ ((run ++ tail).takeWhile inClass).length := by
    rw [List.takeWhile_append_of_pos hclass, List.length_append]
    exact Nat.le_add_right _ _
  cases most with
  | none => exact hrun
  | some m => exact le_min (hmost m rfl) hrun

/-- Two ways to split a text where it leaves a class are the same. -/
lemma run_unique {run run' tail tail' : List α} (heq : run ++ tail = run' ++ tail')
    (hrun : ∀ c ∈ run, inClass c = true) (hrun' : ∀ c ∈ run', inClass c = true)
    (htail : ∀ c ∈ tail.head?, inClass c = false)
    (htail' : ∀ c ∈ tail'.head?, inClass c = false) : run = run' ∧ tail = tail' := by
  have hsplit : ∀ {run tail : List α}, (∀ c ∈ run, inClass c = true) →
      (∀ c ∈ tail.head?, inClass c = false) → (run ++ tail).takeWhile inClass = run := by
    intro run tail hrun htail
    rw [List.takeWhile_append_of_pos hrun]
    cases tail with
    | nil => simp
    | cons c tail => simp [htail c rfl]
  have hruns : run = run' := by
    rw [← hsplit hrun htail, heq, hsplit hrun' htail']
  subst hruns
  exact ⟨rfl, List.append_cancel_left heq⟩

end Runs

section Matching

variable [DecidableEq α]

/-- The texts that the pieces match, from the start of the text to its end; the longest repetition
is tried first. -/
def matchItems : List (Item α) → List α → Option (List (List α))
  | [], s => if s.isEmpty then some [] else none
  | .text chars :: rest, s =>
      if chars.isPrefixOf s then
        (matchItems rest (s.drop chars.length)).map fun pieces => chars :: pieces
      else none
  | .repeated inClass least most :: rest, s =>
      ((List.range (longest inClass most s + 1)).reverse.filter (least ≤ ·)).findSome? fun n =>
        (matchItems rest (s.drop n)).map fun pieces => s.take n :: pieces

variable {items rest : List (Item α)} {s : List α} {pieces : List (List α)} {inClass : α → Bool}
  {least : ℕ} {most : Option ℕ}

/-- What a fixed text at the start of an expression matched. -/
lemma exists_of_matchItems_text {chars : List α}
    (h : matchItems (.text chars :: rest) s = some pieces) :
    ∃ tail found, s = chars ++ tail ∧ matchItems rest tail = some found ∧
      pieces = chars :: found := by
  rw [matchItems] at h
  split at h
  · next hstart =>
      obtain ⟨found, hrest, rfl⟩ := Option.map_eq_some_iff.mp h
      have hsplit := List.prefix_iff_eq_append.mp (List.isPrefixOf_iff_prefix.mp hstart)
      exact ⟨_, found, hsplit.symm, hrest, rfl⟩
  · cases h

/-- What a repetition at the start of an expression matched. -/
lemma exists_of_matchItems_repeated
    (h : matchItems (.repeated inClass least most :: rest) s = some pieces) :
    ∃ run tail found, s = run ++ tail ∧ (Item.repeated inClass least most).Fits run ∧
      matchItems rest tail = some found ∧ pieces = run :: found := by
  rw [matchItems] at h
  obtain ⟨n, hn, hpiece⟩ := List.exists_of_findSome?_eq_some h
  obtain ⟨hleast, hmost⟩ := mem_lengths.mp hn
  obtain ⟨found, hrest, rfl⟩ := Option.map_eq_some_iff.mp hpiece
  exact ⟨_, _, found, (List.take_append_drop n s).symm, fits_take hleast hmost, hrest, rfl⟩

/-- **What is found fits.** -/
theorem matchItems_sound (h : matchItems items s = some pieces) :
    List.Forall₂ Item.Fits items pieces ∧ pieces.flatten = s := by
  induction items generalizing s pieces with
  | nil =>
      rw [matchItems] at h
      split at h
      · next hempty =>
          cases h
          exact ⟨.nil, (List.isEmpty_iff.mp hempty).symm⟩
      · cases h
  | cons item rest ih =>
      cases item with
      | text chars =>
          obtain ⟨tail, found, rfl, hrest, rfl⟩ := exists_of_matchItems_text h
          obtain ⟨hfits, rfl⟩ := ih hrest
          exact ⟨.cons rfl hfits, rfl⟩
      | repeated inClass least most =>
          obtain ⟨run, tail, found, rfl, hrun, hrest, rfl⟩ := exists_of_matchItems_repeated h
          obtain ⟨hfits, rfl⟩ := ih hrest
          exact ⟨.cons hrun hfits, rfl⟩

/-- **Something is found if anything fits.** -/
theorem matchItems_complete (h : List.Forall₂ Item.Fits items pieces) :
    (matchItems items pieces.flatten).isSome := by
  induction h with
  | nil => rfl
  | @cons item piece rest pieces hpiece _ ih =>
      rw [List.flatten_cons]
      cases item with
      | text chars =>
          cases hpiece
          simp [matchItems, ih]
      | repeated inClass least most =>
          rw [matchItems, List.findSome?_isSome_iff]
          refine ⟨piece.length, mem_lengths.mpr ⟨hpiece.2.1, length_le_longest hpiece⟩, ?_⟩
          rw [Option.isSome_map, List.drop_left]
          exact ih

lemma matchItems_text (chars : List α) (hrest : matchItems rest s = some pieces) :
    matchItems (.text chars :: rest) (chars ++ s) = some (chars :: pieces) := by
  simp [matchItems, hrest]

/-- A repetition that ends where the text leaves its class. -/
theorem matchItems_run {run tail : List α} (hrun : (Item.repeated inClass least most).Fits run)
    (htail : ∀ c ∈ tail.head?, inClass c = false) (hrest : matchItems rest tail = some pieces) :
    matchItems (.repeated inClass least most :: rest) (run ++ tail) = some (run :: pieces) := by
  have hstop : tail.takeWhile inClass = [] := by
    cases tail with
    | nil => rfl
    | cons c tail => exact List.takeWhile_cons_of_neg (by simp [htail c rfl])
  have hle : longest inClass most (run ++ tail) ≤ run.length := by
    refine (longest_le _ _ _).trans ?_
    rw [List.takeWhile_append_of_pos hrun.1, hstop, List.append_nil]
  have hlongest := le_antisymm hle (length_le_longest hrun)
  rw [matchItems, hlongest, List.range_succ, List.reverse_append, List.reverse_singleton,
    List.singleton_append, List.filter_cons_of_pos (by simpa using hrun.2.1), List.findSome?_cons,
    List.drop_left, hrest, Option.map_some, List.take_left]

lemma matchItems_plus {run tail : List α} (hrun : run ≠ [] ∧ ∀ c ∈ run, inClass c = true)
    (htail : ∀ c ∈ tail.head?, inClass c = false) (hrest : matchItems rest tail = some pieces) :
    matchItems (.plus inClass :: rest) (run ++ tail) = some (run :: pieces) :=
  matchItems_run (Item.fits_plus.mpr hrun) htail hrest

lemma matchItems_star {run tail : List α} (hrun : ∀ c ∈ run, inClass c = true)
    (htail : ∀ c ∈ tail.head?, inClass c = false) (hrest : matchItems rest tail = some pieces) :
    matchItems (.star inClass :: rest) (run ++ tail) = some (run :: pieces) :=
  matchItems_run (Item.fits_star.mpr hrun) htail hrest

lemma matchItems_one {c : α} {tail : List α} (hc : inClass c = true)
    (htail : ∀ c ∈ tail.head?, inClass c = false) (hrest : matchItems rest tail = some pieces) :
    matchItems (.one inClass :: rest) (c :: tail) = some ([c] :: pieces) :=
  matchItems_run (Item.fits_one.mpr ⟨c, rfl, hc⟩) htail hrest

/-- One character, whatever follows it. -/
lemma matchItems_char {c : α} {tail : List α} (hc : inClass c = true)
    (hrest : matchItems rest tail = some pieces) :
    matchItems (.one inClass :: rest) (c :: tail) = some ([c] :: pieces) := by
  have hlongest : longest inClass (some 1) (c :: tail) = 1 := by
    simp [longest, List.takeWhile_cons_of_pos hc]
  rw [Item.one, matchItems, hlongest]
  simp [List.range_succ, hrest]

end Matching

section Lines

/-- `\s` on text. -/
def isSpace (c : ℕ) : Bool :=
  decide (9 ≤ c ∧ c ≤ 13) || decide (28 ≤ c ∧ c ≤ 32) || c == 0x85 || c == 0xa0 || c == 0x1680 ||
    decide (0x2000 ≤ c ∧ c ≤ 0x200a) || c == 0x2028 || c == 0x2029 || c == 0x202f || c == 0x205f ||
    c == 0x3000

/-- `\S` -/
def isNonSpace (c : ℕ) : Bool := !isSpace c

/-- `.` -/
def isDot (c : ℕ) : Bool := c != 10

/-- The characters that end a line. -/
def endsLine (c : ℕ) : Bool :=
  decide (10 ≤ c ∧ c ≤ 13) || decide (28 ≤ c ∧ c ≤ 30) || c == 0x85 || c == 0x2028 || c == 0x2029

/-- The rest of a text, in a line that has begun; `\r\n` ends one line. -/
def splitLinesFrom (line : List ℕ) : List ℕ → List (List ℕ)
  | [] => if line.isEmpty then [] else [line]
  | 13 :: 10 :: rest => line :: splitLinesFrom [] rest
  | c :: rest =>
      if endsLine c then line :: splitLinesFrom [] rest else splitLinesFrom (line ++ [c]) rest

/-- `str.splitlines` -/
def splitLines (text : List ℕ) : List (List ℕ) := splitLinesFrom [] text

/-- A line break as text files are read. -/
def universalNewlines : List ℕ → List ℕ
  | [] => []
  | 13 :: 10 :: rest => 10 :: universalNewlines rest
  | c :: rest => (if c = 13 then 10 else c) :: universalNewlines rest

lemma universalNewlines_eq_self {text : List ℕ} (h : 13 ∉ text) :
    universalNewlines text = text := by
  induction text with
  | nil => rfl
  | cons c text ih =>
      rw [List.mem_cons, not_or] at h
      have hc : c ≠ 13 := fun hc => h.1 hc.symm
      rw [universalNewlines, if_neg hc, ih h.2]
      rintro rest rfl
      exact absurd rfl hc

/-- A line without other line ends in it is split off at its newline. -/
lemma splitLinesFrom_line {line : List ℕ} (h : ∀ c ∈ line, endsLine c = false)
    (start rest : List ℕ) :
    splitLinesFrom start (line ++ 10 :: rest) = (start ++ line) :: splitLines rest := by
  induction line generalizing start with
  | nil =>
      rw [List.nil_append, splitLinesFrom, if_pos (by decide), List.append_nil]
      · rfl
      · rintro rest' heq
        cases heq
  | cons c line ih =>
      rw [List.forall_mem_cons] at h
      rw [List.cons_append, splitLinesFrom, if_neg (by simp [h.1]), ih h.2, List.append_assoc,
        List.singleton_append]
      rintro rest' heq
      cases heq
      exact absurd h.1 (by decide)

lemma splitLines_line {line : List ℕ} (h : ∀ c ∈ line, endsLine c = false) (rest : List ℕ) :
    splitLines (line ++ 10 :: rest) = line :: splitLines rest := by
  rw [splitLines, splitLinesFrom_line h, List.nil_append]

/-- The text of a file with the given lines. -/
def unlines (lines : List (List ℕ)) : List ℕ := lines.flatMap (· ++ [10])

@[simp] lemma unlines_cons (line : List ℕ) (lines : List (List ℕ)) :
    unlines (line :: lines) = line ++ 10 :: unlines lines := by
  simp [unlines]

/-- No line has a character that ends one. -/
lemma endsLine_of_mem_splitLinesFrom {start text line : List ℕ}
    (hstart : ∀ c ∈ start, endsLine c = false) (hline : line ∈ splitLinesFrom start text) :
    ∀ c ∈ line, endsLine c = false := by
  fun_induction splitLinesFrom start text with
  | case1 start hempty => cases hline
  | case2 start hempty =>
      rw [List.mem_singleton.mp hline]
      exact hstart
  | case3 start rest ih =>
      rcases List.mem_cons.mp hline with rfl | hline
      · exact hstart
      · exact ih (by simp) hline
  | case4 start c rest _ hends ih =>
      rcases List.mem_cons.mp hline with rfl | hline
      · exact hstart
      · exact ih (by simp) hline
  | case5 start c rest _ hends ih =>
      refine ih ?_ hline
      rw [List.forall_mem_append, List.forall_mem_singleton]
      exact ⟨hstart, by simpa using hends⟩

lemma endsLine_of_mem_splitLines {text line : List ℕ} (h : line ∈ splitLines text) :
    ∀ c ∈ line, endsLine c = false :=
  endsLine_of_mem_splitLinesFrom (by simp) h

/-- **The lines of a text are those it was written from.** -/
theorem splitLines_unlines {lines : List (List ℕ)}
    (h : ∀ line ∈ lines, ∀ c ∈ line, endsLine c = false) : splitLines (unlines lines) = lines := by
  induction lines with
  | nil => rfl
  | cons line lines ih =>
      rw [List.forall_mem_cons] at h
      rw [unlines_cons, splitLines_line h.1, ih h.2]

end Lines

end PyRe
