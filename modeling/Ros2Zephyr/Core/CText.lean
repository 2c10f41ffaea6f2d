import Mathlib.Data.List.Infix
import Ros2Zephyr.Core.PyStr

/-!
# The characters of a C file

Before the words of a C file are read, its characters go through two phases of translation.  The
ends of its lines become newlines and the trigraphs are replaced; then a backslash at the end of a
line joins the line with the next one.

* `release` — both phases as one automaton.  What it holds back (`Held`) is a backslash that may end
  a line and up to two question marks that may start a trigraph.
* `logical` — the text after both phases.  It is never longer (`length_logical_le`) and shorter as
  soon as there is a trigraph (`length_logical_lt`).
* `release_ordinary` — a text without question marks, backslashes and carriage returns is not
  changed and leaves nothing held back, so that a file is read piece by piece.
-/

namespace CLang

section Characters

def newline : ℕ := 10
def carriageReturn : ℕ := 13
def quote : ℕ := 34
def backslash : ℕ := 92
def questionMark : ℕ := 63
def leftBrace : ℕ := 123
def rightBrace : ℕ := 125

/-- What the character after two question marks stands for. -/
def trigraph (c : ℕ) : Option ℕ :=
  if c = '='.toNat then some '#'.toNat
  else if c = '/'.toNat then some backslash
  else if c = 39 then some '^'.toNat
  else if c = '('.toNat then some '['.toNat
  else if c = ')'.toNat then some ']'.toNat
  else if c = '!'.toNat then some '|'.toNat
  else if c = '<'.toNat then some leftBrace
  else if c = '>'.toNat then some rightBrace
  else if c = '-'.toNat then some '~'.toNat
  else none

/-- A character that the first two phases never touch. -/
def ordinary (c : ℕ) : Bool := c != questionMark && c != backslash && c != carriageReturn

end Characters

/-- What is held back of a text: a backslash, then question marks.  `cr` says that the character
before was a carriage return; a newline after it belongs to the same end of a line. -/
structure Held where
  back : Bool
  marks : ℕ
  cr : Bool
  deriving DecidableEq

section Release

def Held.idle : Held := ⟨false, 0, false⟩

def backText (back : Bool) : PyStr := if back then [backslash] else []

/-- The characters that are held back. -/
def Held.text (held : Held) : PyStr := backText held.back ++ List.replicate held.marks questionMark

/-- One character of the second phase, after a backslash or not. -/
def splice (back : Bool) (c : ℕ) : Held × PyStr :=
  if c = backslash then (⟨true, 0, false⟩, backText back)
  else if c = newline ∧ back then (.idle, [])
  else (.idle, backText back ++ [c])

/-- The end of a line is a newline, whatever it is in the file. -/
def endOfLine (c : ℕ) : ℕ := if c = carriageReturn then newline else c

/-- One character that is part of no trigraph.  Question marks before it stand for themselves. -/
def Held.pass (held : Held) (c : ℕ) : Held × PyStr :=
  if c = newline ∧ held.cr then (.idle, [])
  else
    let next := splice (held.back && held.marks == 0) (endOfLine c)
    ({ next.1 with cr := c == carriageReturn },
      (if held.marks = 0 then [] else held.text) ++ next.2)

/-- One character of the file: what is held back after it, and what is passed on. -/
def Held.next (held : Held) (c : ℕ) : Held × PyStr :=
  if c = questionMark then
    if held.marks < 2 then (⟨held.back, held.marks + 1, false⟩, [])
    else (⟨false, 2, false⟩, backText held.back ++ [questionMark])
  else
    match if held.marks = 2 then trigraph c else none with
    | some r => splice held.back r
    | none => held.pass c

def release : Held → PyStr → Held × PyStr
  | held, [] => (held, [])
  | held, c :: cs =>
      let next := held.next c
      let rest := release next.1 cs
      (rest.1, next.2 ++ rest.2)

/-- The text after both phases. -/
def logical (text : PyStr) : PyStr := (release .idle text).2 ++ (release .idle text).1.text

end Release

section Pieces

variable {held held' : Held} {text text' out out' : PyStr}

lemma release_append :
    release held (text ++ text') =
      ((release (release held text).1 text').1,
        (release held text).2 ++ (release (release held text).1 text').2) := by
  induction text generalizing held with
  | nil => simp [release]
  | cons c text ih => simp [release, ih]

lemma next_idle_ordinary {c : ℕ} (h : ordinary c = true) : Held.idle.next c = (.idle, [c]) := by
  simp only [ordinary, Bool.and_eq_true, bne_iff_ne] at h
  obtain ⟨⟨hmark, hback⟩, hreturn⟩ := h
  simp [Held.next, Held.idle, hmark, Held.pass, endOfLine, hreturn, splice, hback, backText]

lemma release_ordinary (h : ∀ c ∈ text, ordinary c = true) :
    release .idle text = (.idle, text) := by
  induction text with
  | nil => rfl
  | cons c text ih =>
      rw [List.forall_mem_cons] at h
      simp [release, next_idle_ordinary h.1, ih h.2]

/-- A quote is part of no trigraph and ends no line: everything held back comes out before it. -/
lemma next_quote (held : Held) : held.next quote = (.idle, held.text ++ [quote]) := by
  have htrigraph : (if held.marks = 2 then trigraph quote else none) = none := by
    split
    · rfl
    · rfl
  have hpass : held.pass quote = (.idle, held.text ++ [quote]) := by
    by_cases hmarks : held.marks = 0
    · simp [Held.pass, Held.text, Held.idle, endOfLine, splice, hmarks, quote, newline,
        carriageReturn, backslash]
    · simp [Held.pass, Held.text, Held.idle, endOfLine, splice, hmarks, quote, newline,
        carriageReturn, backslash, backText]
  rw [Held.next, if_neg (by decide), htrigraph]
  exact hpass

/-- **A text up to a quote** goes through the phases on its own. -/
theorem release_quote (text rest : PyStr) :
    release .idle (text ++ quote :: rest) =
      ((release .idle rest).1, logical text ++ quote :: (release .idle rest).2) := by
  simp [release_append, release, next_quote, logical]

end Pieces

section Length

variable {held : Held} {text : PyStr} {c : ℕ}

@[simp] lemma length_heldText (held : Held) :
    held.text.length = held.back.toNat + held.marks := by
  cases hback : held.back <;> simp [Held.text, backText, hback, Nat.add_comm]

lemma length_splice_le (back : Bool) (c : ℕ) :
    (splice back c).2.length + (splice back c).1.text.length ≤ back.toNat + 1 := by
  unfold splice
  split
  · cases back <;> simp [backText]
  · split
    · simp [Held.idle]
    · cases back <;> simp [backText, Held.idle]

lemma length_next_le (held : Held) (c : ℕ) (hmarks : held.marks ≤ 2) :
    (held.next c).2.length + (held.next c).1.text.length ≤ held.text.length + 1 := by
  unfold Held.next
  split
  · split
    · simp
      omega
    · cases hback : held.back <;> simp [backText, hback] <;> omega
  · split
    · rename_i r htrigraph
      have htwo : held.marks = 2 := by
        by_contra hne
        rw [if_neg hne] at htrigraph
        cases htrigraph
      have hle := length_splice_le held.back r
      rw [length_heldText held]
      omega
    · unfold Held.pass
      split
      · simp [Held.idle]
      · have hle := length_splice_le (held.back && held.marks == 0) (endOfLine c)
        rw [length_heldText] at hle
        by_cases hzero : held.marks = 0
        · simp only [hzero, beq_self_eq_true, Bool.and_true, if_pos, List.nil_append] at hle ⊢
          simp only [length_heldText, hzero]
          omega
        · have hfalse : (held.marks == 0) = false := by simpa using hzero
          simp only [hfalse, Bool.and_false, Bool.toNat_false, if_neg hzero, List.length_append,
            length_heldText] at hle ⊢
          omega

lemma marks_splice (back : Bool) (c : ℕ) : (splice back c).1.marks = 0 := by
  unfold splice
  split
  · rfl
  · split <;> rfl

/-- More than two question marks are never held back. -/
lemma marks_next_le (held : Held) (c : ℕ) (hmarks : held.marks ≤ 2) :
    (held.next c).1.marks ≤ 2 := by
  unfold Held.next
  split
  · split
    · simp only
      omega
    · exact Nat.le_refl _
  · split
    · rw [marks_splice]
      exact Nat.zero_le _
    · unfold Held.pass
      split
      · exact Nat.zero_le _
      · simp [marks_splice]

lemma marks_release_le (text : PyStr) (hmarks : held.marks ≤ 2) :
    (release held text).1.marks ≤ 2 := by
  induction text generalizing held with
  | nil => exact hmarks
  | cons c text ih => exact ih (marks_next_le held c hmarks)

lemma length_release_le (text : PyStr) (hmarks : held.marks ≤ 2) :
    (release held text).2.length + (release held text).1.text.length ≤
      held.text.length + text.length := by
  induction text generalizing held with
  | nil => simp [release]
  | cons c text ih =>
      have hnext := length_next_le held c hmarks
      have hrest := ih (marks_next_le held c hmarks)
      simp only [release, List.length_append, List.length_cons] at hrest ⊢
      omega

/-- **The phases never make a text longer.** -/
theorem length_logical_le (text : PyStr) : (logical text).length ≤ text.length := by
  have hidle : Held.idle.marks ≤ 2 := Nat.zero_le _
  have hle := length_release_le text hidle
  rw [logical, List.length_append]
  simpa [Held.idle] using hle

/-- Two question marks are held back, whatever stands before them. -/
lemma marks_release_marks (text : PyStr) (hmarks : held.marks ≤ 2) :
    (release held (text ++ [questionMark, questionMark])).1.marks = 2 := by
  have hle := marks_release_le text hmarks
  have hnext : ∀ h : Held, (h.next questionMark).1.marks = min (h.marks + 1) 2 := by
    intro h
    rw [Held.next, if_pos rfl]
    split
    next hlt => exact (Nat.min_eq_left hlt).symm
    next hlt => exact (Nat.min_eq_right (by omega : 2 ≤ h.marks + 1)).symm
  rw [release_append]
  have hfirst := hnext (release held text).1
  have hsecond := hnext ((release held text).1.next questionMark).1
  simp only [release]
  omega

lemma length_trigraph_lt {held : Held} (hmarks : held.marks = 2) (hc : (trigraph c).isSome) :
    (held.next c).2.length + (held.next c).1.text.length < held.text.length := by
  obtain ⟨r, hr⟩ := Option.isSome_iff_exists.mp hc
  have hne : c ≠ questionMark := by
    rintro rfl
    cases hr
  have hnext : held.next c = splice held.back r := by
    rw [Held.next, if_neg hne, if_pos hmarks, hr]
  have hle := length_splice_le held.back r
  rw [hnext, length_heldText held]
  omega

theorem length_logical_lt {t : ℕ} (ht : (trigraph t).isSome)
    (hoccurs : [questionMark, questionMark, t] <:+: text) :
    (logical text).length < text.length := by
  obtain ⟨before, after, rfl⟩ := hoccurs
  have hsplit : before ++ [questionMark, questionMark, t] ++ after =
      (before ++ [questionMark, questionMark]) ++ t :: after := by
    simp
  have hidle : Held.idle.marks ≤ 2 := Nat.zero_le _
  have hmarks := marks_release_marks before hidle
  have hbefore := length_release_le (before ++ [questionMark, questionMark]) hidle
  have hlt := length_trigraph_lt hmarks ht
  have hafter := length_release_le after
    (marks_next_le (release .idle (before ++ [questionMark, questionMark])).1 t hmarks.le)
  rw [hsplit, logical, release_append]
  simp only [release, List.length_append, List.length_cons, List.length_nil] at hbefore ⊢
  simp only [Held.idle, length_heldText, Bool.toNat_false] at hbefore hlt hafter ⊢
  omega

end Length

section Unchanged

lemma carriageReturn_notMem_next (held : Held) (c : ℕ) :
    carriageReturn ∉ (held.next c).2 ++ (held.next c).1.text := by
  have hheld : ∀ h : Held, carriageReturn ∉ h.text := by
    intro h hmem
    cases hback : h.back <;>
      simp [Held.text, backText, hback, carriageReturn, backslash, questionMark] at hmem
  have hsplice : ∀ (back : Bool) (d : ℕ), d ≠ carriageReturn →
      carriageReturn ∉ (splice back d).2 := by
    intro back d hd
    unfold splice
    split
    · cases back <;> simp [backText, carriageReturn, backslash]
    · split
      · simp
      · cases back <;> simp [backText, carriageReturn, backslash] <;> exact fun h => hd h.symm
  have htrigraph : ∀ d r, trigraph d = some r → r ≠ carriageReturn := by
    intro d r hr
    unfold trigraph at hr
    split_ifs at hr
    all_goals
      cases hr
      decide
  rw [List.mem_append, not_or]
  refine ⟨?_, hheld _⟩
  unfold Held.next
  split
  · split
    · simp
    · cases held.back <;> simp [backText, carriageReturn, backslash, questionMark]
  · split
    · rename_i r hr
      split at hr
      · exact hsplice _ _ (htrigraph _ _ hr)
      · cases hr
    · unfold Held.pass
      split
      · simp
      · have hend : endOfLine c ≠ carriageReturn := by
          unfold endOfLine
          split
          · decide
          · assumption
        rw [List.mem_append, not_or]
        refine ⟨?_, hsplice _ _ hend⟩
        split
        · simp
        · exact hheld held

lemma carriageReturn_notMem_logical (text : PyStr) : carriageReturn ∉ logical text := by
  have hrelease : ∀ held : Held, carriageReturn ∉ held.text →
      carriageReturn ∉ (release held text).2 ++ (release held text).1.text := by
    induction text with
    | nil => simp [release]
    | cons c text ih =>
        intro held _
        have hnext := carriageReturn_notMem_next held c
        rw [List.mem_append, not_or] at hnext
        have hrest := ih (held.next c).1 hnext.2
        simp only [release, List.mem_append, not_or] at hrest ⊢
        exact ⟨⟨hnext.1, hrest.1⟩, hrest.2⟩
  exact hrelease .idle (by simp [Held.text, Held.idle, backText])

/-- What the automaton knows of the text before it from the question marks it holds back. -/
def MarksSeen (marks : ℕ) (seen : PyStr) : Prop :=
  (1 ≤ marks → [questionMark] <:+ seen) ∧ (2 ≤ marks → [questionMark, questionMark] <:+ seen)

lemma MarksSeen.next {marks : ℕ} {seen : PyStr} (h : MarksSeen marks seen) :
    MarksSeen (min (marks + 1) 2) (seen ++ [questionMark]) := by
  refine ⟨fun _ => List.suffix_append _ _, fun htwo => ?_⟩
  obtain ⟨before, rfl⟩ := h.1 (by omega)
  exact ⟨before, by simp⟩

/-- A character that ends no trigraph releases the question marks before it. -/
lemma next_passed {marks : ℕ} (hmark : c ≠ questionMark) (hback : c ≠ backslash)
    (hreturn : c ≠ carriageReturn) (htrigraph : marks = 2 → trigraph c = none) :
    Held.next ⟨false, marks, false⟩ c = (.idle, List.replicate marks questionMark ++ [c]) := by
  have hnone : (if marks = 2 then trigraph c else none) = none := by
    split
    next htwo => exact htrigraph htwo
    next => rfl
  rw [Held.next, if_neg hmark, hnone]
  by_cases hzero : marks = 0
  · simp [Held.pass, Held.idle, endOfLine, splice, hback, hreturn, hzero, backText]
  · simp [Held.pass, Held.idle, Held.text, endOfLine, splice, hback, hreturn, hzero, backText]

/-- A text without backslash, carriage return and trigraph is only delayed. -/
lemma release_unchanged {seen text : PyStr} {marks : ℕ} (hle : marks ≤ 2)
    (hmarks : MarksSeen marks seen)
    (hchars : ∀ c ∈ text, c ≠ backslash ∧ c ≠ carriageReturn)
    (htrigraphs : ∀ t, (trigraph t).isSome → ¬ [questionMark, questionMark, t] <:+: seen ++ text) :
    (release ⟨false, marks, false⟩ text).2 ++ (release ⟨false, marks, false⟩ text).1.text =
      List.replicate marks questionMark ++ text := by
  induction text generalizing seen marks with
  | nil => simp [release, Held.text, backText]
  | cons c text ih =>
      rw [List.forall_mem_cons] at hchars
      obtain ⟨⟨hback, hreturn⟩, hchars⟩ := hchars
      have hrest : ∀ t, (trigraph t).isSome →
          ¬ [questionMark, questionMark, t] <:+: (seen ++ [c]) ++ text := by
        simpa using htrigraphs
      by_cases hmark : c = questionMark
      · subst hmark
        by_cases hlt : marks < 2
        · have hnext : Held.next ⟨false, marks, false⟩ questionMark =
              (⟨false, marks + 1, false⟩, []) := by
            simp [Held.next, hlt]
          have hseen := hmarks.next
          rw [Nat.min_eq_left (by omega)] at hseen
          have hafter := ih (by omega) hseen hchars hrest
          simp only [release, hnext, List.nil_append]
          rw [hafter, List.replicate_succ']
          simp
        · obtain rfl : marks = 2 := by omega
          have hnext : Held.next ⟨false, 2, false⟩ questionMark =
              (⟨false, 2, false⟩, [questionMark]) := rfl
          have hafter := ih (Nat.le_refl 2) hmarks.next hchars hrest
          simp only [release, hnext, List.append_assoc]
          rw [hafter]
          rfl
      · have htrigraph : marks = 2 → trigraph c = none := by
          intro htwo
          by_contra hsome
          obtain ⟨before, rfl⟩ := hmarks.2 htwo.ge
          exact htrigraphs c (Option.isSome_iff_ne_none.mpr hsome) ⟨before, text, by simp⟩
        have hnext := next_passed hmark hback hreturn htrigraph
        have hnone : MarksSeen 0 (seen ++ [c]) := ⟨by omega, by omega⟩
        have hafter := ih (Nat.zero_le _) hnone hchars hrest
        simp only [release, hnext, List.append_assoc]
        rw [Held.idle, hafter]
        rfl

/-- **A text that the phases do not touch.** -/
theorem logical_eq_self {text : PyStr} (hchars : ∀ c ∈ text, c ≠ backslash ∧ c ≠ carriageReturn)
    (htrigraphs : ∀ t, (trigraph t).isSome → ¬ [questionMark, questionMark, t] <:+: text) :
    logical text = text := by
  have hnone : MarksSeen 0 [] := ⟨by omega, by omega⟩
  exact release_unchanged (Nat.zero_le _) hnone hchars htrigraphs

end Unchanged

end CLang
