import Mathlib.Data.List.Basic
import Mathlib.Data.List.TakeWhile

/-!
# A `switch` with a conditional region

The body of a `switch` as the preprocessor sees it: labels, statements, `break`s, and the lines
`#if FEATURE` and `#endif`.  Whether a label selects the same statements with and without the
feature depends on where the region begins and ends.

* `preprocess` — the lines that the compiler sees.
* `select` — the statements that a value runs: from its label, or from `default`, to the next
  `break`.
* `Guarded.select_eq` — a region that begins after a `break` can be cut for every value that has no
  label in it.
* `Guarded.select_cut` — a value whose label is in the region falls to `default`.
-/

namespace CSwitch

variable {τ β : Type}

inductive Line (τ β : Type)
  | label (t : τ)
  | default
  | run (b : β)
  | leave
  | ifEnabled
  | endif
  deriving DecidableEq

namespace Line

def isLabel [DecidableEq τ] (t : τ) : Line τ β → Bool
  | label t' => t' = t
  | _ => false

def isDefault : Line τ β → Bool
  | default => true
  | _ => false

def isDirective : Line τ β → Bool
  | ifEnabled | endif => true
  | _ => false

end Line

/-- The lines that the compiler sees; `inside` says whether a region is open. -/
def preprocess (enabled : Bool) : Bool → List (Line τ β) → List (Line τ β)
  | _, [] => []
  | _, .ifEnabled :: rest => preprocess enabled true rest
  | _, .endif :: rest => preprocess enabled false rest
  | inside, line :: rest =>
      if inside && !enabled then preprocess enabled inside rest
      else line :: preprocess enabled inside rest

/-- The statements up to the next `break`. -/
def runFrom : List (Line τ β) → List β
  | [] => []
  | .run b :: rest => b :: runFrom rest
  | .leave :: _ => []
  | _ :: rest => runFrom rest

/-- The statements that are run from the first line with the given property. -/
def enter (p : Line τ β → Bool) (lines : List (Line τ β)) : List β :=
  runFrom (lines.dropWhile fun line => !p line)

/-- The statements that a value selects. -/
def select [DecidableEq τ] (lines : List (Line τ β)) (t : τ) : List β :=
  if lines.any (Line.isLabel t) then enter (Line.isLabel t) lines else enter Line.isDefault lines

/-- No statement runs past the end of the lines. -/
def Closed (lines : List (Line τ β)) : Prop := lines = [] ∨ lines.getLast? = some .leave

/-! ## Preprocessing

Directives are lines of their own, so the text between them is kept or dropped as a whole.
-/

/-- Lines without directives are kept or dropped as a whole. -/
lemma preprocess_append (enabled inside : Bool) {plain : List (Line τ β)}
    (h : ∀ line ∈ plain, line.isDirective = false) (rest : List (Line τ β)) :
    preprocess enabled inside (plain ++ rest) =
      (if inside && !enabled then [] else plain) ++ preprocess enabled inside rest := by
  induction plain with
  | nil => simp
  | cons line plain ih =>
      rw [List.forall_mem_cons] at h
      have hline : preprocess enabled inside (line :: (plain ++ rest)) =
          if inside && !enabled then preprocess enabled inside (plain ++ rest)
          else line :: preprocess enabled inside (plain ++ rest) := by
        cases line with
        | ifEnabled | endif => cases h.1
        | _ => rfl
      rw [List.cons_append, hline, ih h.2]
      split <;> rfl

/-! ## Running

Where lines end with a `break`, what stands behind them is not reached.  This is why a region that
begins after a `break` can be cut.
-/

/-- What stands behind closed lines is not reached from them. -/
lemma runFrom_append {lines : List (Line τ β)} (h : lines.getLast? = some .leave)
    (rest : List (Line τ β)) : runFrom (lines ++ rest) = runFrom lines := by
  induction lines with
  | nil => cases h
  | cons line lines ih =>
      cases lines with
      | nil =>
          cases h
          rfl
      | cons next lines =>
          have hrest := ih (by rwa [List.getLast?_cons_cons] at h)
          cases line with
          | leave => rfl
          | _ => simp only [List.cons_append, runFrom, ← hrest]

lemma run_mem_of_mem_runFrom {lines : List (Line τ β)} {b : β} (h : b ∈ runFrom lines) :
    .run b ∈ lines := by
  induction lines with
  | nil => cases h
  | cons line lines ih =>
      cases line with
      | run b' =>
          rcases List.mem_cons.mp h with rfl | h
          · exact List.mem_cons_self
          · exact List.mem_cons_of_mem _ (ih h)
      | leave => cases h
      | _ => exact List.mem_cons_of_mem _ (ih h)

lemma run_mem_of_mem_enter {p : Line τ β → Bool} {lines : List (Line τ β)} {b : β}
    (h : b ∈ enter p lines) : .run b ∈ lines :=
  (List.dropWhile_suffix _).mem (run_mem_of_mem_runFrom h)

lemma enter_append_of_any {p : Line τ β → Bool} {lines : List (Line τ β)} (hclosed : Closed lines)
    (hany : lines.any p) (rest : List (Line τ β)) : enter p (lines ++ rest) = enter p lines := by
  obtain ⟨line, hmem, hline⟩ := List.any_eq_true.mp hany
  have hne : lines.dropWhile (fun line => !p line) ≠ [] := by
    intro hnil
    have hall := List.dropWhile_eq_nil_iff.mp hnil line hmem
    simp [hline] at hall
  have hlast : (lines.dropWhile fun line => !p line).getLast? = some .leave := by
    obtain ⟨front, hfront⟩ := List.dropWhile_suffix (l := lines) fun line => !p line
    have hleave := hclosed.resolve_left (List.ne_nil_of_mem hmem)
    rwa [← hfront, List.getLast?_append_of_ne_nil _ hne] at hleave
  rw [enter, List.dropWhile_append, List.isEmpty_eq_false_iff.mpr hne, if_neg (by decide),
    runFrom_append hlast, ← enter]

lemma enter_append_of_not_any {p : Line τ β → Bool} {lines : List (Line τ β)}
    (hany : lines.any p = false) (rest : List (Line τ β)) :
    enter p (lines ++ rest) = enter p rest := by
  have hnil : lines.dropWhile (fun line => !p line) = [] := by
    rw [List.dropWhile_eq_nil_iff]
    intro line hmem
    have hline := List.any_eq_false.mp hany line hmem
    simpa using hline
  rw [enter, List.dropWhile_append, hnil, List.isEmpty_nil, if_pos rfl, ← enter]

/-- Lines without the entry can be cut after closed lines. -/
lemma enter_cut {p : Line τ β → Bool} {before region : List (Line τ β)} (hclosed : Closed before)
    (hregion : region.any p = false) (after : List (Line τ β)) :
    enter p (before ++ (region ++ after)) = enter p (before ++ after) := by
  cases hbefore : before.any p with
  | true => rw [enter_append_of_any hclosed hbefore, enter_append_of_any hclosed hbefore]
  | false =>
      rw [enter_append_of_not_any hbefore, enter_append_of_not_any hbefore,
        enter_append_of_not_any hregion]

/-! ## A region -/

/-- A `switch` with one conditional region that begins after a `break`. -/
structure Guarded (τ β : Type) where
  before : List (Line τ β)
  region : List (Line τ β)
  after : List (Line τ β)
  plain : ∀ line ∈ before ++ region ++ after, line.isDirective = false
  closed : Closed before
  noDefault : region.any Line.isDefault = false

namespace Guarded

def text (s : Guarded τ β) : List (Line τ β) :=
  s.before ++ (.ifEnabled :: (s.region ++ (.endif :: s.after)))

def compiled (s : Guarded τ β) (enabled : Bool) : List (Line τ β) :=
  preprocess enabled false s.text

lemma compiled_eq (s : Guarded τ β) (enabled : Bool) :
    s.compiled enabled = s.before ++ ((if enabled then s.region else []) ++ s.after) := by
  have hplain := s.plain
  simp only [List.forall_mem_append] at hplain
  obtain ⟨⟨hbefore, hregion⟩, hafter⟩ := hplain
  have hend : preprocess enabled false s.after = s.after := by
    have happend := preprocess_append enabled false hafter []
    simpa [preprocess] using happend
  rw [compiled, text, preprocess_append _ _ hbefore, preprocess, preprocess_append _ _ hregion,
    preprocess,
    hend]
  cases enabled <;> rfl

variable [DecidableEq τ]

/-- **Cutting the region** changes nothing for a value that has no label in it. -/
theorem select_eq (s : Guarded τ β) {t : τ} (h : s.region.any (Line.isLabel t) = false) :
    select (s.compiled true) t = select (s.compiled false) t := by
  have hany : (s.before ++ (s.region ++ s.after)).any (Line.isLabel t) =
      (s.before ++ s.after).any (Line.isLabel t) := by
    simp only [List.any_append, h, Bool.false_or]
  simp only [compiled_eq, if_true, Bool.false_eq_true, if_false, List.nil_append, select, hany,
    enter_cut s.closed h, enter_cut s.closed s.noDefault]

/-- A value whose label is in the region falls to `default` without it. -/
theorem select_cut (s : Guarded τ β) {t : τ} (hbefore : s.before.any (Line.isLabel t) = false)
    (hafter : s.after.any (Line.isLabel t) = false) :
    select (s.compiled false) t = enter Line.isDefault (s.before ++ s.after) := by
  simp [compiled_eq, select, hbefore, hafter]

end Guarded

end CSwitch
