import Mathlib.Algebra.Order.BigOperators.Group.List
import Ros2Zephyr.Deployment.Setup

/-!
# The included headers

`generate_header` includes one header for every message type and derives its name with `snake_case`.
The header itself is generated by rosidl, which has a rule of its own: it separates a capital from
what stands before it if a lower-case letter follows, or if a lower-case letter or a digit precedes.
`snake_case` separates every capital but a first one.

* `rosidlHeaderBase` — rosidl's rule, in its two passes.
* `CapitalsSeparated` — every capital of a name is one that both separate.
* `snakeCase_eq_iff` — exactly then the two agree.  What `snake_case` does too much makes its result
  longer, so the texts differ as soon as one capital is treated differently.
-/

namespace Ros2Zephyr

open PyStr

/-! ## Inserting a mark

Both rules insert underscores between neighbours, and differ only in where.  More places make a
longer text.
-/

section Insert

variable {α : Type*}

/-- Insert `mark` between two neighbours `c` and `d` where `cut c d next` holds, `next` being what
follows. -/
def insertBetween (mark : α) (cut : α → α → Option α → Bool) : List α → List α
  | [] => []
  | [c] => [c]
  | c :: d :: rest =>
      if cut c d rest.head? then c :: mark :: insertBetween mark cut (d :: rest)
      else c :: insertBetween mark cut (d :: rest)

variable {mark : α} {cut cut' : α → α → Option α → Bool}

lemma length_insertBetween_le (h : ∀ c d next, cut c d next = true → cut' c d next = true) :
    ∀ s : List α, (insertBetween mark cut s).length ≤ (insertBetween mark cut' s).length
  | [] => le_rfl
  | [_] => le_rfl
  | c :: d :: rest => by
      have ih := length_insertBetween_le h (d :: rest)
      rw [insertBetween, insertBetween]
      split_ifs with hcut hcut' hcut'
      · simpa using ih
      · exact absurd (h _ _ _ hcut) hcut'
      · simp only [List.length_cons]
        omega
      · simpa using ih

/-- A second pass that looks at two neighbours only, and never at the mark, is done in one pass with
the first. -/
lemma insertBetween_insertBetween {second : α → α → Bool} (hleft : ∀ d, second mark d = false)
    (hright : ∀ c, second c mark = false) :
    ∀ s : List α, insertBetween mark (fun c d _ => second c d) (insertBetween mark cut s)
      = insertBetween mark (fun c d next => cut c d next || second c d) s
  | [] => rfl
  | [_] => rfl
  | c :: d :: rest => by
      have ih := insertBetween_insertBetween hleft hright (d :: rest)
      -- the first pass keeps the first character
      obtain ⟨tail, htail⟩ : ∃ tail, insertBetween mark cut (d :: rest) = d :: tail := by
        cases rest with
        | nil => exact ⟨[], rfl⟩
        | cons e rest =>
            rw [insertBetween]
            split_ifs
            · exact ⟨_, rfl⟩
            · exact ⟨_, rfl⟩
      rw [htail] at ih
      rw [insertBetween, htail, insertBetween]
      cases hcut : cut c d rest.head? with
      | true =>
          simp only [if_true, Bool.true_or]
          rw [insertBetween, insertBetween, hright, hleft, ih]
          rfl
      | false =>
          simp only [Bool.false_eq_true, if_false, Bool.false_or]
          rw [insertBetween, ih]

end Insert

/-! ## The two rules

`snake_case` looks at one character, rosidl's expressions at two or three.
-/

def isCapital (c : ℕ) : Bool := inRange 'A' 'Z' c

/-- `str.lower` of an ASCII character. -/
def lowerCase (c : ℕ) : ℕ := if isCapital c then c + 32 else c

/-- The character exists and is a lower-case letter. -/
def lowerFollows (next : Option ℕ) : Bool := next.any isLower

/-- The base name of the header that rosidl generates: first an underscore between any character and
a capital followed by a lower-case letter, then one between a lower-case letter or digit and a
capital, then all in lower case. -/
def rosidlHeaderBase (name : PyStr) : PyStr :=
  let first := insertBetween '_'.toNat (fun _ d next => isCapital d && lowerFollows next) name
  let second := insertBetween '_'.toNat (fun c d _ => (isLower c || isDigit c) && isCapital d) first
  second.map lowerCase

/-- Every capital but a first one stands before a lower-case letter, or after a lower-case letter or
a digit. -/
def CapitalsSeparated : PyStr → Prop
  | c :: d :: rest =>
      (isCapital d = true → lowerFollows rest.head? = true ∨ isLower c = true ∨ isDigit c = true) ∧
        CapitalsSeparated (d :: rest)
  | _ => True

instance : DecidablePred CapitalsSeparated := go
where
  go : ∀ name, Decidable (CapitalsSeparated name)
    | [] => .isTrue trivial
    | [_] => .isTrue trivial
    | _ :: d :: rest => @instDecidableAnd _ _ inferInstance (go (d :: rest))

/-- `snake_case` as an insertion. -/
lemma snakeCase_eq : ∀ name : PyStr,
    snakeCase name = (insertBetween '_'.toNat (fun _ d _ => isCapital d) name).map lowerCase
  | [] => rfl
  | [_] => rfl
  | c :: d :: rest => by
      have ih := snakeCase_eq (d :: rest)
      rw [insertBetween]
      simp only [snakeCase, List.flatMap_cons] at ih ⊢
      cases hcapital : isCapital d with
      | true =>
          rw [if_pos rfl, List.map_cons, List.map_cons, ← ih,
            if_pos (show inRange 'A' 'Z' d = true from hcapital)]
          rfl
      | false =>
          have hrange : ¬ inRange 'A' 'Z' d = true := by
            rw [show inRange 'A' 'Z' d = false from hcapital]
            exact Bool.false_ne_true
          rw [if_neg Bool.false_ne_true, List.map_cons, ← ih, if_neg hrange, if_neg hrange]
          rfl

/-- rosidl's two passes as one. -/
lemma rosidlHeaderBase_eq (name : PyStr) :
    rosidlHeaderBase name = (insertBetween '_'.toNat (fun c d next =>
      isCapital d && lowerFollows next || (isLower c || isDigit c) && isCapital d) name).map
        lowerCase := by
  rw [rosidlHeaderBase, insertBetween_insertBetween]
  · intro d
    rfl
  · intro c
    exact Bool.and_false _

lemma length_rosidlHeaderBase_le (name : PyStr) :
    (rosidlHeaderBase name).length ≤ (snakeCase name).length := by
  rw [snakeCase_eq, rosidlHeaderBase_eq, List.length_map, List.length_map]
  refine length_insertBetween_le (fun c d next h => ?_) name
  rw [Bool.or_eq_true, Bool.and_eq_true, Bool.and_eq_true] at h
  exact h.elim And.left And.right

/-- Both rules agree on a name, or rosidl's result is shorter. -/
lemma snakeCase_eq_or_longer : ∀ name : PyStr,
    (CapitalsSeparated name ∧ snakeCase name = rosidlHeaderBase name) ∨
      (¬ CapitalsSeparated name ∧ (rosidlHeaderBase name).length < (snakeCase name).length)
  | [] => .inl ⟨trivial, rfl⟩
  | [_] => .inl ⟨trivial, rfl⟩
  | c :: d :: rest => by
      have ih := snakeCase_eq_or_longer (d :: rest)
      have hle := length_rosidlHeaderBase_le (d :: rest)
      rw [snakeCase_eq, rosidlHeaderBase_eq] at ih hle ⊢
      rw [insertBetween, insertBetween]
      simp only [CapitalsSeparated]
      cases hcapital : isCapital d with
      | false =>
          simp only [Bool.and_false, Bool.false_and, Bool.or_self, Bool.false_eq_true, if_false,
            false_implies, true_and, List.map_cons, List.cons.injEq, List.length_cons]
          exact ih.imp_right fun h => ⟨h.1, Nat.succ_lt_succ h.2⟩
      | true =>
          simp only [Bool.and_true, Bool.true_and, if_true, true_implies, List.map_cons,
            List.length_cons]
          by_cases hboth : lowerFollows rest.head? = true ∨ isLower c = true ∨ isDigit c = true
          · have hcut : (lowerFollows rest.head? || (isLower c || isDigit c)) = true := by
              simpa [Bool.or_eq_true] using hboth
            rw [if_pos hcut]
            simp only [hboth, true_and, List.map_cons, List.cons.injEq, List.length_cons]
            exact ih.imp_right fun h => ⟨h.1, Nat.succ_lt_succ (Nat.succ_lt_succ h.2)⟩
          · have hcut : ¬ (lowerFollows rest.head? || (isLower c || isDigit c)) = true := by
              simpa [Bool.or_eq_true] using hboth
            rw [if_neg hcut]
            right
            refine ⟨fun h => hboth h.1, ?_⟩
            simp only [List.map_cons, List.length_cons]
            omega

lemma snakeCase_eq_iff (name : PyStr) :
    snakeCase name = rosidlHeaderBase name ↔ CapitalsSeparated name := by
  rcases snakeCase_eq_or_longer name with ⟨hseparated, heq⟩ | ⟨hnot, hlonger⟩
  · exact iff_of_true heq hseparated
  · refine iff_of_false (fun heq => ?_) hnot
    rw [heq] at hlonger
    exact absurd hlonger (lt_irrefl _)

/-! ## The header

The rest of the header is the same for both rules, so the headers are equal if the included paths
are, and by their lengths only then.
-/

section Header

variable {deployment : Deployment}

lemma length_joinLines (lines : List PyStr) :
    (joinLines lines).length = (lines.map List.length).sum + (lines.length - 1) := by
  rw [joinLines]
  induction lines with
  | nil => rfl
  | cons line lines ih =>
      cases lines with
      | nil => simp [List.intercalate]
      | cons next lines =>
          have hsplit : List.intercalate [10] (line :: next :: lines)
              = line ++ 10 :: List.intercalate [10] (next :: lines) := by
            simp [List.intercalate]
          rw [hsplit, List.length_append, List.length_cons, ih]
          simp only [List.map_cons, List.sum_cons, List.length_cons]
          omega

lemma length_includeLine (base : PyStr → PyStr) (type : PyStr × PyStr) :
    (includeLine base type).length
      = (includeLine (fun _ => []) type).length + (base type.2).length := by
  simp [includeLine, fstring]
  omega

/-- The header includes what rosidl generates exactly if the rules agree on every type. -/
lemma generateHeader_eq_iff :
    generateHeader deployment = headerWith rosidlHeaderBase deployment ↔
      ∀ e ∈ deployment.endpoints, CapitalsSeparated e.type.message := by
  rw [generateHeader]
  constructor
  · intro heq
    by_contra hnot
    push Not at hnot
    obtain ⟨e, he, hseparated⟩ := hnot
    have hle : ∀ type ∈ messageIncludes deployment, (includeLine rosidlHeaderBase type).length
        ≤ (includeLine snakeCase type).length := by
      intro type _
      rw [length_includeLine, length_includeLine snakeCase]
      exact Nat.add_le_add_left (length_rosidlHeaderBase_le _) _
    have hlt : (includeLine rosidlHeaderBase (e.type.package, e.type.message)).length
        < (includeLine snakeCase (e.type.package, e.type.message)).length := by
      rw [length_includeLine, length_includeLine snakeCase]
      rcases snakeCase_eq_or_longer e.type.message with hgood | hlonger
      · exact absurd hgood.1 hseparated
      · exact Nat.add_lt_add_left hlonger.2 _
    have hsum := List.sum_lt_sum _ _ hle ⟨_, mem_messageIncludes.mpr ⟨e, he, rfl⟩, hlt⟩
    -- everything but the include lines is the same in both texts
    have hlength := congrArg List.length heq
    simp only [headerWith, length_joinLines, List.map_append, List.map_map, List.sum_append,
      List.length_append, List.length_map, Function.comp_def] at hlength
    omega
  · intro hseparated
    have hlines : (messageIncludes deployment).map (includeLine snakeCase)
        = (messageIncludes deployment).map (includeLine rosidlHeaderBase) := by
      refine List.map_congr_left fun type htype => ?_
      obtain ⟨e, he, rfl⟩ := mem_messageIncludes.mp htype
      rw [includeLine, includeLine, (snakeCase_eq_iff _).mpr (hseparated e he)]
    rw [headerWith, headerWith, hlines]

/-- **The included headers.**  `snake_case` is rosidl's rule on exactly the names whose capitals are
separated, and the header of an accepted deployment includes the generated headers exactly if all
its message names are of that kind. -/
theorem generated_includes_exist_iff {repr : PyStr → PyStr} {fields result : Fields}
    (haccepted : validateDeployment repr fields = .ok result) :
    (∀ name : PyStr, snakeCase name = rosidlHeaderBase name ↔ CapitalsSeparated name) ∧
      (∃ deployment, Deployment.ofFields fields = some deployment) ∧
      ∀ deployment, Deployment.ofFields fields = some deployment →
        (generateHeader deployment = headerWith rosidlHeaderBase deployment ↔
          ∀ e ∈ deployment.endpoints, CapitalsSeparated e.type.message) :=
  ⟨snakeCase_eq_iff, exists_ofFields haccepted, fun _ _ => generateHeader_eq_iff⟩

theorem generated_includes_exist_loopback :
    generateHeader loopback = headerWith rosidlHeaderBase loopback := by
  obtain ⟨result, haccepted⟩ := loopbackDeployment_returns
  exact ((generated_includes_exist_iff haccepted).2.2 loopback ofFields_loopbackDeployment).mpr
    (by decide)

/-- The loopback sample with one endpoint of another type. -/
def gpsDeployment : Fields :=
  loopbackDeployment.map fun field =>
    if field.1 = PyStr.ofString "endpoints" then
      (field.1, .arr [
        .obj [("id", .str "fix"), ("kind", .str "publisher"), ("topic", .str "fix"),
          ("type", .str "gps_msgs/msg/GPSFix"),
          ("qos", .obj [("reliability", .str "best_effort"), ("durability", .str "volatile"),
            ("history", .str "keep_last"), ("depth", .int 5)]),
          ("lifetime", .str "fixed_startup")],
        loopbackEndpoint "outgoing" "publisher" []])
    else field

def gps : Deployment := (Deployment.ofFields gpsDeployment).get (by decide +kernel)

/-- A run of capitals is taken apart by `snake_case` and kept together by rosidl. -/
theorem generated_include_missing :
    (∃ result, validateDeployment id gpsDeployment = .ok result) ∧
      Deployment.ofFields gpsDeployment = some gps ∧
      snakeCase (PyStr.ofString "GPSFix") = PyStr.ofString "g_p_s_fix" ∧
      rosidlHeaderBase (PyStr.ofString "GPSFix") = PyStr.ofString "gps_fix" ∧
      PyStr.ofString "#include <gps_msgs/msg/g_p_s_fix.h>" <:+: generateHeader gps ∧
      generateHeader gps ≠ headerWith rosidlHeaderBase gps := by
  refine ⟨Fallible.exists_ok_of_toBool ?_, (Option.some_get _).symm, ?_, ?_, ?_, ?_⟩
  · decide
  · decide
  · decide
  · decide +kernel
  · rw [Ne, generateHeader_eq_iff]
    decide

end Header

end Ros2Zephyr
