import Mathlib.Tactic.Common
import Mathlib.Tactic.SplitIfs
import Ros2Zephyr.Core.PyStr

/-!
# Decoding UTF-8 with replacement

`bytes.decode("utf-8", errors="replace")` of Python: a byte that cannot continue the sequence in
progress ends it, what was read of that sequence becomes one U+FFFD, and the byte is looked at
again.  What a lead byte admits next is table 3-7 of the Unicode standard, which leaves out overlong
forms, surrogates and what lies above U+10FFFF.

The encoder is Lean's own `String.utf8EncodeChar`; `utf8Decode_encode` says that decoding undoes it.
A Python string can also hold lone surrogates, which have no encoding: `HasUtf8`.
-/

namespace PyStr

/-- A sequence in progress: the continuation bytes it lacks, the range of the next one, and the bits
read so far. -/
structure Pending where
  missing : ℕ
  low : ℕ
  high : ℕ
  value : ℕ
  deriving DecidableEq

def replacementChar : ℕ := 0xFFFD

/-- The sequence a lead byte starts. -/
def utf8Lead (b : ℕ) : Option Pending :=
  if 0xC2 ≤ b ∧ b ≤ 0xDF then some ⟨1, 0x80, 0xBF, b - 0xC0⟩
  else if b = 0xE0 then some ⟨2, 0xA0, 0xBF, 0⟩
  else if b = 0xED then some ⟨2, 0x80, 0x9F, 0xD⟩
  else if 0xE1 ≤ b ∧ b ≤ 0xEF then some ⟨2, 0x80, 0xBF, b - 0xE0⟩
  else if b = 0xF0 then some ⟨3, 0x90, 0xBF, 0⟩
  else if 0xF1 ≤ b ∧ b ≤ 0xF3 then some ⟨3, 0x80, 0xBF, b - 0xF0⟩
  else if b = 0xF4 then some ⟨3, 0x80, 0x8F, 4⟩
  else none

/-- A byte outside any sequence: what is put out, and the sequence in progress after it. -/
def utf8Start (b : ℕ) : PyStr × Option Pending :=
  if b < 0x80 then ([b], none)
  else
    match utf8Lead b with
    | some pending => ([], some pending)
    | none => ([replacementChar], none)

def utf8Feed : Option Pending → ℕ → PyStr × Option Pending
  | none, b => utf8Start b
  | some pending, b =>
      if pending.low ≤ b ∧ b ≤ pending.high then
        let value := pending.value * 64 + (b - 0x80)
        if pending.missing = 1 then ([value], none)
        else ([], some ⟨pending.missing - 1, 0x80, 0xBF, value⟩)
      else
        let (output, next) := utf8Start b
        (replacementChar :: output, next)

def utf8DecodeFrom : Option Pending → List UInt8 → PyStr
  | none, [] => []
  | some _, [] => [replacementChar]
  | state, b :: bs =>
      (utf8Feed state b.toNat).1 ++ utf8DecodeFrom (utf8Feed state b.toNat).2 bs

/-- `data.decode("utf-8", errors="replace")` -/
def utf8Decode (data : List UInt8) : PyStr := utf8DecodeFrom none data

example : utf8Decode [0x61, 0xE2, 0x82, 0xAC, 0xE2, 0x82, 0x62, 0xED, 0xA0, 0xFF] =
    [0x61, 0x20AC, 0xFFFD, 0x62, 0xFFFD, 0xFFFD, 0xFFFD] := by decide

/-! ## Decoding an encoding

One case for each length of an encoding.  In each the lead byte admits the byte that follows, which
for three and four bytes is where surrogates and overlong forms would be refused.
-/

lemma utf8DecodeFrom_ascii {v : ℕ} (h : v ≤ 127) (rest : List UInt8) :
    utf8DecodeFrom none (UInt8.ofNat v :: rest) = v :: utf8DecodeFrom none rest := by
  have hbyte : (UInt8.ofNat v).toNat = v := by simp; omega
  simp [utf8DecodeFrom, utf8Feed, utf8Start, hbyte, show v < 128 by omega]

/-- A lead byte followed by one that it admits. -/
lemma utf8DecodeFrom_lead {lead next value missing low high : ℕ} {rest : List UInt8}
    (hlead : utf8Lead lead = some ⟨missing, low, high, value⟩) (hascii : 0x80 ≤ lead)
    (hbyte : lead < 256) :
    utf8DecodeFrom none (UInt8.ofNat lead :: UInt8.ofNat next :: rest)
      = utf8DecodeFrom (some ⟨missing, low, high, value⟩) (UInt8.ofNat next :: rest) := by
  have htoNat : (UInt8.ofNat lead).toNat = lead := by simp; omega
  rw [utf8DecodeFrom, htoNat]
  simp [utf8Feed, utf8Start, hlead, show ¬ lead < 128 by omega]

lemma utf8DecodeFrom_last {b value low high : ℕ} {rest : List UInt8} (hlow : low ≤ b)
    (hhigh : b ≤ high) (hbyte : b < 256) :
    utf8DecodeFrom (some ⟨1, low, high, value⟩) (UInt8.ofNat b :: rest)
      = (value * 64 + (b - 0x80)) :: utf8DecodeFrom none rest := by
  have htoNat : (UInt8.ofNat b).toNat = b := by simp; omega
  rw [utf8DecodeFrom, htoNat]
  simp [utf8Feed, hlow, hhigh]

lemma utf8DecodeFrom_next {b value missing low high : ℕ} {rest : List UInt8} (hlow : low ≤ b)
    (hhigh : b ≤ high) (hbyte : b < 256) :
    utf8DecodeFrom (some ⟨missing + 2, low, high, value⟩) (UInt8.ofNat b :: rest)
      = utf8DecodeFrom (some ⟨missing + 1, 0x80, 0xBF, value * 64 + (b - 0x80)⟩) rest := by
  have htoNat : (UInt8.ofNat b).toNat = b := by simp; omega
  rw [utf8DecodeFrom, htoNat]
  simp [utf8Feed, hlow, hhigh]

/-- The lead byte of a three-byte sequence admits its second byte; surrogates are excluded. -/
lemma utf8Lead_three {v : ℕ} (hlow : 0x800 ≤ v) (hhigh : v < 0x10000)
    (hvalid : v < 0xD800 ∨ 0xDFFF < v) :
    ∃ low high, utf8Lead (v / 4096 % 16 + 224) = some ⟨2, low, high, v / 4096⟩ ∧
      low ≤ v / 64 % 64 + 128 ∧ v / 64 % 64 + 128 ≤ high := by
  unfold utf8Lead
  split_ifs with h₁ h₂ h₃ h₄ h₅ h₆ h₇
  · omega
  · refine ⟨0xA0, 0xBF, ?_, by omega, by omega⟩
    simp only [Option.some.injEq, Pending.mk.injEq, true_and]
    omega
  · refine ⟨0x80, 0x9F, ?_, by omega, by omega⟩
    simp only [Option.some.injEq, Pending.mk.injEq, true_and]
    omega
  · refine ⟨0x80, 0xBF, ?_, by omega, by omega⟩
    simp only [Option.some.injEq, Pending.mk.injEq, true_and]
    omega
  all_goals omega

/-- The lead byte of a four-byte sequence admits its second byte; what is above U+10FFFF is
excluded. -/
lemma utf8Lead_four {v : ℕ} (hlow : 0x10000 ≤ v) (hhigh : v < 0x110000) :
    ∃ low high, utf8Lead (v / 262144 % 8 + 240) = some ⟨3, low, high, v / 262144⟩ ∧
      low ≤ v / 4096 % 64 + 128 ∧ v / 4096 % 64 + 128 ≤ high := by
  unfold utf8Lead
  split_ifs with h₁ h₂ h₃ h₄ h₅ h₆ h₇
  · omega
  · omega
  · omega
  · omega
  · refine ⟨0x90, 0xBF, ?_, by omega, by omega⟩
    simp only [Option.some.injEq, Pending.mk.injEq, true_and]
    omega
  · refine ⟨0x80, 0xBF, ?_, by omega, by omega⟩
    simp only [Option.some.injEq, Pending.mk.injEq, true_and]
    omega
  · refine ⟨0x80, 0x8F, ?_, by omega, by omega⟩
    simp only [Option.some.injEq, Pending.mk.injEq, true_and]
    omega
  · omega

/-- The bytes of one character are decoded to it, whatever follows them. -/
lemma utf8DecodeFrom_encodeChar (c : Char) (rest : List UInt8) :
    utf8DecodeFrom none (String.utf8EncodeChar c ++ rest)
      = c.toNat :: utf8DecodeFrom none rest := by
  have hvalid : c.val.toNat < 0xD800 ∨ 0xDFFF < c.val.toNat ∧ c.val.toNat < 0x110000 := c.valid
  simp only [String.utf8EncodeChar, Char.toNat]
  generalize c.val.toNat = v at hvalid ⊢
  split_ifs with h₁ h₂ h₃
  · exact utf8DecodeFrom_ascii h₁ rest
  · have hlead : utf8Lead (v / 64 % 32 + 192) = some ⟨1, 0x80, 0xBF, v / 64⟩ := by
      unfold utf8Lead
      rw [if_pos (by omega)]
      simp only [Option.some.injEq, Pending.mk.injEq, true_and]
      omega
    simp only [List.cons_append, List.nil_append]
    rw [utf8DecodeFrom_lead hlead (by omega) (by omega),
      utf8DecodeFrom_last (by omega) (by omega) (by omega)]
    have hvalue : v / 64 * 64 + (v % 64 + 128 - 0x80) = v := by omega
    rw [hvalue]
  · obtain ⟨low, high, hlead, hlow, hhigh⟩ :=
      utf8Lead_three (v := v) (by omega) (by omega) (by omega)
    simp only [List.cons_append, List.nil_append]
    rw [utf8DecodeFrom_lead hlead (by omega) (by omega),
      utf8DecodeFrom_next hlow hhigh (by omega),
      utf8DecodeFrom_last (by omega) (by omega) (by omega)]
    have hvalue :
        (v / 4096 * 64 + (v / 64 % 64 + 128 - 0x80)) * 64 + (v % 64 + 128 - 0x80) = v := by
      omega
    rw [hvalue]
  · obtain ⟨low, high, hlead, hlow, hhigh⟩ :=
      utf8Lead_four (v := v) (by omega) (by omega)
    simp only [List.cons_append, List.nil_append]
    rw [utf8DecodeFrom_lead hlead (by omega) (by omega),
      utf8DecodeFrom_next hlow hhigh (by omega),
      utf8DecodeFrom_next (by omega) (by omega) (by omega),
      utf8DecodeFrom_last (by omega) (by omega) (by omega)]
    have hvalue : ((v / 262144 * 64 + (v / 4096 % 64 + 128 - 0x80)) * 64
        + (v / 64 % 64 + 128 - 0x80)) * 64 + (v % 64 + 128 - 0x80) = v := by omega
    rw [hvalue]

/-- **Decoding undoes encoding.** -/
theorem utf8Decode_encode (text : List Char) :
    utf8Decode (text.flatMap String.utf8EncodeChar) = text.map Char.toNat := by
  unfold utf8Decode
  induction text with
  | nil => rfl
  | cons c text ih => rw [List.flatMap_cons, utf8DecodeFrom_encodeChar, ih, List.map_cons]

/-! ## What can be encoded -/

/-- `text.encode("utf-8")` does not fail. -/
def HasUtf8 (s : PyStr) : Prop := ∀ c ∈ s, c < 0xD800 ∨ 0xDFFF < c

instance : DecidablePred HasUtf8 := fun s => inferInstanceAs (Decidable (∀ c ∈ s, _))

@[simp] lemma hasUtf8_nil : HasUtf8 [] := by
  intro c hc
  cases hc

@[simp] lemma hasUtf8_append {s t : PyStr} : HasUtf8 (s ++ t) ↔ HasUtf8 s ∧ HasUtf8 t :=
  List.forall_mem_append

@[simp] lemma hasUtf8_flatten {pieces : List PyStr} :
    HasUtf8 pieces.flatten ↔ ∀ s ∈ pieces, HasUtf8 s := by
  induction pieces with
  | nil => simp
  | cons s pieces ih => rw [List.flatten_cons, hasUtf8_append, ih, List.forall_mem_cons]

lemma hasUtf8_intercalate {separator : PyStr} {pieces : List PyStr} (h : HasUtf8 separator) :
    HasUtf8 (List.intercalate separator pieces) ↔ ∀ s ∈ pieces, HasUtf8 s :=
  forall_mem_intercalate h

/-- ASCII text can be encoded. -/
lemma hasUtf8_of_lt {s : PyStr} (h : ∀ c ∈ s, c < 256) : HasUtf8 s :=
  fun c hc => .inl ((h c hc).trans (by decide))

@[simp] lemma hasUtf8_ofString (s : String) : HasUtf8 (ofString s) := by
  refine hasUtf8_of_lt fun c hc => ?_
  obtain ⟨b, -, rfl⟩ := List.mem_map.mp hc
  exact b.toNat_lt

@[simp] lemma hasUtf8_ofNat (n : ℕ) : HasUtf8 (ofNat n) := by
  refine hasUtf8_of_lt fun c hc => ?_
  have hdigit := isDigit_of_mem_ofNat hc
  simp only [isDigit, inRange, Bool.and_eq_true, decide_eq_true_eq] at hdigit
  exact hdigit.2.trans_lt (by decide)

end PyStr
