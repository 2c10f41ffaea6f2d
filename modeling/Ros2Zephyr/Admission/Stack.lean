import Mathlib.Tactic.Zify
import Ros2Zephyr.Resources.Plan

/-!
# Stack budgets and the layout of a stack

`stack_budget` of `tools/admit_esp32c6.py` next to what the kernel does with a stack: the patched
`arch_tls_stack_setup` puts a copy of the TLS image at its end, and the first frame of the thread
stands below it.

* Addresses are words of `w` bits; a difference is taken modulo `2 ^ w`, as the C code takes it.
* `stack_admission_sound` — the upper bounds of the tool dominate both roundings.
-/

namespace Ros2Zephyr

/-- A row of the admission, without the names that `add` puts to it. -/
structure StackBudget where
  backingBytes : ℤ
  tlsUpperBytes : ℤ
  otherUpperBytes : ℤ
  executionBudgetBytes : ℤ
  marginBytes : ℤ
  requiredBytes : ℤ
  remainingAfterBudgetBytes : ℤ
  status : Verdict
  deriving DecidableEq

/-- `stack_budget`. -/
def stackBudget (backing execution tlsSize tlsAlignment overhead margin : ℤ) (isr : Bool) :
    Except PyException StackBudget :=
  if min backing (min execution (min tlsSize (min overhead margin))) < 0 ∨ tlsAlignment < 1 then
    .error (.valueError "Invalid stack budget")
  else
    let reserve := if isr then 0 else tlsSize + tlsAlignment - 1
    let required := reserve + overhead + execution + margin
    .ok {
      backingBytes := backing
      tlsUpperBytes := reserve
      otherUpperBytes := overhead
      executionBudgetBytes := execution
      marginBytes := margin
      requiredBytes := required
      remainingAfterBudgetBytes := backing - required
      status := if required ≤ backing then .pass else .fail }

/-- The bytes that a stack has to have. -/
def requiredBytes (execution tlsSize tlsAlignment overhead margin : ℤ) (isr : Bool) : ℤ :=
  (if isr then 0 else tlsSize + tlsAlignment - 1) + overhead + execution + margin

/-- A budget that was made passes what is large enough. -/
lemma stackBudget_status {backing execution tlsSize tlsAlignment overhead margin : ℤ} {isr : Bool}
    {row : StackBudget}
    (h : stackBudget backing execution tlsSize tlsAlignment overhead margin isr = .ok row) :
    row.status = .pass ↔
      requiredBytes execution tlsSize tlsAlignment overhead margin isr ≤ backing := by
  unfold stackBudget at h
  split at h
  · cases h
  · cases h
    simp [requiredBytes]

/-- On sizes a budget is always made. -/
lemma stackBudget_isOk (backing execution tlsSize tlsAlignment overhead margin : ℕ) (isr : Bool)
    (halign : 1 ≤ tlsAlignment) :
    ∃ row, stackBudget backing execution tlsSize tlsAlignment overhead margin isr = .ok row :=
  ⟨_, if_neg (by simp; omega)⟩

section Layout

variable (w : ℕ)

/-- A difference of two words. -/
def subWord (x y : ℕ) : ℕ := (x + (2 ^ w - y % 2 ^ w)) % 2 ^ w

/-- `ROUND_DOWN(x, align)` -/
def roundDown (x align : ℕ) : ℕ := x / align * align

/-- What `arch_tls_stack_setup` stores and returns. -/
structure TlsSetup where
  tls : ℕ
  used : ℕ
  deriving DecidableEq

/-- `arch_tls_stack_setup` after the patch; `dataSize` is `z_tls_data_size()` and `alignment` the
larger of the two section alignments. -/
def archTlsStackSetup (dataSize alignment stackPtr : ℕ) : TlsSetup :=
  let tls := roundDown (subWord w stackPtr dataSize) alignment
  ⟨tls, subWord w stackPtr tls⟩

/-- Where the kernel starts the first frame, below what the TLS setup has used. -/
def frameStart (stackPtr used frameSize : ℕ) : ℕ :=
  subWord w (roundDown (subWord w stackPtr used) 16) frameSize

end Layout

section Rounding

variable {w : ℕ}

lemma subWord_eq {x y : ℕ} (hy : y ≤ x) (hx : x < 2 ^ w) : subWord w x y = x - y := by
  rw [subWord, Nat.mod_eq_of_lt (hy.trans_lt hx),
    show x + (2 ^ w - y) = (x - y) + 2 ^ w by omega, Nat.add_mod_right]
  exact Nat.mod_eq_of_lt (by omega)

lemma roundDown_le (x align : ℕ) : roundDown x align ≤ x := Nat.div_mul_le_self x align

lemma lt_roundDown_add {align : ℕ} (x : ℕ) (h : 0 < align) : x < roundDown x align + align :=
  Nat.lt_div_mul_add h

lemma dvd_roundDown (x align : ℕ) : align ∣ roundDown x align := Dvd.intro_left _ rfl

/-- What the setup uses of a stack that ends at an address not below the size of the image. -/
lemma archTlsStackSetup_used {dataSize alignment stackPtr : ℕ} (halign : 1 ≤ alignment)
    (hptr : stackPtr < 2 ^ w) (hsize : dataSize ≤ stackPtr) :
    let setup := archTlsStackSetup w dataSize alignment stackPtr
    setup.tls + setup.used = stackPtr ∧ dataSize ≤ setup.used ∧
      setup.used ≤ dataSize + alignment - 1 := by
  have hle := roundDown_le (stackPtr - dataSize) alignment
  have hlt := lt_roundDown_add (stackPtr - dataSize) halign
  simp only [archTlsStackSetup, subWord_eq hsize hptr]
  rw [subWord_eq (by omega) hptr]
  omega

lemma subWord_of_lt {x y : ℕ} (hxy : x < y) (hy : y < 2 ^ w) : subWord w x y = x + 2 ^ w - y := by
  rw [subWord, Nat.mod_eq_of_lt hy, ← Nat.add_sub_assoc hy.le]
  exact Nat.mod_eq_of_lt (by omega)

/-- Also where the image would start below address 0 the setup uses its size and the loss of one
alignment, as long as the two together are a word. -/
lemma archTlsStackSetup_used_of_lt {dataSize alignment stackPtr : ℕ} (halign : 1 ≤ alignment)
    (hptr : stackPtr < 2 ^ w) (hword : dataSize + alignment - 1 < 2 ^ w) :
    let setup := archTlsStackSetup w dataSize alignment stackPtr
    dataSize ≤ setup.used ∧ setup.used ≤ dataSize + alignment - 1 := by
  rcases le_or_gt dataSize stackPtr with hsize | hwraps
  · exact (archTlsStackSetup_used halign hptr hsize).2
  have hle := roundDown_le (stackPtr + 2 ^ w - dataSize) alignment
  have hlt := lt_roundDown_add (stackPtr + 2 ^ w - dataSize) halign
  simp only [archTlsStackSetup, subWord_of_lt hwraps (by omega : dataSize < 2 ^ w)]
  rw [subWord_of_lt (by omega) (by omega)]
  omega

/-- The first frame loses less than the alignment of the stack pointer. -/
lemma frameStart_ge {stackPtr used frameSize n : ℕ} (hptr : stackPtr < 2 ^ w)
    (h : n + frameSize + 15 + used ≤ stackPtr) : n ≤ frameStart w stackPtr used frameSize := by
  have hle := roundDown_le (stackPtr - used) 16
  have hlt := lt_roundDown_add (stackPtr - used) (by decide : 0 < 16)
  rw [frameStart, subWord_eq (by omega) hptr, subWord_eq (by omega) (by omega)]
  omega

end Rounding

section Admission

variable {w : ℕ}

/-- **The budget of a stack covers its layout.**  The image of the TLS is aligned, and it takes up
at most its size and the loss of one alignment.  A stack that passes its budget holds the image, and
below the first frame there are the sentinel, the execution budget and the margin. -/
theorem stack_admission_sound (base backing tlsSize alignment frame sentinel execution margin : ℕ)
    (halign : 1 ≤ alignment) (hend : base + backing < 2 ^ w) :
    let setup := archTlsStackSetup w tlsSize alignment (base + backing)
    alignment ∣ setup.tls ∧
      (tlsSize ≤ base + backing → setup.tls + tlsSize ≤ base + backing ∧ tlsSize ≤ setup.used ∧
        setup.used ≤ tlsSize + alignment - 1) ∧
      (tlsSize + alignment - 1 < 2 ^ w → tlsSize ≤ setup.used ∧
        setup.used ≤ tlsSize + alignment - 1) ∧
      (tlsSize + alignment - 1 ≤ backing → base ≤ setup.tls) ∧
      (∃ row, stackBudget backing execution tlsSize alignment (frame + 15 + sentinel) margin false =
          .ok row ∧ (row.status = .pass → base ≤ setup.tls ∧
            setup.tls + tlsSize ≤ base + backing ∧ tlsSize ≤ setup.used ∧
            setup.used ≤ tlsSize + alignment - 1 ∧
            base + sentinel + execution + margin ≤
              frameStart w (base + backing) setup.used frame)) ∧
      ∃ row, stackBudget backing execution tlsSize alignment (frame + 15 + sentinel) margin true =
        .ok row ∧ (row.status = .pass →
          base + sentinel + execution + margin ≤ frameStart w (base + backing) 0 frame) := by
  intro setup
  have hused : tlsSize ≤ base + backing → setup.tls + setup.used = base + backing ∧
      tlsSize ≤ setup.used ∧ setup.used ≤ tlsSize + alignment - 1 :=
    archTlsStackSetup_used halign hend
  obtain ⟨row, hrow⟩ := stackBudget_isOk backing execution tlsSize alignment
    (frame + 15 + sentinel) margin false halign
  obtain ⟨isrRow, hisrRow⟩ := stackBudget_isOk backing execution tlsSize alignment
    (frame + 15 + sentinel) margin true halign
  refine ⟨dvd_roundDown _ _, fun hsize => ?_, archTlsStackSetup_used_of_lt halign hend,
    fun hroom => ?_,
    ⟨row, mod_cast hrow, fun hpass => ?_⟩,
    isrRow, mod_cast hisrRow, fun hpass => ?_⟩
  · obtain ⟨hsum, hle, hbound⟩ := hused hsize
    exact ⟨by omega, hle, hbound⟩
  · obtain ⟨hsum, -, hbound⟩ := hused (by omega)
    omega
  · rw [stackBudget_status hrow, requiredBytes] at hpass
    obtain ⟨hsum, hle, hbound⟩ := hused (by simp at hpass; omega)
    have hframe : base + sentinel + execution + margin ≤
        frameStart w (base + backing) setup.used frame :=
      frameStart_ge hend (by simp at hpass; omega)
    exact ⟨by simp at hpass; omega, by omega, hle, hbound, hframe⟩
  · rw [stackBudget_status hisrRow, requiredBytes] at hpass
    exact frameStart_ge hend (by simp at hpass; omega)

/-- The main stack of the qualified image, with six bytes to spare. -/
theorem stack_admission_sound_main :
    let setup := archTlsStackSetup 32 2576 8 (0x40810000 + 11648)
    0x40810000 ≤ setup.tls ∧
      0x40810000 + 4 + 8704 + 256 ≤ frameStart 32 (0x40810000 + 11648) setup.used 80 := by
  obtain ⟨-, -, -, -, ⟨row, hrow, hsound⟩, -⟩ :=
    stack_admission_sound (w := 32) 0x40810000 11648 2576 8 80 4 8704 256 (by decide) (by decide)
  cases hrow
  obtain ⟨hbase, -, -, -, hframe⟩ := hsound (by decide)
  exact ⟨hbase, hframe⟩

/-- A stack of 512 bytes does not hold the image: its copy starts below the stack. -/
theorem tls_image_outside_stack :
    let setup := archTlsStackSetup 32 2576 8 (0x40810000 + 512)
    setup.tls = 0x40810000 - 2064 ∧ setup.used = 2576 ∧ ¬ 0x40810000 ≤ setup.tls := by
  decide

end Admission

end Ros2Zephyr
