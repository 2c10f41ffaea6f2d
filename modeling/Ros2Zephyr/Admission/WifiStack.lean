import Ros2Zephyr.Admission.Admit

/-!
# The stack of the Wi-Fi task

`platform/esp32c6_wifi_stack.c` enlarges the stack that the vendor asks for, and `admit` computes
the same enlargement of the smallest vendor value.  The C code does it in words of 32 bits.

* `wrapConfigGetWifiTaskStackSize` — what the vendor is given instead of its own value.
* `wifiBacking` — what `admit` puts into its row.
* `toNat_wrapConfigGetWifiTaskStackSize` — the word as a number, with the one way it can wrap
  around.
-/

namespace Ros2Zephyr

section Words

/-- The four symbols of the linker, as addresses. -/
structure TlsWords where
  tdataSize : UInt32
  tbssSize : UInt32
  tdataAlign : UInt32
  tbssAlign : UInt32

/-- `ROUND_UP(x, align)` -/
def wordRoundUp (x align : UInt32) : UInt32 := (x + (align - 1)) / align * align

/-- `__wrap_config_get_wifi_task_stack_size`; `real` is what the vendor's function returns. -/
def wrapConfigGetWifiTaskStackSize (l : TlsWords) (real : UInt32) : UInt32 :=
  let tls := l.tdataSize + l.tbssSize
  let align := if l.tbssAlign < l.tdataAlign then l.tdataAlign else l.tbssAlign
  wordRoundUp (real + tls + align - 1 + 99 + 256) 16

variable (l : TlsWords)

def TlsWords.size : ℕ := l.tdataSize.toNat + l.tbssSize.toNat

def TlsWords.alignment : ℕ := max l.tdataAlign.toNat l.tbssAlign.toNat

/-- The sum that the wrapper rounds up, as a number. -/
def wifiSum (real : UInt32) : ℕ := real.toNat + l.size + l.alignment - 1 + 99 + 256

variable {l}

lemma toNat_max_align :
    (if l.tbssAlign < l.tdataAlign then l.tdataAlign else l.tbssAlign).toNat = l.alignment := by
  rw [TlsWords.alignment]
  split_ifs with h
  · rw [max_eq_left (UInt32.lt_iff_toNat_lt.mp h).le]
  · rw [max_eq_right (UInt32.le_iff_toNat_le.mp (UInt32.not_lt.mp h))]

/-- Rounding is the only step of the wrapper that can wrap around. -/
lemma toNat_wrapConfigGetWifiTaskStackSize {real : UInt32} (halign : 1 ≤ l.alignment)
    (hsum : wifiSum l real < 2 ^ 32) :
    (wrapConfigGetWifiTaskStackSize l real).toNat =
      if wifiSum l real + 15 < 2 ^ 32 then (wifiSum l real + 15) / 16 * 16 else 0 := by
  have halignWord := @toNat_max_align l
  rw [wifiSum, TlsWords.size] at *
  simp only [wrapConfigGetWifiTaskStackSize, wordRoundUp]
  generalize (if l.tbssAlign < l.tdataAlign then l.tdataAlign else l.tbssAlign) = align at *
  simp only [UInt32.toNat_mul, UInt32.toNat_div, UInt32.toNat_add, UInt32.toNat_sub,
    UInt32.reduceToNat, halignWord]
  split_ifs
  · omega
  · omega

end Words

section Row

variable {l : TlsWords} {real : UInt32}

/-- The backing of the vendor row in `admit`. -/
def wifiBacking (tlsSize tlsAlignment : ℕ) : ℕ :=
  (3072 + (tlsSize + tlsAlignment - 1) + 99 + 256 + 15) / 16 * 16

/-- A multiple of the alignment is not rounded: the vendor's value moves out. -/
lemma roundedSum_eq (halign : 1 ≤ l.alignment) (hmin : 3072 ≤ real.toNat)
    (hmod : real.toNat % 16 = 3072 % 16) :
    (wifiSum l real + 15) / 16 * 16 = wifiBacking l.size l.alignment + (real.toNat - 3072) := by
  rw [wifiSum, wifiBacking]
  omega

/-- The wrapper adds to the vendor's value what `admit` adds to the smallest one, unless the rounded
sum is no word. -/
lemma wrapConfigGetWifiTaskStackSize_sub (halign : 1 ≤ l.alignment) (hmin : 3072 ≤ real.toNat)
    (hmod : real.toNat % 16 = 3072 % 16) (hsum : wifiSum l real < 2 ^ 32) :
    ((wrapConfigGetWifiTaskStackSize l real).toNat : ℤ) - real.toNat =
        wifiBacking l.size l.alignment - 3072 ↔
      wifiSum l real + 15 < 2 ^ 32 := by
  have hrounded := roundedSum_eq halign hmin hmod
  rw [toNat_wrapConfigGetWifiTaskStackSize halign hsum]
  split_ifs with hword
  · simp only [hword, iff_true]
    omega
  · simp only [hword, iff_false]
    omega

/-- What a row leaves free depends only on what its backing adds to the execution budget. -/
lemma status_pass_congr {backing execution backing' execution' tlsSize tlsAlignment overhead : ℤ}
    {margin : ℤ} {isr : Bool} {row row' : StackBudget}
    (h : stackBudget backing execution tlsSize tlsAlignment overhead margin isr = .ok row)
    (h' : stackBudget backing' execution' tlsSize tlsAlignment overhead margin isr = .ok row')
    (hadded : backing' - execution' = backing - execution) :
    row.status = .pass ↔ row'.status = .pass := by
  rw [stackBudget_status h, stackBudget_status h', requiredBytes, requiredBytes]
  omega

/-- The backing has room for an overhead of 99 bytes. -/
lemma requiredBytes_le_wifiBacking {tlsSize tlsAlignment overhead : ℕ} (halign : 1 ≤ tlsAlignment)
    (h : overhead ≤ 99) :
    requiredBytes 3072 tlsSize tlsAlignment overhead 256 false ≤
      wifiBacking tlsSize tlsAlignment := by
  simp only [requiredBytes, wifiBacking, Bool.false_eq_true, if_false]
  omega

/-- The row that `admit` makes for a build with the wrapper. -/
lemma vendorRows_wrapped {b : Build} {row : StackBudget} (hknown : b.vendorKnown = true)
    (hprofile : b.aProfile = true) (hwrapped : b.wrapped = true)
    (hrow : stackBudget (wifiBacking b.tlsSize b.tlsAlignment) 3072 b.tlsSize b.tlsAlignment
      b.overhead 256 false = .ok row) :
    b.vendorRows =
      .ok ([("vendor Wi-Fi minimum (A explicit provider)", row,
          "A vendor_stack.c and linked pp_create_task call")],
        if b.wrapperCalled then [] else [.vendorWrapper]) := by
  rw [wifiBacking] at hrow
  simp only [Build.vendorRows, Build.row, hknown, hprofile, hwrapped, if_true, Bool.true_and, hrow]
  rfl

/-- **The admitted row speaks for every vendor value** whose enlarged stack is a word: the wrapper
adds the same, and so the verdict is the same. -/
theorem wifi_stack_row_transfers (l : TlsWords) (real : UInt32) (overhead : ℕ)
    (halign : 1 ≤ l.alignment) (hmin : 3072 ≤ real.toNat) (hmod : real.toNat % 16 = 3072 % 16)
    (hsum : wifiSum l real < 2 ^ 32) :
    let size := (wrapConfigGetWifiTaskStackSize l real).toNat
    let backing := wifiBacking l.size l.alignment
    ((size : ℤ) - real.toNat = backing - 3072 ↔ wifiSum l real + 15 < 2 ^ 32) ∧
      (wifiSum l real + 15 < 2 ^ 32 →
        ∃ admitted row,
          stackBudget backing 3072 l.size l.alignment overhead 256 false = .ok admitted ∧
          stackBudget size real.toNat l.size l.alignment overhead 256 false = .ok row ∧
          (admitted.status = .pass ↔ row.status = .pass) ∧
          (overhead ≤ 99 → admitted.status = .pass) ∧
          ∀ b : Build, b.vendorKnown = true → b.aProfile = true → b.wrapped = true →
            b.tlsSize = l.size → b.tlsAlignment = l.alignment → b.overhead = overhead →
            ∃ failures, b.vendorRows =
              .ok ([("vendor Wi-Fi minimum (A explicit provider)", admitted,
                "A vendor_stack.c and linked pp_create_task call")], failures)) := by
  intro size backing
  have hadded : (size : ℤ) - real.toNat = backing - 3072 ↔ wifiSum l real + 15 < 2 ^ 32 :=
    wrapConfigGetWifiTaskStackSize_sub halign hmin hmod hsum
  refine ⟨hadded, fun hword => ?_⟩
  obtain ⟨admitted, hadmitted⟩ :=
    stackBudget_isOk backing 3072 l.size l.alignment overhead 256 false halign
  obtain ⟨row, hrow⟩ :=
    stackBudget_isOk size real.toNat l.size l.alignment overhead 256 false halign
  refine ⟨admitted, row, hadmitted, hrow, status_pass_congr hadmitted hrow (hadded.mpr hword),
    fun hoverhead => ?_, fun b hknown hprofile hwrapped hsize halignment hb => ?_⟩
  · rw [stackBudget_status hadmitted]
    exact requiredBytes_le_wifiBacking halign hoverhead
  · refine ⟨_, vendorRows_wrapped hknown hprofile hwrapped ?_⟩
    rw [hsize, halignment, hb]
    exact hadmitted

/-- A TLS image of 2576 bytes, and the second smallest vendor value. -/
theorem wifi_stack_row_transfers_second :
    let size := (wrapConfigGetWifiTaskStackSize ⟨16, 2560, 8, 8⟩ 3584).toNat
    (size : ℤ) - 3584 = wifiBacking 2576 8 - 3072 ∧
      ∃ row, stackBudget size 3584 2576 8 99 256 false = .ok row ∧ row.status = .pass := by
  obtain ⟨hadded, htransfer⟩ := wifi_stack_row_transfers ⟨16, 2560, 8, 8⟩ 3584 99 (by decide)
    (by decide) (by decide) (by decide)
  obtain ⟨admitted, row, -, hrow, hsame, hpass, -⟩ := htransfer (by decide)
  exact ⟨hadded.mpr (by decide), row, hrow, hsame.mp (hpass (by decide))⟩

/-- The largest sum below `2 ^ 32`: rounding it up wraps around, and a stack of no bytes stands
against a row that passes. -/
theorem wifi_stack_row_wraps :
    let l : TlsWords := ⟨4294963868, 0, 1, 1⟩
    let size := (wrapConfigGetWifiTaskStackSize l 3072).toNat
    wifiSum l 3072 = 2 ^ 32 - 1 ∧ size = 0 ∧ wifiBacking l.size l.alignment = 2 ^ 32 ∧
      (size : ℤ) - 3072 ≠ wifiBacking l.size l.alignment - 3072 ∧
      (stackBudget (wifiBacking l.size l.alignment) 3072 l.size l.alignment 99 256 false).map
        StackBudget.status = .ok .pass ∧
      (stackBudget size 3072 l.size l.alignment 99 256 false).map StackBudget.status =
        .ok .fail := by
  decide

/-- What the enlargement is for: whatever the vendor asks for, the task has it, with the margin,
below its first frame. -/
theorem wifi_stack_holds_execution {base frame sentinel : ℕ} (halign : 1 ≤ l.alignment)
    (hword : wifiSum l real + 15 < 2 ^ 32) (hoverhead : frame + 15 + sentinel ≤ 99)
    (hend : base + (wrapConfigGetWifiTaskStackSize l real).toNat < 2 ^ 32) :
    let stackPtr := base + (wrapConfigGetWifiTaskStackSize l real).toNat
    let setup := archTlsStackSetup 32 l.size l.alignment stackPtr
    base ≤ setup.tls ∧
      base + sentinel + real.toNat + 256 ≤ frameStart 32 stackPtr setup.used frame := by
  intro stackPtr setup
  have hsize := toNat_wrapConfigGetWifiTaskStackSize halign (Nat.lt_of_add_right_lt hword)
  rw [if_pos hword, wifiSum] at hsize
  have hroom : base + real.toNat + l.size + l.alignment - 1 + 99 + 256 ≤ stackPtr := by omega
  obtain ⟨hsum, -, hused⟩ := archTlsStackSetup_used halign hend (by omega : l.size ≤ stackPtr)
  have husedBound : setup.used ≤ l.size + l.alignment - 1 := hused
  have hsplit : setup.tls + setup.used = stackPtr := hsum
  exact ⟨by omega, frameStart_ge hend (by omega)⟩

end Row

end Ros2Zephyr
