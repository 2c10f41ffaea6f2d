import Ros2Zephyr.Resources.Plan
import Ros2Zephyr.Resources.Sections

/-!
# Verification of a linked image

`measure_linked` and `build_postlink_report` of `tools/verify_resources.py`, as far as the verdict
of the report depends on them: which RAM is counted in which configuration, and what it is compared
with.

* `staticRamBytes` — the three ways of counting.  On the C6 a section counts with the region it
  starts in, elsewhere only if it also ends there.
* `budgetRegion` — the region whose length bounds the RAM budget, chosen by another rule.
-/

namespace Ros2Zephyr

/-- What `measure_linked` reads from a build directory. -/
structure Artifacts where
  sections : List ElfSection
  regions : Regions
  config : List (PyStr × PyStr)
  /-- The size of `zephyr.bin`, if there is one. -/
  binary : Option ℕ

structure Linked where
  flashBytes : ℕ
  staticRamBytes : ℕ
  memoryRegions : Regions

section Measure

/-- `config.get("CONFIG_SOC_ESP32C6_HPCORE") == "y"` -/
def isC6 (config : List (PyStr × PyStr)) : Bool :=
  config.lookup (PyStr.ofString "CONFIG_SOC_ESP32C6_HPCORE") == some (PyStr.ofString "y")

/-- One turn of the loop over the regions of the C6. -/
def physicalSpan (sections : List ElfSection) (region : Region) : ℕ :=
  spanEnd region.origin (region.allocated sections) - region.origin

def c6RegionNames : List PyStr := ["sram0_0_seg", "lp_ram_seg"]

/-- The physical spans of the regions that the map has. -/
def c6RamBytes (sections : List ElfSection) (regions : Regions) : ℕ :=
  ((c6RegionNames.filterMap fun name => regions.lookup name).map (physicalSpan sections)).sum

/-- `static_ram_bytes` of `measure_linked`. -/
def staticRamBytes (artifacts : Artifacts) : ℕ :=
  if isC6 artifacts.config && (artifacts.regions.lookup (PyStr.ofString "sram0_0_seg")).isSome then
    c6RamBytes artifacts.sections artifacts.regions
  else
    match artifacts.regions.lookup (PyStr.ofString "dram0_0_seg") with
    | some region => regionUsage artifacts.sections region
    | none => ((artifacts.sections.filter ElfSection.occupiesRam).map ElfSection.size).sum

def flashBytes (artifacts : Artifacts) : ℕ :=
  artifacts.binary.getD
    ((artifacts.sections.filter ElfSection.occupiesFlash).map ElfSection.size).sum

/-- `measure_linked`. -/
def measureLinked (artifacts : Artifacts) : Linked where
  flashBytes := flashBytes artifacts
  staticRamBytes := staticRamBytes artifacts
  memoryRegions := artifacts.regions

end Measure

section Report

/-- The part of a report that this model keeps. -/
structure Report where
  status : Verdict
  plan : ResourcePlan
  linked : Linked
  checks : List Check

/-- `regions.get("sram0_0_seg") or regions.get("dram0_0_seg")` -/
def budgetRegion (regions : Regions) : Option Region :=
  (regions.lookup (PyStr.ofString "sram0_0_seg")).or (regions.lookup (PyStr.ofString "dram0_0_seg"))

/-- A budget against the length of a region, where the map has one. -/
def capacityCheck (id : PyStr) (budget : PyInteger) (detail : PyStr) : Option Region → List Check
  | some region =>
      [makeCheck id "E_RESOURCE_TARGET_CAPACITY" budget (some (.int region.length)) detail]
  | none => []

lemma capacityCheck_pass_iff {id detail : PyStr} {budget : PyInteger} {region : Option Region} :
    (∀ c ∈ capacityCheck id budget detail region, c.status = .pass) ↔
      ∀ r, region = some r → budget.value ≤ r.length := by
  cases region with
  | none => simp [capacityCheck]
  | some r => simp [capacityCheck]

/-- The checks that a report adds to those of the plan. -/
def linkedChecks (plan : ResourcePlan) (linked : Linked) : List Check :=
  [makeCheck "linked_flash_budget" "E_RESOURCE_FLASH_BUDGET" (.int linked.flashBytes)
      (some plan.budgets.flashBytes) "linked flash must not exceed the target budget",
    makeCheck "linked_ram_budget_with_reserve" "E_RESOURCE_RAM_BUDGET"
      (.int (linked.staticRamBytes + plan.planned.staticReserveBytes.value))
      (some plan.budgets.ramBytes)
      "linked static RAM plus declared application reserve must fit the target budget"] ++
  capacityCheck "flash_budget_within_target_region" plan.budgets.flashBytes
    "declared flash budget must fit the linked target region"
    (linked.memoryRegions.lookup (PyStr.ofString "FLASH")) ++
  capacityCheck "ram_budget_within_target_region" plan.budgets.ramBytes
    "declared RAM budget must fit the linked target region" (budgetRegion linked.memoryRegions)

/-- `build_postlink_report`. -/
def buildPostlinkReport (plan : ResourcePlan) (linked : Linked) : Except PyException Report :=
  if plan.status ≠ .pass then
    rejectResource "E_RESOURCE_PLAN" "cannot verify a failed pre-link resource plan"
  else
    .ok {
      status := verdict (plan.checks ++ linkedChecks plan linked)
      plan := plan
      linked := linked
      checks := plan.checks ++ linkedChecks plan linked }

/-- The image passes with the plan. -/
def Passes (plan : ResourcePlan) (artifacts : Artifacts) : Prop :=
  ∃ report, buildPostlinkReport plan (measureLinked artifacts) = .ok report ∧ report.status = .pass

/-- **What a passing report says.** -/
lemma passes_iff {plan : ResourcePlan} {artifacts : Artifacts} :
    Passes plan artifacts ↔ plan.status = .pass ∧ (∀ c ∈ plan.checks, c.status = .pass) ∧
      (flashBytes artifacts : ℤ) ≤ plan.budgets.flashBytes.value ∧
      staticRamBytes artifacts + plan.planned.staticReserveBytes.value
        ≤ plan.budgets.ramBytes.value ∧
      (∀ region, artifacts.regions.lookup (PyStr.ofString "FLASH") = some region →
        plan.budgets.flashBytes.value ≤ region.length) ∧
      ∀ region, budgetRegion artifacts.regions = some region →
        plan.budgets.ramBytes.value ≤ region.length := by
  have hreport : Passes plan artifacts ↔ plan.status = .pass ∧
      ∀ c ∈ plan.checks ++ linkedChecks plan (measureLinked artifacts), c.status = .pass := by
    unfold Passes buildPostlinkReport
    split
    next hne => simp [rejectResource, hne]
    next hpass => simp_all [verdict_eq_pass_iff]
  rw [hreport, linkedChecks]
  simp only [List.forall_mem_append, List.forall_mem_cons, capacityCheck_pass_iff,
    makeCheck_status_pass, Option.map_some, PyInteger.value_int, meets_some, measureLinked,
    List.not_mem_nil, false_implies, implies_true,
    and_true, and_assoc]

end Report

section Sound

variable {sections : List ElfSection} {regions : Regions} {config : List (PyStr × PyStr)}
  {region : Region}

/-- The region in which a configuration counts its RAM. -/
def ramRegionName (config : List (PyStr × PyStr)) : PyStr :=
  if isC6 config then "sram0_0_seg" else "dram0_0_seg"

/-- The verdict on an image is sound: with every plan, an image that passes leaves the reserve of
the plan free behind every allocated section that starts in the region. -/
def VerdictSound (sections : List ElfSection) (regions : Regions) (config : List (PyStr × PyStr))
    (region : Region) : Prop :=
  ∀ (binary : Option ℕ) (plan : ResourcePlan), 0 ≤ plan.planned.staticReserveBytes.value →
    Passes plan ⟨sections, regions, config, binary⟩ →
    ∀ s ∈ sections, s.alloc = true → region.Starts s →
      (s.endAddress : ℤ) + plan.planned.staticReserveBytes.value ≤ region.endAddress

/-- Every section that starts in the region is counted, and against the right length.  Otherwise the
image must be too large to pass anyway. -/
def Counted (sections : List ElfSection) (region : Region) (limit : ℕ) : Prop :=
  (∃ s ∈ region.allocated sections,
    s.endAddress ≤ region.endAddress ∧ region.origin + limit < s.endAddress) ∨
  ((∀ s ∈ region.allocated sections, s.endAddress ≤ region.endAddress) ∧
    (limit ≤ region.length ∨ region.allocated sections = []))

lemma endAddress_le_physicalSpan {s : ElfSection} (hs : s ∈ sections) (halloc : s.alloc = true)
    (hstarts : region.Starts s) : s.endAddress ≤ region.origin + physicalSpan sections region := by
  have hmem : s ∈ region.allocated sections := Region.mem_allocated.mpr ⟨hs, halloc, hstarts⟩
  have hle : s.endAddress ≤ spanEnd region.origin (region.allocated sections) :=
    endAddress_le_spanEnd hmem
  rw [physicalSpan]
  omega

/-- On the C6 the figure covers the region. -/
lemma physicalSpan_le_c6RamBytes (sections : List ElfSection)
    (hregion : regions.lookup (PyStr.ofString "sram0_0_seg") = some region) :
    physicalSpan sections region ≤ c6RamBytes sections regions := by
  simp only [c6RamBytes, c6RegionNames, List.filterMap_cons, hregion, List.map_cons, List.sum_cons]
  omega

lemma verdictSound_c6 (hc6 : isC6 config = true)
    (hregion : regions.lookup (PyStr.ofString "sram0_0_seg") = some region) :
    VerdictSound sections regions config region := by
  intro binary plan hreserve hpasses s hs halloc hstarts
  obtain ⟨-, -, -, hram, -, hcapacity⟩ := passes_iff.mp hpasses
  have hlength := hcapacity region (by rw [budgetRegion, hregion, Option.some_or])
  have hspan := physicalSpan_le_c6RamBytes sections hregion
  have hend := endAddress_le_physicalSpan hs halloc hstarts
  simp only [staticRamBytes, hc6, hregion, Option.isSome_some, Bool.and_self, if_true] at hram
  rw [Region.endAddress]
  omega

lemma regionUsage_le_iff {n : ℕ} : regionUsage sections region ≤ n ↔
    ∀ s ∈ region.allocated sections, s.endAddress ≤ region.endAddress →
      s.endAddress ≤ region.origin + n := by
  rw [regionUsage, Nat.sub_le_iff_le_add', spanEnd_le_iff (Nat.le_add_right _ _)]
  simp

/-- The sections that `region_usage` counts. -/
lemma endAddress_le_regionUsage {s : ElfSection} (hs : s ∈ region.allocated sections)
    (hend : s.endAddress ≤ region.endAddress) :
    s.endAddress ≤ region.origin + regionUsage sections region :=
  regionUsage_le_iff.mp le_rfl s hs hend

/-- Where everything is counted, the usage ends with some section. -/
lemma exists_endAddress_eq (hne : region.allocated sections ≠ [])
    (hall : ∀ s ∈ region.allocated sections, s.endAddress ≤ region.endAddress) :
    ∃ s ∈ region.allocated sections,
      s.endAddress = region.origin + regionUsage sections region := by
  have hfilter : ((region.allocated sections).filter
      fun s => decide (s.endAddress ≤ region.endAddress)) = region.allocated sections := by
    simpa using hall
  rw [regionUsage, hfilter]
  rcases spanEnd_cases region.origin (region.allocated sections) with ⟨hnil, -⟩ | ⟨s, hs, heq⟩
  · exact absurd hnil hne
  · have hstarts := (Region.mem_allocated.mp hs).2.2.1
    refine ⟨s, hs, ?_⟩
    rw [heq, ElfSection.endAddress]
    omega

/-- A plan with a given RAM budget and reserve that asks for nothing else. -/
def planWith (ramBytes reserve : ℤ) : ResourcePlan where
  status := .pass
  target := []
  backend := []
  ddsrtSync := []
  deployment := none
  budgets := ⟨.int 0, .int ramBytes⟩
  planned := ⟨0, .null, [], [], [], [], ⟨none, .int 0, .int 0⟩, .int reserve, 0⟩
  checks := []

/-- Off the C6 the verdict is sound exactly if every section is counted.  Where one is not, a plan
that leaves just enough for what is counted is passed and does not fit. -/
lemma verdictSound_dram_iff {budget : Region} (hc6 : isC6 config = false)
    (hregion : regions.lookup (PyStr.ofString "dram0_0_seg") = some region)
    (hbudget : budgetRegion regions = some budget) :
    VerdictSound sections regions config region ↔ Counted sections region budget.length := by
  have hram : ∀ binary, staticRamBytes ⟨sections, regions, config, binary⟩ =
      regionUsage sections region := by
    intro binary
    simp [staticRamBytes, hc6, hregion]
  constructor
  · intro hsound
    by_cases hlarge : regionUsage sections region ≤ budget.length
    · -- the plan that leaves just enough for the reserve
      have hpasses : Passes
          (planWith budget.length (budget.length - regionUsage sections region))
          ⟨sections, regions, config, some 0⟩ := by
        rw [passes_iff]
        refine ⟨rfl, by simp [planWith], le_rfl, ?_, ?_, ?_⟩
        · rw [hram]
          simp [planWith]
        · intro r _
          exact Int.natCast_nonneg _
        · intro r hr
          rw [hbudget] at hr
          cases hr
          exact le_rfl
      have hfits := hsound _ _ (by simp [planWith]; omega) hpasses
      have hall : ∀ s ∈ region.allocated sections,
          (s.endAddress : ℤ) + (budget.length - regionUsage sections region)
            ≤ region.endAddress := by
        intro s hs
        obtain ⟨hmem, halloc, hstarts⟩ := Region.mem_allocated.mp hs
        exact hfits s hmem halloc hstarts
      have hcounted : ∀ s ∈ region.allocated sections, s.endAddress ≤ region.endAddress := by
        intro s hs
        have hle := hall s hs
        omega
      refine .inr ⟨hcounted, ?_⟩
      by_cases hne : region.allocated sections = []
      · exact .inr hne
      · obtain ⟨s, hs, heq⟩ := exists_endAddress_eq hne hcounted
        have hle := hall s hs
        rw [heq, Region.endAddress] at hle
        exact .inl (by omega)
    · rw [regionUsage_le_iff] at hlarge
      push Not at hlarge
      exact .inl hlarge
  · intro hcounted binary plan hreserve hpasses s hs halloc hstarts
    obtain ⟨-, -, -, hfits, -, hcapacity⟩ := passes_iff.mp hpasses
    have hlength := hcapacity budget hbudget
    rw [hram] at hfits
    have hmem : s ∈ region.allocated sections := Region.mem_allocated.mpr ⟨hs, halloc, hstarts⟩
    rcases hcounted with ⟨s', hs', hend, hlarge⟩ | ⟨hall, hlimit⟩
    · have hle := endAddress_le_regionUsage hs' hend
      omega
    · rcases hlimit with hlimit | hnil
      · have hle := endAddress_le_regionUsage hmem (hall s hmem)
        rw [Region.endAddress]
        omega
      · rw [hnil] at hmem
        cases hmem

lemma budgetRegion_isSome (hregion : regions.lookup (ramRegionName config) = some region) :
    ∃ budget, budgetRegion regions = some budget := by
  rw [budgetRegion]
  cases hsram : regions.lookup (PyStr.ofString "sram0_0_seg") with
  | some sram => exact ⟨sram, rfl⟩
  | none =>
      unfold ramRegionName at hregion
      split at hregion
      · rw [hsram] at hregion
        cases hregion
      · exact ⟨region, hregion⟩

/-- **When the verdict on the RAM of an image is sound.**  On the C6 it always is.  Elsewhere it is
sound exactly if every section that starts in the region also ends there and the budget is bounded
by the length of that region, unless the image is too large to pass. -/
theorem postlink_ram_sound_iff
    (hregion : regions.lookup (ramRegionName config) = some region) :
    VerdictSound sections regions config region ↔
      isC6 config = true ∨
        ∃ budget, budgetRegion regions = some budget ∧ Counted sections region budget.length := by
  obtain ⟨budget, hbudget⟩ := budgetRegion_isSome hregion
  cases hc6 : isC6 config with
  | true =>
      rw [ramRegionName, hc6] at hregion
      simp [verdictSound_c6 hc6 hregion]
  | false =>
      rw [ramRegionName, hc6] at hregion
      simp [verdictSound_dram_iff hc6 hregion hbudget, hbudget]

/-- A map with 4 KiB of data RAM. -/
def dramRegions : Regions := [("dram0_0_seg", ⟨0x3fc80000, 0x1000⟩)]

/-- An image whose only section in RAM ends in its region. -/
theorem postlink_ram_sound_small :
    VerdictSound [⟨".noinit", 0x3fc80f00, 0x100, 8, 3⟩] dramRegions [] ⟨0x3fc80000, 0x1000⟩ := by
  refine (postlink_ram_sound_iff rfl).mpr (.inr ⟨⟨0x3fc80000, 0x1000⟩, rfl, .inr ⟨?_, ?_⟩⟩)
  · decide
  · exact .inl le_rfl

/-- A section that runs past the end of the region is not counted: the report passes although the
section leaves no room for the reserve, and not even for itself. -/
theorem postlink_ram_passes_overflow :
    Passes (planWith 0x1000 0x400) ⟨[⟨".noinit", 0x3fc80f00, 0x200, 8, 3⟩], dramRegions, [],
      some 0⟩ ∧
      ¬ VerdictSound [⟨".noinit", 0x3fc80f00, 0x200, 8, 3⟩] dramRegions []
        ⟨0x3fc80000, 0x1000⟩ := by
  have hpasses : Passes (planWith 0x1000 0x400)
      ⟨[⟨".noinit", 0x3fc80f00, 0x200, 8, 3⟩], dramRegions, [], some 0⟩ := by
    exact ⟨_, rfl, by decide⟩
  refine ⟨hpasses, fun hsound => ?_⟩
  have hfits := hsound _ _ (by decide) hpasses ⟨".noinit", 0x3fc80f00, 0x200, 8, 3⟩ (by simp)
    (by decide) (by decide)
  exact absurd hfits (by decide)

end Sound

end Ros2Zephyr
