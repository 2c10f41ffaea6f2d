import Mathlib.Algebra.BigOperators.Group.Finset.Basic
import Mathlib.Order.Interval.Finset.Nat
import Ros2Zephyr.Resources.Postlink

/-!
# What the usage of a region measures

`region_usage` takes a maximum, so it depends on which sections there are and not on their order or
number, and it grows with them.  As a measure of memory it is the span from the origin to the last
byte: sections that share no address fit into it side by side, whatever holes they leave, and
sections at the same addresses take the same part of it.
-/

namespace Ros2Zephyr

/-- The addresses of a section. -/
def ElfSection.addresses (s : ElfSection) : Finset ℕ := Finset.Ico s.address s.endAddress

lemma ElfSection.card_addresses (s : ElfSection) : s.addresses.card = s.size := by
  rw [addresses, Nat.card_Ico, endAddress, Nat.add_sub_cancel_left]

lemma ElfSection.disjoint_addresses {s t : ElfSection}
    (h : s.endAddress ≤ t.address ∨ t.endAddress ≤ s.address) :
    Disjoint s.addresses t.addresses := by
  rw [Finset.disjoint_left]
  intro x hs ht
  rw [addresses, Finset.mem_Ico] at hs ht
  omega

/-- The section lies wholly inside the region. -/
def Region.Holds (r : Region) (s : ElfSection) : Prop :=
  r.origin ≤ s.address ∧ s.endAddress ≤ r.endAddress

/-- What `region_usage` takes the maximum over. -/
def Region.measured (r : Region) (sections : List ElfSection) : List ElfSection :=
  (r.allocated sections).filter fun s => decide (s.endAddress ≤ r.endAddress)

section Usage

variable {sections sections' : List ElfSection} {region : Region}

lemma mem_measured {s : ElfSection} :
    s ∈ region.measured sections ↔
      s ∈ sections ∧ s.alloc = true ∧ region.Starts s ∧ s.endAddress ≤ region.endAddress := by
  simp only [Region.measured, List.mem_filter, Region.mem_allocated, decide_eq_true_eq, and_assoc]

/-- The difference that the code takes is not negative. -/
lemma origin_add_regionUsage (sections : List ElfSection) (region : Region) :
    region.origin + regionUsage sections region
      = spanEnd region.origin (region.measured sections) := by
  have hle : region.origin ≤ spanEnd region.origin (region.measured sections) :=
    origin_le_spanEnd fun s hs => (mem_measured.mp hs).2.2.1.1
  rw [regionUsage, ← Region.measured]
  omega

lemma regionUsage_le_length (sections : List ElfSection) (region : Region) :
    regionUsage sections region ≤ region.length :=
  regionUsage_le_iff.mpr fun _ _ hend => hend

/-- More sections of those that are allocated take no less. -/
lemma regionUsage_mono (h : ∀ s ∈ sections, s.alloc = true → s ∈ sections') :
    regionUsage sections region ≤ regionUsage sections' region := by
  refine regionUsage_le_iff.mpr fun s hs hend => ?_
  obtain ⟨hmem, halloc, hstarts⟩ := Region.mem_allocated.mp hs
  exact endAddress_le_regionUsage
    (Region.mem_allocated.mpr ⟨h s hmem halloc, halloc, hstarts⟩) hend

lemma regionUsage_congr (h : ∀ s, s.alloc = true → (s ∈ sections ↔ s ∈ sections')) :
    regionUsage sections region = regionUsage sections' region :=
  le_antisymm (regionUsage_mono fun s hs halloc => (h s halloc).mp hs)
    (regionUsage_mono fun s hs halloc => (h s halloc).mpr hs)

/-- A byte of an allocated section inside the region is within the span.  A section without bytes
may stand at the very end of the region, where it is not counted. -/
lemma addresses_subset_span {s : ElfSection} (hs : s ∈ sections) (halloc : s.alloc = true)
    (hin : region.Holds s) :
    s.addresses ⊆ Finset.Ico region.origin (region.origin + regionUsage sections region) := by
  intro x hx
  rw [ElfSection.addresses, Finset.mem_Ico] at hx
  have hstarts : region.Starts s := ⟨hin.1, by have hend := hin.2; omega⟩
  have hle := endAddress_le_regionUsage
    (Region.mem_allocated.mpr ⟨hs, halloc, hstarts⟩) hin.2
  rw [Finset.mem_Ico]
  exact ⟨hin.1.trans hx.1, hx.2.trans_le hle⟩

/-- Disjoint sections fit into the span side by side. -/
lemma sum_size_le_regionUsage {family : Finset ElfSection}
    (hfamily : ∀ s ∈ family, s ∈ sections ∧ s.alloc = true ∧ region.Holds s)
    (hdisjoint : (family : Set ElfSection).PairwiseDisjoint ElfSection.addresses) :
    ∑ s ∈ family, s.size ≤ regionUsage sections region := by
  have hsub : family.biUnion ElfSection.addresses
      ⊆ Finset.Ico region.origin (region.origin + regionUsage sections region) := by
    intro x hx
    obtain ⟨s, hs, hx⟩ := Finset.mem_biUnion.mp hx
    obtain ⟨hmem, halloc, hin⟩ := hfamily s hs
    exact addresses_subset_span hmem halloc hin hx
  calc ∑ s ∈ family, s.size
      = ∑ s ∈ family, s.addresses.card :=
        Finset.sum_congr rfl fun s _ => s.card_addresses.symm
    _ = (family.biUnion ElfSection.addresses).card := (Finset.card_biUnion hdisjoint).symm
    _ ≤ (Finset.Ico region.origin (region.origin + regionUsage sections region)).card :=
        Finset.card_le_card hsub
    _ = regionUsage sections region := by rw [Nat.card_Ico, Nat.add_sub_cancel_left]

end Usage

/-- **Region span accounting.**  The usage is the end of the last section counted less the origin,
between zero and the length of the region.  It is the same for two lists with the same members,
does not decrease when a section is added and does not change when the section is not allocated,
and any disjoint allocated sections inside the region fit into it. -/
theorem region_usage_spans (sections : List ElfSection) (region : Region) :
    ((regionUsage sections region : ℤ)
        = spanEnd region.origin (region.measured sections) - region.origin ∧
      regionUsage sections region ≤ region.length) ∧
    (∀ sections', (∀ s, s ∈ sections' ↔ s ∈ sections) →
      regionUsage sections' region = regionUsage sections region) ∧
    (∀ before after s, sections = before ++ after →
      regionUsage sections region ≤ regionUsage (before ++ s :: after) region ∧
        (s.alloc = false →
          regionUsage (before ++ s :: after) region = regionUsage sections region)) ∧
    ∀ family : Finset ElfSection,
      (∀ s ∈ family, s ∈ sections ∧ s.alloc = true ∧
        region.origin ≤ s.address ∧ s.address + s.size ≤ region.origin + region.length) →
      (family : Set ElfSection).PairwiseDisjoint ElfSection.addresses →
      ∑ s ∈ family, s.size ≤ regionUsage sections region := by
  refine ⟨⟨?_, regionUsage_le_length _ _⟩, ?_, ?_, ?_⟩
  · have hspan := origin_add_regionUsage sections region
    omega
  · intro sections' hsame
    exact regionUsage_congr fun s _ => hsame s
  · rintro before after s rfl
    constructor
    · refine regionUsage_mono fun t ht _ => ?_
      rw [List.mem_append, List.mem_cons]
      exact (List.mem_append.mp ht).imp_right .inr
    · intro hfree
      refine regionUsage_congr fun t halloc => ?_
      have hne : t ≠ s := by
        rintro rfl
        rw [hfree] at halloc
        cases halloc
      rw [List.mem_append, List.mem_append, List.mem_cons, or_iff_right hne]
  · intro family hfamily hdisjoint
    exact sum_size_le_regionUsage hfamily hdisjoint

/-- A layout with a hole and an alias: code, a gap, data and two names for one block. -/
def spanSections : List ElfSection :=
  [⟨".text", 0x1000, 0x100, 1, 2⟩, ⟨".data", 0x1200, 0x80, 1, 3⟩, ⟨".bss", 0x1280, 0x80, 8, 3⟩,
    ⟨".alias", 0x1280, 0x80, 8, 3⟩, ⟨".debug", 0x1400, 0x100, 1, 0⟩]

theorem region_usage_spans_hole :
    regionUsage spanSections ⟨0x1000, 0x1000⟩ = 0x300 ∧
      ∑ s ∈ (spanSections.take 3).toFinset, s.size
        ≤ regionUsage spanSections ⟨0x1000, 0x1000⟩ := by
  have hapart : ∀ s ∈ (spanSections.take 3).toFinset, ∀ t ∈ (spanSections.take 3).toFinset,
      s ≠ t → s.endAddress ≤ t.address ∨ t.endAddress ≤ s.address := by decide +kernel
  refine ⟨by decide +kernel, ?_⟩
  refine (region_usage_spans spanSections ⟨0x1000, 0x1000⟩).2.2.2 _ (by decide +kernel) ?_
  intro s hs t ht hne
  exact ElfSection.disjoint_addresses (hapart s hs t ht hne)

end Ros2Zephyr
