import Mathlib.Data.List.Infix
import Ros2Zephyr.Core.PyStr

/-!
# Sections and memory regions of a linked image

What `tools/verify_resources.py` and `tools/esp32c6_resources.py` know of an ELF file and of the
memory configuration in the linker map.

* `Region` — an entry of the memory configuration.
* `spanEnd` — `max(ends, default=origin)`, the end of what is counted in a region.
* `regionUsage` — the accounting of one region, in which a section counts only if it also ends
  there.
-/

namespace Ros2Zephyr

/-- A section header, as far as the tools read it. -/
structure ElfSection where
  name : PyStr
  address : ℕ
  size : ℕ
  sectionType : ℕ
  flags : ℕ
  deriving DecidableEq

namespace ElfSection

def alloc (s : ElfSection) : Bool := s.flags &&& 0x2 != 0

def writable (s : ElfSection) : Bool := s.flags &&& 0x1 != 0

def executable (s : ElfSection) : Bool := s.flags &&& 0x4 != 0

/-- `"dummy" in name` -/
def isDummy (s : ElfSection) : Bool := decide ("dummy" <:+: s.name)

def occupiesFlash (s : ElfSection) : Bool := s.alloc && s.sectionType != 8 && !s.isDummy

def occupiesRam (s : ElfSection) : Bool := s.alloc && s.writable && !s.executable && !s.isDummy

/-- The address after the last byte. -/
def endAddress (s : ElfSection) : ℕ := s.address + s.size

end ElfSection

/-- A memory region of the linker map. -/
structure Region where
  origin : ℕ
  length : ℕ
  deriving DecidableEq

/-- The regions of a linker map by name. -/
abbrev Regions := List (PyStr × Region)

namespace Region

def endAddress (r : Region) : ℕ := r.origin + r.length

/-- `origin <= address < end` -/
def Starts (r : Region) (s : ElfSection) : Prop := r.origin ≤ s.address ∧ s.address < r.endAddress

instance (r : Region) (s : ElfSection) : Decidable (r.Starts s) :=
  inferInstanceAs (Decidable (_ ∧ _))

/-- The allocated sections that start in the region. -/
def allocated (r : Region) (sections : List ElfSection) : List ElfSection :=
  sections.filter fun s => s.alloc && decide (r.Starts s)

lemma mem_allocated {r : Region} {sections : List ElfSection} {s : ElfSection} :
    s ∈ r.allocated sections ↔ s ∈ sections ∧ s.alloc = true ∧ r.Starts s := by
  simp [allocated]

end Region

section Span

/-- `max((end of each section), default=origin)` -/
def spanEnd (origin : ℕ) (sections : List ElfSection) : ℕ :=
  ((sections.map ElfSection.endAddress).max?).getD origin

variable {origin : ℕ} {sections : List ElfSection}

@[simp] lemma spanEnd_nil : spanEnd origin [] = origin := rfl

/-- The end of some section, or the default where there is none. -/
lemma spanEnd_cases (origin : ℕ) (sections : List ElfSection) :
    (sections = [] ∧ spanEnd origin sections = origin) ∨
      ∃ s ∈ sections, spanEnd origin sections = s.endAddress := by
  rw [spanEnd]
  cases hmax : (sections.map ElfSection.endAddress).max? with
  | none => exact .inl ⟨by simpa using hmax, rfl⟩
  | some n =>
      have hmem := (List.max?_eq_some_iff.mp hmax).1
      obtain ⟨s, hs, rfl⟩ := List.mem_map.mp hmem
      exact .inr ⟨s, hs, rfl⟩

lemma endAddress_le_spanEnd {s : ElfSection} (hs : s ∈ sections) :
    s.endAddress ≤ spanEnd origin sections := by
  rw [spanEnd]
  cases hmax : (sections.map ElfSection.endAddress).max? with
  | none => simp_all
  | some n => exact (List.max?_eq_some_iff.mp hmax).2 _ (List.mem_map_of_mem hs)

lemma origin_le_spanEnd (h : ∀ s ∈ sections, origin ≤ s.address) :
    origin ≤ spanEnd origin sections := by
  rcases spanEnd_cases origin sections with ⟨-, heq⟩ | ⟨s, hs, heq⟩
  · exact heq.ge
  · rw [heq]
    exact (h s hs).trans (Nat.le_add_right _ _)

lemma spanEnd_le_iff {n : ℕ} (horigin : origin ≤ n) :
    spanEnd origin sections ≤ n ↔ ∀ s ∈ sections, s.endAddress ≤ n := by
  constructor
  · intro hle s hs
    exact (endAddress_le_spanEnd hs).trans hle
  · intro h
    rcases spanEnd_cases origin sections with ⟨-, heq⟩ | ⟨s, hs, heq⟩
    · exact heq.trans_le horigin
    · exact heq.trans_le (h s hs)

end Span

/-- `region_usage`. -/
def regionUsage (sections : List ElfSection) (region : Region) : ℕ :=
  spanEnd region.origin
    ((region.allocated sections).filter fun s => decide (s.endAddress ≤ region.endAddress)) -
    region.origin

end Ros2Zephyr
