import Ros2Zephyr.Core.Fallible
import Ros2Zephyr.Core.PyInt
import Ros2Zephyr.Resources.Postlink

/-!
# The inventory of a C6 image

`inventory` of `tools/esp32c6_resources.py`: the sections are put into the two RAM regions one after
the other, and each region is measured by the end of what was put into it.

* `placeSections` — the loop, which stops at a section that crosses the end of a region.
* `inventory_agrees_iff` — when its figure is the one of `measure_linked`.
-/

namespace Ros2Zephyr

open Fallible

inductive SymbolType
  | notype
  | object
  | func
  | section
  | file
  | common
  | tls
  | other (code : ℕ)
  deriving DecidableEq

/-- A symbol of the image. -/
structure ElfSymbol where
  name : PyStr
  value : ℕ
  size : ℕ
  type : SymbolType
  deriving DecidableEq

/-- `symbols.get(name)` of a dictionary by name: a later symbol replaces an earlier one. -/
def lastSymbol (symbols : List ElfSymbol) (name : PyStr) : Option ElfSymbol :=
  symbols.reverse.find? fun s => s.name == name

def symbolValue (symbols : List ElfSymbol) (name : PyStr) : Option ℕ :=
  (lastSymbol symbols name).map ElfSymbol.value

/-- A RAM region with the sections found in it. -/
structure RamRegion where
  region : Region
  sections : List ElfSection

namespace RamRegion

def linkedSpanBytes (r : RamRegion) : ℕ := spanEnd r.region.origin r.sections - r.region.origin

/-- The body of the loop over the regions. -/
def place (s : ElfSection) (r : RamRegion) : Except PyException RamRegion :=
  if r.region.Starts s then
    if r.region.endAddress < s.endAddress then
      .error (.valueError "Section crosses physical RAM boundary")
    else .ok { r with sections := r.sections ++ [s] }
  else .ok r

end RamRegion

/-- The loop over the sections. -/
def placeSections : List RamRegion → List ElfSection → Except PyException (List RamRegion)
  | regions, [] => .ok regions
  | regions, s :: sections =>
      if !s.alloc || s.size == 0 then placeSections regions sections
      else do
        let regions ← regions.mapM (RamRegion.place s)
        placeSections regions sections

structure TlsSymbols where
  tdataSize : Option ℕ
  tbssSize : Option ℕ
  tdataAlign : Option ℕ
  tbssAlign : Option ℕ
  emulated : Bool

/-- The part of the inventory that the admission and the comparison read. -/
structure Inventory where
  ramRegions : List RamRegion
  linkedRamSpanBytes : ℕ
  malloc : ℤ
  dynamicTail : ℕ
  ramCommittedBytes : ℕ
  imageBytes : ℕ
  tls : TlsSymbols

/-- The types of sections that have symbols: `SHT_SYMTAB`, `SHT_DYNSYM` and `SHT_SUNW_LDYNSYM`. -/
def symbolTableTypes : List ℕ := [2, 11, 0x6ffffff3]

/-- `elf.get_section_by_name(".symtab")` has symbols; of several sections of that name the last one
is taken. -/
def hasSymtab (sections : List ElfSection) : Bool :=
  (sections.reverse.find? (·.name == PyStr.ofString ".symtab")).any
    (·.sectionType ∈ symbolTableTypes)

/-- `elf.get_section_by_name(".symtab").iter_symbols()` -/
def readSymbols (sections : List ElfSection) (symbols : List ElfSymbol) :
    Except PyException (List ElfSymbol) :=
  if hasSymtab sections then .ok symbols else .error .attributeError

/-- The two RAM regions of the map. -/
def c6Regions (regions : Regions) : Except PyException (List RamRegion) :=
  match regions.lookup (PyStr.ofString "sram0_0_seg"),
    regions.lookup (PyStr.ofString "lp_ram_seg") with
  | some sram, some lp => .ok [⟨sram, []⟩, ⟨lp, []⟩]
  | _, _ => .error (.valueError "Unrecognized C6 linker regions")

/-- `int(config.get("CONFIG_COMMON_LIBC_MALLOC_ARENA_SIZE", "0"))` -/
def mallocArena (unicode : PyStr.UnicodeData) (config : List (PyStr × PyStr)) :
    Except PyException ℤ :=
  match PyStr.toInt unicode
    ((config.lookup (PyStr.ofString "CONFIG_COMMON_LIBC_MALLOC_ARENA_SIZE")).getD "0") with
  | some n => .ok n
  | none => .error (.valueError "invalid literal for int() with base 10")

def tlsSymbols (symbols : List ElfSymbol) : TlsSymbols where
  tdataSize := symbolValue symbols "__tdata_size"
  tbssSize := symbolValue symbols "__tbss_size"
  tdataAlign := symbolValue symbols "__tdata_align"
  tbssAlign := symbolValue symbols "__tbss_align"
  emulated := symbols.any fun s => (PyStr.ofString "__emutls").isPrefixOf s.name

/-- `config["CONFIG_BOARD_TARGET"]` -/
def inventoryBoard (config : List (PyStr × PyStr)) : Except PyException PyStr :=
  match config.lookup (PyStr.ofString "CONFIG_BOARD_TARGET") with
  | some target => .ok target
  | none => .error (.keyError "CONFIG_BOARD_TARGET")

/-- `(z / "zephyr.bin").stat().st_size` -/
def binarySize (artifacts : Artifacts) : Except PyException ℕ :=
  match artifacts.binary with
  | some size => .ok size
  | none => .error .fileNotFoundError

/-- `inventory`; `symbols` are the entries of `.symtab`. -/
def inventory (unicode : PyStr.UnicodeData) (artifacts : Artifacts) (symbols : List ElfSymbol) :
    Except PyException Inventory :=
  if !isC6 artifacts.config then .error (.valueError "C6 HP-core only")
  else do
    let regions ← c6Regions artifacts.regions
    let symbols ← readSymbols artifacts.sections symbols
    let ramRegions ← placeSections regions artifacts.sections
    let arena ← mallocArena unicode artifacts.config
    let spans := (ramRegions.map RamRegion.linkedSpanBytes).sum
    let tail := if arena = -1 then
      (symbolValue symbols "_heap_sentry").getD 0 - (symbolValue symbols "_end").getD 0 else 0
    let _ ← inventoryBoard artifacts.config
    let imageBytes ← binarySize artifacts
    .ok {
      ramRegions := ramRegions
      linkedRamSpanBytes := spans
      malloc := arena
      dynamicTail := tail
      ramCommittedBytes := spans + tail
      imageBytes := imageBytes
      tls := tlsSymbols symbols }

section Placed

variable {sections : List ElfSection} {region : Region}

/-- The sections that the inventory counts in a region. -/
def Region.counted (r : Region) (sections : List ElfSection) : List ElfSection :=
  (r.allocated sections).filter fun s => s.size != 0

/-- No allocated section that starts in the region ends behind it. -/
def Region.Contains (r : Region) (sections : List ElfSection) : Prop :=
  ∀ s ∈ r.allocated sections, s.endAddress ≤ r.endAddress

instance (r : Region) (sections : List ElfSection) : Decidable (r.Contains sections) :=
  inferInstanceAs (Decidable (∀ _ ∈ _, _))

lemma Region.counted_cons {s : ElfSection} :
    region.counted (s :: sections) =
      (if s.alloc = true ∧ s.size ≠ 0 ∧ region.Starts s then [s] else []) ++
        region.counted sections := by
  rw [counted, counted, allocated, allocated, List.filter_filter, List.filter_filter,
    List.filter_cons]
  split
  next h =>
    simp only [Bool.and_eq_true, bne_iff_ne, decide_eq_true_eq] at h
    rw [if_pos ⟨h.2.1, h.1, h.2.2⟩, List.singleton_append]
  next h =>
    simp only [Bool.and_eq_true, bne_iff_ne, decide_eq_true_eq] at h
    rw [if_neg fun hall => h ⟨hall.2.1, hall.1, hall.2.2⟩, List.nil_append]

lemma Region.Contains.tail {s : ElfSection} (h : region.Contains (s :: sections)) :
    region.Contains sections := by
  intro t ht
  obtain ⟨hmem, hrest⟩ := mem_allocated.mp ht
  exact h t (mem_allocated.mpr ⟨List.mem_cons_of_mem _ hmem, hrest⟩)

lemma RamRegion.place_eq {s : ElfSection} {r : RamRegion} (halloc : s.alloc = true)
    (h : r.region.Contains (s :: sections)) :
    r.place s =
      .ok { r with sections := r.sections ++ if r.region.Starts s then [s] else [] } := by
  unfold RamRegion.place
  split
  next hstarts =>
    have hend : s.endAddress ≤ r.region.endAddress :=
      h s (Region.mem_allocated.mpr ⟨List.mem_cons_self, halloc, hstarts⟩)
    rw [if_neg hend.not_gt]
  next => rw [List.append_nil]

/-- **What the loop puts into the regions.** -/
lemma placeSections_eq {regions : List RamRegion}
    (h : ∀ r ∈ regions, r.region.Contains sections) :
    placeSections regions sections =
      .ok (regions.map fun r =>
        { r with sections := r.sections ++ r.region.counted sections }) := by
  induction sections generalizing regions with
  | nil => simp [placeSections, Region.counted, Region.allocated]
  | cons s sections ih =>
      rw [placeSections]
      split
      next hskip =>
        have hnot : ¬ (s.alloc = true ∧ s.size ≠ 0) := by
          rintro ⟨halloc, hsize⟩
          simp [halloc, hsize] at hskip
        rw [ih fun r hr => (h r hr).tail]
        simp [Region.counted_cons, ← and_assoc, hnot]
      next hkeep =>
        have hboth : s.alloc = true ∧ s.size ≠ 0 := by simpa using hkeep
        rw [mapM_eq_ok fun r hr => RamRegion.place_eq hboth.1 (h r hr), ok_bind, ih]
        · simp [Region.counted_cons, hboth]
        · intro r hr
          obtain ⟨r', hr', rfl⟩ := List.mem_map.mp hr
          exact (h r' hr').tail

lemma Region.mem_counted {s : ElfSection} :
    s ∈ region.counted sections ↔ s ∈ region.allocated sections ∧ s.size ≠ 0 := by
  simp [counted]

lemma Region.origin_le_of_allocated {s : ElfSection} (hs : s ∈ region.allocated sections) :
    region.origin ≤ s.address :=
  (mem_allocated.mp hs).2.2.1

lemma origin_le_counted (region : Region) (sections : List ElfSection) :
    region.origin ≤ spanEnd region.origin (region.counted sections) :=
  origin_le_spanEnd fun _ hs => Region.origin_le_of_allocated (Region.mem_counted.mp hs).1

/-- The inventory of a region is at most its physical span. -/
lemma spanEnd_counted_le (region : Region) (sections : List ElfSection) :
    spanEnd region.origin (region.counted sections) ≤
      spanEnd region.origin (region.allocated sections) := by
  rw [spanEnd_le_iff (origin_le_spanEnd fun _ hs => Region.origin_le_of_allocated hs)]
  exact fun s hs => endAddress_le_spanEnd (Region.mem_counted.mp hs).1

/-- No empty section of a region lies behind the sections that take up room in it. -/
def Region.EmptiesInside (r : Region) (sections : List ElfSection) : Prop :=
  ∀ s ∈ r.allocated sections, s.size = 0 → s.address = r.origin ∨
    ∃ t ∈ r.allocated sections, t.size ≠ 0 ∧ s.address ≤ t.endAddress

instance (r : Region) (sections : List ElfSection) : Decidable (r.EmptiesInside sections) :=
  inferInstanceAs (Decidable (∀ _ ∈ _, _))

/-- The empty sections do not move the end of the span exactly if each of them lies at the origin or
not behind the end of another section. -/
lemma spanEnd_counted_eq_iff :
    spanEnd region.origin (region.allocated sections) =
        spanEnd region.origin (region.counted sections) ↔ region.EmptiesInside sections := by
  have horigin := origin_le_counted region sections
  rw [le_antisymm_iff, and_iff_left (spanEnd_counted_le region sections), spanEnd_le_iff horigin]
  constructor
  · intro h s hs hsize
    have hend := h s hs
    rw [ElfSection.endAddress, hsize, Nat.add_zero] at hend
    rcases spanEnd_cases region.origin (region.counted sections) with ⟨-, heq⟩ | ⟨t, ht, heq⟩
    · have hstarts := Region.origin_le_of_allocated hs
      exact .inl (by omega)
    · obtain ⟨hmem, hne⟩ := Region.mem_counted.mp ht
      exact .inr ⟨t, hmem, hne, heq ▸ hend⟩
  · intro h s hs
    by_cases hsize : s.size = 0
    · rw [ElfSection.endAddress, hsize, Nat.add_zero]
      rcases h s hs hsize with heq | ⟨t, ht, hne, hend⟩
      · exact heq.trans_le horigin
      · exact hend.trans (endAddress_le_spanEnd (Region.mem_counted.mpr ⟨ht, hne⟩))
    · exact endAddress_le_spanEnd (Region.mem_counted.mpr ⟨hs, hsize⟩)

end Placed

section Agreement

variable {unicode : PyStr.UnicodeData} {artifacts : Artifacts} {sram lp : Region}

lemma staticRamBytes_c6 (hc6 : isC6 artifacts.config = true)
    (hsram : artifacts.regions.lookup (PyStr.ofString "sram0_0_seg") = some sram)
    (hlp : artifacts.regions.lookup (PyStr.ofString "lp_ram_seg") = some lp) :
    staticRamBytes artifacts =
      physicalSpan artifacts.sections sram + physicalSpan artifacts.sections lp := by
  simp [staticRamBytes, hc6, hsram, c6RamBytes, c6RegionNames, hlp]

/-- What the inventory needs besides the regions: the symbols, an integer for the size of the malloc
arena, the name of the board and `zephyr.bin`. -/
structure CompleteImage (unicode : PyStr.UnicodeData) (artifacts : Artifacts) : Prop where
  symtab : hasSymtab artifacts.sections = true
  arena : ∃ arena, mallocArena unicode artifacts.config = .ok arena
  board : ∃ target, inventoryBoard artifacts.config = .ok target
  binary : ∃ size, binarySize artifacts = .ok size

/-- The inventory of an image whose sections do not cross the ends of the regions. -/
lemma inventory_eq (symbols : List ElfSymbol) (hc6 : isC6 artifacts.config = true)
    (hsram : artifacts.regions.lookup (PyStr.ofString "sram0_0_seg") = some sram)
    (hlp : artifacts.regions.lookup (PyStr.ofString "lp_ram_seg") = some lp)
    (hcontains : sram.Contains artifacts.sections ∧ lp.Contains artifacts.sections) :
    ((∃ inv, inventory unicode artifacts symbols = .ok inv) ↔ CompleteImage unicode artifacts) ∧
      ∀ inv, inventory unicode artifacts symbols = .ok inv →
        inv.linkedRamSpanBytes =
          spanEnd sram.origin (sram.counted artifacts.sections) - sram.origin +
            (spanEnd lp.origin (lp.counted artifacts.sections) - lp.origin) := by
  have hregions : c6Regions artifacts.regions = .ok [⟨sram, []⟩, ⟨lp, []⟩] := by
    rw [c6Regions, hsram, hlp]
  have hplaced : placeSections [⟨sram, []⟩, ⟨lp, []⟩] artifacts.sections =
      .ok [⟨sram, sram.counted artifacts.sections⟩, ⟨lp, lp.counted artifacts.sections⟩] := by
    rw [placeSections_eq]
    · rfl
    · simpa using hcontains
  have hspans : ∀ inv, inventory unicode artifacts symbols = .ok inv →
      CompleteImage unicode artifacts ∧
      inv.linkedRamSpanBytes =
        spanEnd sram.origin (sram.counted artifacts.sections) - sram.origin +
          (spanEnd lp.origin (lp.counted artifacts.sections) - lp.origin) := by
    intro inv hinv
    rw [inventory, hc6, Bool.not_true, if_neg Bool.false_ne_true, hregions, ok_bind] at hinv
    obtain ⟨table, htable, hinv⟩ := bind_eq_ok.mp hinv
    rw [hplaced, ok_bind] at hinv
    obtain ⟨arena, harena, hinv⟩ := bind_eq_ok.mp hinv
    obtain ⟨target, htarget, hinv⟩ := bind_eq_ok.mp hinv
    obtain ⟨size, hsize, hinv⟩ := bind_eq_ok.mp hinv
    cases hinv
    refine ⟨⟨?_, ⟨arena, harena⟩, ⟨target, htarget⟩, ⟨size, hsize⟩⟩, ?_⟩
    · by_contra hnone
      rw [readSymbols, if_neg hnone] at htable
      cases htable
    · simp [RamRegion.linkedSpanBytes]
  refine ⟨?_, fun inv hinv => (hspans inv hinv).2⟩
  constructor
  · rintro ⟨inv, hinv⟩
    exact (hspans inv hinv).1
  · rintro ⟨hsymtab, ⟨arena, harena⟩, ⟨target, htarget⟩, ⟨size, hsize⟩⟩
    rw [inventory, hc6, Bool.not_true, if_neg Bool.false_ne_true, hregions, ok_bind, readSymbols,
      if_pos hsymtab, ok_bind, hplaced, ok_bind, harena, ok_bind, htarget, ok_bind, hsize, ok_bind]
    exact ⟨_, rfl⟩

/-- **When the two accountings of a C6 image agree.**  The inventory comes to a figure exactly if
the image is complete.  It skips empty sections; they make a difference exactly if one of them lies
behind everything else in its region. -/
theorem inventory_agrees_iff (unicode : PyStr.UnicodeData) (symbols : List ElfSymbol)
    (hc6 : isC6 artifacts.config = true)
    (hsram : artifacts.regions.lookup (PyStr.ofString "sram0_0_seg") = some sram)
    (hlp : artifacts.regions.lookup (PyStr.ofString "lp_ram_seg") = some lp)
    (hcontains : sram.Contains artifacts.sections ∧ lp.Contains artifacts.sections) :
    ((∃ inv, inventory unicode artifacts symbols = .ok inv) ↔ CompleteImage unicode artifacts) ∧
      ∀ inv, inventory unicode artifacts symbols = .ok inv →
        (staticRamBytes artifacts = inv.linkedRamSpanBytes ↔
          sram.EmptiesInside artifacts.sections ∧ lp.EmptiesInside artifacts.sections) := by
  obtain ⟨hok, hspans⟩ := inventory_eq symbols hc6 hsram hlp hcontains
  refine ⟨hok, fun inv hinv => ?_⟩
  rw [hspans inv hinv, staticRamBytes_c6 hc6 hsram hlp, physicalSpan, physicalSpan,
    ← spanEnd_counted_eq_iff, ← spanEnd_counted_eq_iff]
  have hsramOrigin := origin_le_counted sram artifacts.sections
  have hlpOrigin := origin_le_counted lp artifacts.sections
  have hsramLe := spanEnd_counted_le sram artifacts.sections
  have hlpLe := spanEnd_counted_le lp artifacts.sections
  omega

/-- A C6 image with the given sections and a table of symbols. -/
def c6Image (sections : List ElfSection) : Artifacts where
  sections := sections ++ [⟨".symtab", 0, 0x400, 2, 0⟩]
  regions := [("sram0_0_seg", ⟨0x40800000, 0x70000⟩), ("lp_ram_seg", ⟨0x50000000, 0x4000⟩)]
  config := [("CONFIG_SOC_ESP32C6_HPCORE", "y"),
    ("CONFIG_BOARD_TARGET", "\"esp32c6_devkitc/esp32c6/hpcore\"")]
  binary := some 0x1000

/-- Code, a hole and data. -/
def holeImage : Artifacts :=
  c6Image [⟨".text", 0x40800000, 0x100, 1, 6⟩, ⟨".data", 0x40800200, 0x80, 1, 3⟩]

/-- Both tools count the hole. -/
theorem inventory_agrees_hole :
    ∃ inv, inventory PyStr.asciiOnly holeImage [] = .ok inv ∧
      staticRamBytes holeImage = inv.linkedRamSpanBytes ∧ staticRamBytes holeImage = 0x280 := by
  have hsram : holeImage.regions.lookup (PyStr.ofString "sram0_0_seg") =
      some ⟨0x40800000, 0x70000⟩ := rfl
  have hlp : holeImage.regions.lookup (PyStr.ofString "lp_ram_seg") =
      some ⟨0x50000000, 0x4000⟩ := rfl
  obtain ⟨hok, hagrees⟩ :=
    inventory_agrees_iff PyStr.asciiOnly [] rfl hsram hlp ⟨by decide, by decide⟩
  obtain ⟨inv, hinv⟩ := hok.mpr ⟨by decide, ⟨0, rfl⟩, ⟨_, rfl⟩, ⟨_, rfl⟩⟩
  exact ⟨inv, hinv, (hagrees inv hinv).mpr ⟨by decide, by decide⟩, by decide⟩

/-- An empty section behind the data: `measure_linked` counts up to it, the inventory does not. -/
theorem inventory_disagrees_empty :
    ∃ inv, inventory PyStr.asciiOnly
        (c6Image [⟨".data", 0x40800000, 0x100, 1, 3⟩, ⟨".empty", 0x40800800, 0, 1, 3⟩]) [] =
        .ok inv ∧ inv.linkedRamSpanBytes = 0x100 ∧
      staticRamBytes (c6Image
        [⟨".data", 0x40800000, 0x100, 1, 3⟩, ⟨".empty", 0x40800800, 0, 1, 3⟩]) = 0x800 :=
  ⟨_, rfl, rfl, rfl⟩

end Agreement

end Ros2Zephyr
