import Mathlib.Data.List.Basic
import Ros2Zephyr.Core.Fallible
import Ros2Zephyr.Core.PyStruct
import Ros2Zephyr.Core.Utf8
import Ros2Zephyr.Resources.Plan
import Ros2Zephyr.Resources.Sections

/-!
# The section table of an ELF file

`parse_elf_sections` of `tools/verify_resources.py`, on the bytes of the file, and the format it
reads.  An ELF header names the section table by its offset, the size of an entry and their number;
the name of a section is an offset into the contents of one of the sections.

* `parseElfSections` — the parser, with the positions in the unpacked tuples as the code has them.
* `ElfImage.EncodedIn` — the bytes contain the image: the records stand where the header says, and
  nothing is said about the rest of the file, so that tables and names may overlap as they like.
* `parse_encoded` — the parser returns the sections of every image, in all four layouts.
-/

namespace Ros2Zephyr

open Fallible StructField

inductive ElfClass
  | class32
  | class64
  deriving DecidableEq

namespace ElfClass

def code : ElfClass → UInt8
  | class32 => 1
  | class64 => 2

/-- `16sHHIIIIIHHHHHH` and `16sHHIQQQIHHHHHH` -/
def headerFormat : ElfClass → List StructField
  | class32 => [s 16, H, H, I, I, I, I, I, H, H, H, H, H, H]
  | class64 => [s 16, H, H, I, Q, Q, Q, I, H, H, H, H, H, H]

/-- `IIIIIIIIII` and `IIQQQQIIQQ` -/
def sectionFormat : ElfClass → List StructField
  | class32 => [I, I, I, I, I, I, I, I, I, I]
  | class64 => [I, I, Q, Q, Q, Q, I, I, Q, Q]

end ElfClass

def orderCode : ByteOrder → UInt8
  | .little => 1
  | .big => 2

/-! ## The parser

The positions in the unpacked tuples are those of the source; the formats are parallel, so the same
positions serve both classes.
-/

/-- `values[index]` where the format has an integer there. -/
def intAt (values : List StructValue) (index : ℕ) : ℕ :=
  match values[index]? with
  | some (.int n) => n
  | _ => 0

def byteAt (data : List UInt8) (index : ℕ) : Except PyException UInt8 :=
  match data[index]? with
  | some b => .ok b
  | none => .error .indexError

def raiseStruct {α : Type} : Except StructFailure α → Except PyException α
  | .ok a => .ok a
  | .error .tooShort => .error .structError
  | .error .overflow => .error .overflowError

/-- `names.find(b"\0", offset)` -/
def findNul (names : List UInt8) (offset : ℕ) : Option ℕ :=
  ((names.drop offset).findIdx? (· == 0)).map (offset + ·)

def sectionName (names : List UInt8) (offset : ℕ) : PyStr :=
  let stop := (findNul names offset).getD names.length
  PyStr.utf8Decode ((names.take stop).drop offset)

/-- The section of an unpacked section header. -/
def elfSection (names : List UInt8) (item : List StructValue) : ElfSection :=
  { name := sectionName names (intAt item 0), address := intAt item 3, size := intAt item 5
    sectionType := intAt item 1, flags := intAt item 2 }

/-- `parse_elf_sections` once the class and the byte order are known. -/
def parseSectionTable (path : PyStr) (layout : ElfClass) (order : ByteOrder) (data : List UInt8) :
    Except PyException (List ElfSection) := do
  let header ← raiseStruct (unpackFrom order layout.headerFormat data 0)
  let sectionOffset := intAt header 6
  let entrySize := intAt header 11
  let count := intAt header 12
  let namesIndex := intAt header 13
  if count = 0 ∨ count ≤ namesIndex then
    rejectResource "E_RESOURCE_ARTIFACT" (path ++ " has no supported section table")
  let raw ← (List.range count).mapM fun index =>
    raiseStruct (unpackFrom order layout.sectionFormat data (sectionOffset + index * entrySize))
  let namesHeader := raw.getD namesIndex []
  let names := (data.drop (intAt namesHeader 4)).take (intAt namesHeader 5)
  .ok (raw.map (elfSection names))

/-- `parse_elf_sections`; `contents` is what `path.read_bytes()` gives, or the text of its
`OSError`. -/
def parseElfSections (path : PyStr) (contents : Except PyStr (List UInt8)) :
    Except PyException (List ElfSection) := do
  let data ← match contents with
    | .ok data => .ok data
    | .error error =>
        rejectResource "E_RESOURCE_ARTIFACT"
          ("cannot read " ++ path ++ ": " ++ error)
  if data.take 4 ≠ [0x7f, 0x45, 0x4c, 0x46] then
    rejectResource "E_RESOURCE_ARTIFACT" (path ++ " is not an ELF file")
  let elfClass ← byteAt data 4
  let byteOrder ← byteAt data 5
  let endian : Option ByteOrder :=
    if byteOrder = 1 then some .little else if byteOrder = 2 then some .big else none
  let layout : Option ElfClass :=
    if elfClass = 1 then some .class32 else if elfClass = 2 then some .class64 else none
  match layout, endian with
  | some layout, some order => parseSectionTable path layout order data
  | _, _ =>
      rejectResource "E_RESOURCE_ARTIFACT" (path ++ " has an unsupported ELF format")

/-! ## The format

The description of the file comes from the ELF format and not from the parser.  It says where the
records are and what they hold.
-/

/-- The fields of a section header. -/
structure SectionHeader where
  name : ℕ
  type : ℕ
  flags : ℕ
  address : ℕ
  offset : ℕ
  size : ℕ
  link : ℕ
  info : ℕ
  addressAlign : ℕ
  entrySize : ℕ

def SectionHeader.values (h : SectionHeader) : List StructValue :=
  [.int h.name, .int h.type, .int h.flags, .int h.address, .int h.offset, .int h.size, .int h.link,
    .int h.info, .int h.addressAlign, .int h.entrySize]

/-- The fields of the ELF header; `ident` is what follows the class and the byte order in
`e_ident`. -/
structure ElfHeader where
  ident : List UInt8
  type : ℕ
  machine : ℕ
  version : ℕ
  entry : ℕ
  programOffset : ℕ
  sectionOffset : ℕ
  flags : ℕ
  headerSize : ℕ
  programEntrySize : ℕ
  programCount : ℕ
  sectionEntrySize : ℕ
  sectionCount : ℕ
  namesIndex : ℕ

def ElfHeader.values (layout : ElfClass) (order : ByteOrder) (h : ElfHeader) : List StructValue :=
  [.bytes ([0x7f, 0x45, 0x4c, 0x46, layout.code, orderCode order] ++ h.ident), .int h.type,
    .int h.machine, .int h.version, .int h.entry, .int h.programOffset, .int h.sectionOffset,
    .int h.flags, .int h.headerSize, .int h.programEntrySize, .int h.programCount,
    .int h.sectionEntrySize, .int h.sectionCount, .int h.namesIndex]

/-- A section with its name. -/
structure NamedSection where
  name : String
  header : SectionHeader

/-- The section as the tools see it. -/
def NamedSection.decoded (s : NamedSection) : ElfSection :=
  { name := s.name.toList.map Char.toNat, address := s.header.address, size := s.header.size
    sectionType := s.header.type, flags := s.header.flags }

structure ElfImage where
  header : ElfHeader
  sections : List NamedSection

/-- The name as it stands in a string table. -/
def nulTerminated (name : String) : List UInt8 := name.toList.flatMap String.utf8EncodeChar ++ [0]

/-- **The file contains the image.** -/
structure ElfImage.EncodedIn (image : ElfImage) (layout : ElfClass) (order : ByteOrder)
    (data : List UInt8) : Prop where
  header : List.Forall₂ Admits layout.headerFormat (image.header.values layout order)
  headerAt : pack order layout.headerFormat (image.header.values layout order) <+: data
  count : image.header.sectionCount = image.sections.length
  counted : 1 ≤ image.sections.length ∧ image.sections.length < 65280
  entrySize : calcsize layout.sectionFormat ≤ image.header.sectionEntrySize
  sections : ∀ s ∈ image.sections, List.Forall₂ Admits layout.sectionFormat s.header.values
  sectionsAt : ∀ index s, image.sections[index]? = some s →
    pack order layout.sectionFormat s.header.values <+:
      data.drop (image.header.sectionOffset + index * image.header.sectionEntrySize)
  /-- the string table is one of the sections, and has every name at the section's offset -/
  names : ∃ table, image.sections[image.header.namesIndex]? = some table ∧
    table.header.offset + table.header.size ≤ data.length ∧
    ∀ s ∈ image.sections, '\x00' ∉ s.name.toList ∧
      nulTerminated s.name <+:
        ((data.drop table.header.offset).take table.header.size).drop s.header.name

/-! ## Names

A name ends at the first zero byte behind its offset.  No character but U+0000 has a zero in its
encoding, so that byte is the end of the name.
-/

/-- Only U+0000 is encoded with a zero byte. -/
lemma zero_notMem_utf8EncodeChar {c : Char} (h : c ≠ '\x00') : 0 ∉ String.utf8EncodeChar c := by
  have hpos : c.val.toNat ≠ 0 := by
    intro hzero
    exact h (Char.ext (UInt32.toNat_inj.mp hzero))
  have hbyte : ∀ n : ℕ, 0 < n → n < 256 → (0 : UInt8) ≠ UInt8.ofNat n := by
    intro n hn hlt heq
    have hval := congrArg UInt8.toNat heq
    simp only [UInt8.toNat_zero, UInt8.toNat_ofNat'] at hval
    omega
  simp only [String.utf8EncodeChar]
  generalize c.val.toNat = v at hpos ⊢
  split_ifs with h₁ h₂ h₃ <;>
    simp only [List.mem_cons, List.not_mem_nil, or_false, not_or] <;>
    and_intros <;> exact hbyte _ (by omega) (by omega)

lemma zero_notMem_encoded {text : List Char} (h : '\x00' ∉ text) :
    0 ∉ text.flatMap String.utf8EncodeChar := by
  rw [List.mem_flatMap]
  rintro ⟨c, hc, hzero⟩
  exact zero_notMem_utf8EncodeChar (fun heq => h (heq ▸ hc)) hzero

lemma findNul_append {names bytes rest : List UInt8} {offset : ℕ} (h : 0 ∉ bytes)
    (hat : names.drop offset = bytes ++ 0 :: rest) :
    findNul names offset = some (offset + bytes.length) := by
  have hfind : (bytes ++ 0 :: rest).findIdx? (· == 0) = some bytes.length := by
    rw [List.findIdx?_append, List.findIdx?_eq_none_iff.mpr]
    · simp [List.findIdx?_cons]
    · intro b hb
      simp only [beq_eq_false_iff_ne]
      exact fun heq => h (heq ▸ hb)
  rw [findNul, hat, hfind, Option.map_some]

/-- A name is read from wherever it stands in the string table. -/
lemma sectionName_terminated {names : List UInt8} {offset : ℕ} {name : String}
    (h : '\x00' ∉ name.toList) (hat : nulTerminated name <+: names.drop offset) :
    sectionName names offset = name.toList.map Char.toNat := by
  obtain ⟨rest, hrest⟩ := hat
  have hdrop : names.drop offset = name.toList.flatMap String.utf8EncodeChar ++ 0 :: rest := by
    rw [← hrest, nulTerminated, List.append_assoc, List.singleton_append]
  rw [sectionName, findNul_append (zero_notMem_encoded h) hdrop]
  simp only [Option.getD_some]
  rw [List.drop_take, Nat.add_sub_cancel_left, hdrop, List.take_left]
  exact PyStr.utf8Decode_encode name.toList

/-! ## Reading an image

The parser is run on a file that contains the image: first the identification, then the header, then
the entries, and last the names.
-/

namespace ElfImage

variable {image : ElfImage} {layout : ElfClass} {order : ByteOrder} {data : List UInt8}

lemma EncodedIn.start (h : image.EncodedIn layout order data) :
    ∃ rest, data = [0x7f, 0x45, 0x4c, 0x46, layout.code, orderCode order] ++ rest := by
  obtain ⟨rest, hrest⟩ := h.headerAt
  cases layout <;>
    simp only [ElfClass.headerFormat, ElfHeader.values, pack, write, List.append_assoc] at hrest <;>
    exact ⟨_, hrest.symm⟩

/-- The class and the byte order are taken from the identification. -/
lemma EncodedIn.dispatch (path : PyStr) (h : image.EncodedIn layout order data) :
    parseElfSections path (.ok data) = parseSectionTable path layout order data := by
  obtain ⟨rest, rfl⟩ := h.start
  cases layout <;> cases order <;> rfl

lemma EncodedIn.readHeader (h : image.EncodedIn layout order data) :
    unpackFrom order layout.headerFormat data 0 = .ok (image.header.values layout order) := by
  refine unpackFrom_pack h.header ?_ ?_
  · rw [List.drop_zero]
    exact h.headerAt
  · cases layout <;> decide

/-- Every entry of the table is unpacked from its place. -/
lemma EncodedIn.readSections (h : image.EncodedIn layout order data) :
    ((List.range image.header.sectionCount).mapM fun index =>
        raiseStruct (unpackFrom order layout.sectionFormat data
          (image.header.sectionOffset + index * image.header.sectionEntrySize)))
      = .ok (image.sections.map fun s => s.header.values) := by
  have hrow : ∀ index ∈ List.range image.header.sectionCount,
      raiseStruct (unpackFrom order layout.sectionFormat data
          (image.header.sectionOffset + index * image.header.sectionEntrySize))
        = .ok ((image.sections.map fun s => s.header.values).getD index []) := by
    intro index hindex
    rw [h.count, List.mem_range] at hindex
    have hget := List.getElem?_eq_getElem hindex
    rw [unpackFrom_pack (h.sections _ (List.getElem_mem hindex)) (h.sectionsAt index _ hget)
      (by cases layout <;> decide)]
    simp [raiseStruct, hindex]
  rw [mapM_eq_ok hrow]
  congr 1
  apply List.ext_getElem
  · simp [h.count]
  · intro index hleft hright
    simp at hright
    simp [hright]

/-- **Decoding the section table.**  From every file that contains the image, whatever the layout,
the size of the entries and the places of the tables, its sections are read in order, each with its
name, address, size, type and flags. -/
theorem parse_encoded (path : PyStr) (h : image.EncodedIn layout order data) :
    parseElfSections path (.ok data) = .ok (image.sections.map NamedSection.decoded) := by
  obtain ⟨table, htable, -, hnames⟩ := h.names
  have htableAt : ((image.sections.map fun s => s.header.values).getD image.header.namesIndex [])
      = table.header.values := by
    simp [List.getD_eq_getElem?_getD, htable]
  have hindex : ¬ (image.header.sectionCount = 0
      ∨ image.header.sectionCount ≤ image.header.namesIndex) := by
    have hlt := (List.getElem?_eq_some_iff.mp htable).1
    rw [h.count]
    omega
  have hnamed : ∀ s ∈ image.sections,
      sectionName ((data.drop table.header.offset).take table.header.size) s.header.name
        = s.name.toList.map Char.toNat :=
    fun s hs => sectionName_terminated (hnames s hs).1 (hnames s hs).2
  have hitems : (image.sections.map fun s => s.header.values).map
        (elfSection ((data.drop table.header.offset).take table.header.size))
      = image.sections.map NamedSection.decoded := by
    rw [List.map_map]
    refine List.map_congr_left fun s hs => ?_
    rw [NamedSection.decoded, ← hnamed s hs]
    rfl
  calc parseElfSections path (.ok data)
      = parseSectionTable path layout order data := h.dispatch path
    _ = ((List.range image.header.sectionCount).mapM fun index =>
          raiseStruct (unpackFrom order layout.sectionFormat data
            (image.header.sectionOffset + index * image.header.sectionEntrySize))) >>= fun raw =>
          let namesHeader := raw.getD image.header.namesIndex []
          .ok (raw.map (elfSection
            ((data.drop (intAt namesHeader 4)).take (intAt namesHeader 5)))) := by
        rw [parseSectionTable, h.readHeader]
        exact if_neg hindex
    _ = .ok (image.sections.map NamedSection.decoded) := by
        rw [h.readSections, ← hitems]
        simp only [bind, Except.bind, htableAt]
        rfl

/-- A big-endian file with wide entries, whose two names share their bytes. -/
def sharedNames : ElfImage where
  header :=
    { ident := List.replicate 10 0, type := 2, machine := 40, version := 1, entry := 0
      programOffset := 0, sectionOffset := 52, flags := 0, headerSize := 52, programEntrySize := 0
      programCount := 0, sectionEntrySize := 44, sectionCount := 2, namesIndex := 1 }
  sections :=
    [⟨".bss", { name := 0, type := 8, flags := 3, address := 0x20000000, offset := 0, size := 64
                link := 0, info := 0, addressAlign := 4, entrySize := 0 }⟩,
      ⟨"bss", { name := 1, type := 3, flags := 0, address := 0, offset := 140, size := 5, link := 0
                info := 0, addressAlign := 1, entrySize := 0 }⟩]

def sharedNamesFile : List UInt8 :=
  pack .big ElfClass.class32.headerFormat (sharedNames.header.values .class32 .big)
    ++ sharedNames.sections.flatMap (fun s =>
      pack .big ElfClass.class32.sectionFormat s.header.values ++ [0, 0, 0, 0])
    ++ nulTerminated ".bss"

/-- The file contains the image: the two names overlap, and the entries are wider than their fields.
-/
lemma sharedNames_encodedIn : sharedNames.EncodedIn .class32 .big sharedNamesFile where
  header := by decide
  headerAt := by decide +kernel
  count := rfl
  counted := by decide
  entrySize := by decide
  sections := by decide
  sectionsAt
    | 0, _, h => by
        cases h
        decide +kernel
    | 1, _, h => by
        cases h
        decide +kernel
  names := ⟨_, rfl, by decide +kernel, by decide +kernel⟩

theorem parse_sharedNames :
    sharedNames.EncodedIn .class32 .big sharedNamesFile ∧
      parseElfSections "zephyr.elf" (.ok sharedNamesFile)
        = .ok (sharedNames.sections.map NamedSection.decoded) :=
  ⟨sharedNames_encodedIn, parse_encoded "zephyr.elf" sharedNames_encodedIn⟩

end ElfImage

end Ros2Zephyr
