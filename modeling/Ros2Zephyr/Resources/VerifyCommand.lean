import Ros2Zephyr.Resources.Elf
import Ros2Zephyr.Resources.Postlink

/-!
# The verify command on an arbitrary file

`main` of `tools/verify_resources.py` turns a `ResourceError` into a diagnostic and status 2, and
lets every other exception through.  The parser of the section table refuses what it recognises as
unsupported with such an error, but it reads the identification, the header and the section headers
without comparing their places with the length of the file.

* `Complete` — the file is long enough for everything the parser reads.
* `parseSectionTable_outcome`, `parseElfSections_outcome` — the three ways in which the parser ends.
* `mainVerify` — the command, with the order in which it reads its inputs.
-/

namespace Ros2Zephyr

open Fallible StructField

section Command

/-- What the verify command reads. -/
structure VerifyInputs where
  /-- `load_json(args.resource_plan)` -/
  plan : Except PyException ResourcePlan
  /-- the artifacts of the build directory that are not files -/
  missing : List PyStr
  elfPath : PyStr
  /-- `elf_path.read_bytes()`, or the text of its `OSError` -/
  elf : Except PyStr (List UInt8)
  /-- the regions of the map, the configuration and the size of `zephyr.bin`, read after the
  sections -/
  others : Except PyException (Regions × List (PyStr × PyStr) × Option ℕ)
  /-- `parse_runtime_log(args.runtime_log)`, whose result no check uses -/
  runtimeLog : Except PyException Unit

/-- How a command ends: with a status and what it wrote to `stderr`, or with a traceback. -/
inductive CommandEnd
  | returns (status : ℕ) (stderr : PyStr)
  | raises (exception : PyException)
  deriving DecidableEq

/-- What `measure_linked` reads, with its checks. -/
def readArtifacts (inputs : VerifyInputs) : Except PyException Artifacts := do
  if inputs.missing ≠ [] then
    rejectResource "E_RESOURCE_ARTIFACT"
      ("missing required post-link artifacts: " ++
        List.intercalate ", " inputs.missing)
  let sections ← parseElfSections inputs.elfPath inputs.elf
  let (regions, config, binary) ← inputs.others
  .ok { sections := sections, regions := regions, config := config, binary := binary }

def postlinkReport (inputs : VerifyInputs) : Except PyException Report := do
  let plan ← inputs.plan
  let artifacts ← readArtifacts inputs
  let _ ← inputs.runtimeLog
  buildPostlinkReport plan (measureLinked artifacts)

/-- `first_failed` -/
def firstFailed (report : Report) : Option Check := report.checks.find? fun c => c.status == .fail

/-- `f"{failed['code']}: {failed['detail']}: required=… available=…"` -/
def failedText (failed : Check) : PyStr :=
  failed.code ++ ": " ++ failed.detail ++ ": required=" ++
    failed.required.text ++ " available=" ++
    (failed.available.map PyInteger.text).getD "None"

/-- `f"{error.code}: {error}"` -/
def errorText (code message : PyStr) : PyStr := code ++ ": " ++ message

/-- `main` with the command `verify`. -/
def mainVerify (inputs : VerifyInputs) : CommandEnd :=
  match postlinkReport inputs with
  | .ok report =>
      match firstFailed report with
      | some failed => .returns 2 (failedText failed)
      | none => .returns 0 []
  | .error (.resourceError code message) => .returns 2 (errorText code message)
  | .error exception => .raises exception

end Command

section Outcome

/-- The class and the byte order that the identification names. -/
def identified (data : List UInt8) : Option (ElfClass × ByteOrder) :=
  match data[4]?, data[5]? with
  | some elfClass, some byteOrder =>
      (if elfClass = 1 then some .class32 else if elfClass = 2 then some .class64 else none).bind
        fun layout =>
          (if byteOrder = 1 then some .little else if byteOrder = 2 then some .big else none).map
            fun order => (layout, order)
  | _, _ => none

/-- The values of the header that the file starts with. -/
def headerValues (layout : ElfClass) (order : ByteOrder) (data : List UInt8) : List StructValue :=
  unpack order layout.headerFormat data

/-- The number of sections stated in the header. -/
def statedCount (data : List UInt8) : ℕ :=
  match identified data with
  | some (layout, order) => intAt (headerValues layout order data) 12
  | none => 0

/-- Every header of the section table stands within the file. -/
def TableWithin (layout : ElfClass) (order : ByteOrder) (data : List UInt8) : Prop :=
  ∀ index < intAt (headerValues layout order data) 12,
    intAt (headerValues layout order data) 6 + index * intAt (headerValues layout order data) 11 +
      calcsize layout.sectionFormat ≤ data.length

/-- **Nothing that the parser reads is cut off.**  A file with the magic number has the two bytes
that identify its layout; one with a supported layout has the whole header; and one whose header
names a section table with a string table in it has the whole table. -/
structure Complete (data : List UInt8) : Prop where
  identification : data.take 4 = [0x7f, 0x45, 0x4c, 0x46] → 6 ≤ data.length
  header : data.take 4 = [0x7f, 0x45, 0x4c, 0x46] → ∀ layout order,
    identified data = some (layout, order) → calcsize layout.headerFormat ≤ data.length
  table : data.take 4 = [0x7f, 0x45, 0x4c, 0x46] → ∀ layout order,
    identified data = some (layout, order) →
    intAt (headerValues layout order data) 13 < intAt (headerValues layout order data) 12 →
    TableWithin layout order data

/-- The error that the parser declares. -/
def DeclaredError (exception : PyException) : Prop :=
  ∃ message, exception = .resourceError "E_RESOURCE_ARTIFACT" message

/-- The exceptions that `main` lets through. -/
def Escapes (exception : PyException) : Prop :=
  ∀ code message, exception ≠ .resourceError code message

variable {path : PyStr} {data : List UInt8} {layout : ElfClass} {order : ByteOrder}

lemma raiseStruct_escapes {α : Type} {x : Except StructFailure α} {e : PyException}
    (h : raiseStruct x = .error e) : Escapes e := by
  rintro code message rfl
  cases x with
  | ok a => cases h
  | error failure => cases failure <;> cases h

/-- A record is read when it stands within the file. -/
lemma raiseStruct_unpackFrom_isOk {format : List StructField} {offset : ℕ} :
    (∃ values, raiseStruct (unpackFrom order format data offset) = .ok values) ↔
      offset + calcsize format ≤ data.length := by
  rw [unpackFrom]
  split_ifs with hfits hfar
  · exact ⟨fun _ => hfits, fun _ => ⟨_, rfl⟩⟩
  · refine iff_of_false ?_ hfits
    rintro ⟨values, h⟩
    cases h
  · refine iff_of_false ?_ hfits
    rintro ⟨values, h⟩
    cases h

/-- The end of a computation: a result of the right kind or a declared error when `C` holds, and
an exception that escapes when it does not. -/
def EndsProperly {α : Type} (x : Except PyException α) (P : α → Prop) (C : Prop) : Prop :=
  match x with
  | .ok a => P a ∧ C
  | .error e => DeclaredError e ∧ C ∨ Escapes e ∧ ¬ C

lemma endsProperly_reject {α : Type} {P : α → Prop} {C : Prop} (message : PyStr) (h : C) :
    EndsProperly (rejectResource "E_RESOURCE_ARTIFACT" message) P C :=
  .inl ⟨⟨message, rfl⟩, h⟩

/-- The section headers, read one after the other. -/
lemma readTable_outcome {format : List StructField} {count start stride : ℕ}
    {f : List (List StructValue) → List ElfSection} (hf : ∀ raw, (f raw).length = raw.length) :
    EndsProperly
      (((List.range count).mapM fun index =>
          raiseStruct (unpackFrom order format data (start + index * stride))) >>= fun raw =>
        .ok (f raw))
      (fun sections => sections.length = count)
      (∀ index < count, start + index * stride + calcsize format ≤ data.length) := by
  cases hraw : (List.range count).mapM fun index =>
      raiseStruct (unpackFrom order format data (start + index * stride)) with
  | ok raw =>
      refine ⟨?_, fun index hindex => ?_⟩
      · show (f raw).length = count
        rw [hf, length_of_mapM hraw, List.length_range]
      · obtain ⟨values, -, hvalues⟩ := exists_mem_of_mapM hraw (List.mem_range.mpr hindex)
        exact raiseStruct_unpackFrom_isOk.mp ⟨values, hvalues⟩
  | error e =>
      obtain ⟨index, hindex, he⟩ := exists_mem_of_mapM_error hraw
      refine .inr ⟨raiseStruct_escapes he, fun hall => ?_⟩
      obtain ⟨values, hvalues⟩ :=
        raiseStruct_unpackFrom_isOk.mpr (hall index (List.mem_range.mp hindex))
      rw [hvalues] at he
      cases he

/-- The section table, once the layout is known. -/
lemma parseSectionTable_outcome :
    EndsProperly (parseSectionTable path layout order data)
      (fun sections => sections.length = intAt (headerValues layout order data) 12)
      (calcsize layout.headerFormat ≤ data.length ∧
        (intAt (headerValues layout order data) 13 < intAt (headerValues layout order data) 12 →
          TableWithin layout order data)) := by
  rw [parseSectionTable]
  by_cases hfits : calcsize layout.headerFormat ≤ data.length
  · have hheader : unpackFrom order layout.headerFormat data 0
        = .ok (headerValues layout order data) := by
      rw [unpackFrom, if_pos (by omega), List.drop_zero]
      rfl
    rw [hheader]
    simp only [raiseStruct, ok_bind, hfits, true_and]
    split_ifs with hrefused
    · exact endsProperly_reject _ fun hlt => by omega
    · have hlt : intAt (headerValues layout order data) 13
          < intAt (headerValues layout order data) 12 := by omega
      simp only [hlt, true_implies]
      exact readTable_outcome fun raw => List.length_map _
  · have hshort : raiseStruct (unpackFrom order layout.headerFormat data 0)
        = .error .structError := by
      rw [unpackFrom, if_neg (by omega), if_neg (by decide)]
      rfl
    rw [hshort]
    exact .inr ⟨raiseStruct_escapes hshort, fun h => hfits h.1⟩

lemma EndsProperly.congr {α : Type} {x : Except PyException α} {P : α → Prop} {C C' : Prop}
    (h : EndsProperly x P C) (hC : C ↔ C') : EndsProperly x P C' := by
  rwa [propext hC] at h

/-- The bytes after the magic number are read one by one. -/
lemma byteAt_error {index : ℕ} (h : data.length ≤ index) :
    byteAt data index = .error .indexError := by
  rw [byteAt, List.getElem?_eq_none h]

lemma byteAt_ok {index : ℕ} {b : UInt8} (h : data[index]? = some b) :
    byteAt data index = .ok b := by
  rw [byteAt, h]

/-- A file with the magic number that ends within its identification. -/
lemma parseElfSections_identification_cut (hmagic : data.take 4 = [0x7f, 0x45, 0x4c, 0x46])
    (hshort : data.length < 6) : parseElfSections path (.ok data) = .error .indexError := by
  rw [parseElfSections]
  simp only [ok_bind, hmagic, ne_eq, not_true, if_false]
  by_cases hfour : data.length ≤ 4
  · rw [byteAt_error hfour, error_bind]
  · rw [byteAt_ok (List.getElem?_eq_getElem (by omega)), ok_bind, byteAt_error (by omega),
      error_bind]

/-- A file with an identification: its layout decides how it is read. -/
lemma parseElfSections_identified (hmagic : data.take 4 = [0x7f, 0x45, 0x4c, 0x46])
    (hlength : 6 ≤ data.length) :
    parseElfSections path (.ok data) =
      match identified data with
      | some (layout, order) => parseSectionTable path layout order data
      | none => rejectResource "E_RESOURCE_ARTIFACT"
          (path ++ " has an unsupported ELF format") := by
  have hfour : data[4]? = some data[4] := List.getElem?_eq_getElem (by omega)
  have hfive : data[5]? = some data[5] := List.getElem?_eq_getElem (by omega)
  rw [parseElfSections]
  simp only [ok_bind, hmagic, ne_eq, not_true, if_false, byteAt_ok hfour, byteAt_ok hfive,
    identified, hfour, hfive]
  split_ifs <;> rfl

/-- The parser on the bytes of any file. -/
lemma parseElfSections_outcome (path : PyStr) (data : List UInt8) :
    EndsProperly (parseElfSections path (.ok data))
      (fun sections => sections.length = statedCount data) (Complete data) := by
  by_cases hmagic : data.take 4 = [0x7f, 0x45, 0x4c, 0x46]
  · by_cases hlength : 6 ≤ data.length
    · rw [parseElfSections_identified hmagic hlength]
      cases hlayout : identified data with
      | none =>
          refine endsProperly_reject _ ⟨fun _ => hlength, ?_, ?_⟩ <;>
            · intro _ layout order h
              rw [hlayout] at h
              cases h
      | some found =>
          obtain ⟨layout, order⟩ := found
          rw [statedCount, hlayout]
          refine parseSectionTable_outcome.congr ⟨fun ⟨hheader, htable⟩ => ?_, fun h => ?_⟩
          · refine ⟨fun _ => hlength, ?_, ?_⟩ <;>
              · intro _ layout' order' h
                cases hlayout.symm.trans h
                assumption
          · exact ⟨h.header hmagic layout order hlayout, h.table hmagic layout order hlayout⟩
    · rw [parseElfSections_identification_cut hmagic (by omega)]
      exact .inr ⟨fun code message h => (by cases h), fun h => hlength (h.identification hmagic)⟩
  · have hrefused : parseElfSections path (.ok data)
        = rejectResource "E_RESOURCE_ARTIFACT" (path ++ " is not an ELF file") := by
      rw [parseElfSections]
      simp only [ok_bind, ne_eq, hmagic, not_false_eq_true, if_true]
      rfl
    rw [hrefused]
    exact endsProperly_reject _ ⟨fun h => absurd h hmagic, fun h => absurd h hmagic,
      fun h => absurd h hmagic⟩

end Outcome

section Declared

variable {inputs : VerifyInputs} {data : List UInt8}

/-- With the plan and the artifacts in place, an exception of the parser is what the command meets
first. -/
lemma postlinkReport_of_error {plan : ResourcePlan} {e : PyException}
    (hplan : inputs.plan = .ok plan) (hmissing : inputs.missing = [])
    (h : parseElfSections inputs.elfPath inputs.elf = .error e) :
    postlinkReport inputs = .error e := by
  rw [postlinkReport, hplan, ok_bind, readArtifacts]
  simp only [hmissing, h]
  rfl

/-- The command reports a declared error. -/
lemma mainVerify_of_declared {plan : ResourcePlan} {e : PyException}
    (hplan : inputs.plan = .ok plan) (hmissing : inputs.missing = [])
    (h : parseElfSections inputs.elfPath inputs.elf = .error e) (he : DeclaredError e) :
    ∃ message, mainVerify inputs = .returns 2 (errorText "E_RESOURCE_ARTIFACT" message) := by
  obtain ⟨message, rfl⟩ := he
  exact ⟨message, by rw [mainVerify, postlinkReport_of_error hplan hmissing h]⟩

/-- It does not catch any other one. -/
lemma mainVerify_of_escapes {plan : ResourcePlan} {e : PyException}
    (hplan : inputs.plan = .ok plan) (hmissing : inputs.missing = [])
    (h : parseElfSections inputs.elfPath inputs.elf = .error e) (he : Escapes e) :
    mainVerify inputs = .raises e := by
  rw [mainVerify, postlinkReport_of_error hplan hmissing h]
  cases e with
  | resourceError code message => exact absurd rfl (he code message)
  | _ => rfl

/-- **Which files the parser refuses in the declared way.**  On the bytes of any file, decoding ends
with as many sections as the header states or with `E_RESOURCE_ARTIFACT` exactly when the file is
complete.  With its plan and the artifacts in place, the verify command ends a complete file without
sections with status 2 and the diagnostic, and an incomplete one with a traceback. -/
theorem elf_failures_declared_iff (data : List UInt8) :
    (∀ path, (∃ sections, parseElfSections path (.ok data) = .ok sections ∧
          sections.length = statedCount data) ∨
        (∃ message, parseElfSections path (.ok data)
          = .error (.resourceError "E_RESOURCE_ARTIFACT" message)) ↔ Complete data) ∧
    ∀ inputs : VerifyInputs, inputs.elf = .ok data → inputs.missing = [] →
      (∃ plan, inputs.plan = .ok plan) →
      (∀ sections, parseElfSections inputs.elfPath inputs.elf ≠ .ok sections) →
      (Complete data → ∃ message,
        mainVerify inputs = .returns 2 (errorText "E_RESOURCE_ARTIFACT" message)) ∧
      (¬ Complete data → ∃ exception, mainVerify inputs = .raises exception) := by
  constructor
  · intro path
    have houtcome := parseElfSections_outcome path data
    cases hparse : parseElfSections path (.ok data) with
    | ok sections =>
        rw [hparse] at houtcome
        exact ⟨fun _ => houtcome.2, fun _ => .inl ⟨sections, rfl, houtcome.1⟩⟩
    | error e =>
        rw [hparse] at houtcome
        rcases houtcome with ⟨⟨message, rfl⟩, hcomplete⟩ | ⟨hescapes, hcut⟩
        · exact ⟨fun _ => hcomplete, fun _ => .inr ⟨message, rfl⟩⟩
        · refine ⟨?_, fun h => absurd h hcut⟩
          rintro (⟨sections, h, -⟩ | ⟨message, h⟩)
          · cases h
          · cases h
            exact absurd rfl (hescapes _ message)
  · rintro inputs helf hmissing ⟨plan, hplan⟩ hnone
    have houtcome := parseElfSections_outcome inputs.elfPath data
    rw [← helf] at houtcome
    cases hparse : parseElfSections inputs.elfPath inputs.elf with
    | ok sections => exact absurd hparse (hnone sections)
    | error e =>
        rw [hparse] at houtcome
        rcases houtcome with ⟨hdeclared, hcomplete⟩ | ⟨hescapes, hcut⟩
        · exact ⟨fun _ => mainVerify_of_declared hplan hmissing hparse hdeclared,
            fun h => absurd hcomplete h⟩
        · exact ⟨fun h => absurd h hcut,
            fun _ => ⟨e, mainVerify_of_escapes hplan hmissing hparse hescapes⟩⟩

/-- A build directory with the given image and nothing else amiss. -/
def inputsWith (image : List UInt8) : VerifyInputs where
  plan := .ok (planWith 1024 0)
  missing := []
  elfPath := "zephyr.elf"
  elf := .ok image
  others := .ok ([], [], none)
  runtimeLog := .ok ()

/-- Files as an interrupted link leaves them.  One ends after the magic number, the other within its
header: the command ends with an `IndexError` and a `struct.error`. -/
theorem elf_cut_off_escapes :
    mainVerify (inputsWith [0x7f, 0x45, 0x4c, 0x46]) = .raises .indexError ∧
    mainVerify (inputsWith [0x7f, 0x45, 0x4c, 0x46, 1, 1, 1, 0, 0, 0, 0, 0, 0, 0, 0, 0, 2, 0])
      = .raises .structError :=
  ⟨rfl, rfl⟩

end Declared

end Ros2Zephyr
