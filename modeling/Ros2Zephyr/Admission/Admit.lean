import Ros2Zephyr.Admission.Stack
import Ros2Zephyr.Deployment.Generate
import Ros2Zephyr.Resources.Inventory

/-!
# Admission of a C6 image

`admit` of `tools/admit_esp32c6.py`: the rows of the stack table and the failures, in the order in
which the code finds them.  What the code reads out of the disassembly by text search is an input.

* `lastSymbol` — `symbols` is a dictionary by name, so of several symbols of one name only the last
  one is seen.
* `AdmissionFailure` — the reasons not to admit an image.
-/

namespace Ros2Zephyr

open Fallible

section Symbols

/-- `symbols.values()`, in the order in which the names first appear. -/
def keptSymbols (symbols : List ElfSymbol) : List ElfSymbol :=
  (symbols.map ElfSymbol.name).eraseDups.filterMap (lastSymbol symbols)

/-- `lower()`, as far as it can produce a letter of ASCII; the Kelvin sign becomes one. -/
def lowerChar (c : ℕ) : ℕ :=
  if PyStr.inRange 'A' 'Z' c then c + 32 else if c = 0x212a then 'k'.toNat else c

/-- `"stack" in name.lower()` -/
def namesStack (name : PyStr) : Bool :=
  decide ("stack" <:+: name.map lowerChar)

/-- A static object whose name has `stack` in it. -/
def ElfSymbol.isStackObject (s : ElfSymbol) : Bool := s.type == .object && namesStack s.name

end Symbols

section Tables

/-- `STATIC`: the label and the execution budget of a stack. -/
structure StaticStack where
  symbol : PyStr
  label : PyStr
  budget : ℕ

def staticStacks : List StaticStack :=
  [⟨"z_main_stack", "main", 6144⟩,
    ⟨"z_idle_stacks", "idle", 512⟩,
    ⟨"sys_work_q_stack", "system workqueue", 3072⟩,
    ⟨"logging_stack", "logger", 1024⟩,
    ⟨"mgmt_stack", "network management", 1408⟩,
    ⟨"rx_stack", "network RX", 1408⟩,
    ⟨"work_q_stack", "TCP workqueue", 1408⟩,
    ⟨"timer_task_stack", "ESP timer", 3072⟩,
    ⟨"z_interrupt_stacks", "ISR (no TLS)", 1536⟩]

/-- `BASE_CALLERS` -/
def baseCallers : List PyStr :=
  ["bg_thread_main", "z_init_cpu", "z_cstart", "z_impl_k_thread_create", "k_work_queue_start",
    "k_sys_work_q_init", "enable_logger", "esp_timer_init", "task_create_wrapper",
    "task_create_pinned_to_core_wrapper", "net_mgmt_event_init", "net_tc_rx_init", "net_tcp_init"]

inductive AdmissionFailure
  | vendorWrapper
  | vendorStack
  | resourceCheck (stderr : PyStr)
  | cyclonePool
  | nanoRosPool
  | callers (names : List PyStr)
  | stackBacking (names : List PyStr)
  | dynamicPool
  | emulatedTls
  | stackBudget
  | ram
  | flash
  deriving DecidableEq

/-- `", ".join(names)` -/
def joinNames (names : List PyStr) : PyStr := List.intercalate ", " names

def AdmissionFailure.message : AdmissionFailure → PyStr
  | vendorWrapper => "A vendor provider wrapper missing from actual pp_create_task call"
  | vendorStack => "Unknown vendor Wi-Fi stack argument"
  | resourceCheck stderr => "Deployment resource check failed: " ++ stderr
  | cyclonePool => "Cyclone stack pool extent mismatch"
  | nanoRosPool => "nano-ROS stack pool extent mismatch"
  | callers names =>
      "Unreviewed linked thread/workqueue callers: " ++ joinNames names
  | stackBacking names => "Unreviewed stack backing: " ++ joinNames names
  | dynamicPool => "Reserved dynamic stack pool needs explicit review"
  | emulatedTls => "Emulated TLS"
  | stackBudget => "TLS + overhead + execution + margin exceeds backing"
  | ram => "RAM plus 16384-byte application reserve exceeds 450000-byte contract"
  | flash => "Flash contract 2097152 bytes exceeded"

/-- The failures that are about a stack. -/
def AdmissionFailure.isStackFailure : AdmissionFailure → Bool
  | cyclonePool | nanoRosPool | stackBacking _ | stackBudget => true
  | _ => false

end Tables

/-- What `admit` reads from a build directory. -/
structure Build where
  artifacts : Artifacts
  symbols : List ElfSymbol
  /-- The digits beyond ASCII that the interpreter knows. -/
  unicode : PyStr.UnicodeData
  /-- `__struct_arch_esf_SIZEOF` of the generated offsets. -/
  frameBytes : ℕ
  /-- The four values in the disassembly of `config_get_wifi_task_stack_size`. -/
  vendorKnown : Bool
  /-- The disassembled `pp_create_task` calls the wrapper. -/
  wrapperCalled : Bool
  /-- The functions whose disassembly calls a thread creation function. -/
  callers : List PyStr
  /-- The error output of a failed `verify_resources.py verify`. -/
  resourceCheck : Option PyStr
  mainExecutionBytes : ℤ

structure Admission where
  rows : List (PyStr × StackBudget × PyStr)
  failures : List AdmissionFailure

namespace Build

variable (b : Build)

def config (key : PyStr) : Option PyStr := b.artifacts.config.lookup key

/-- `cfg.get(key) == "y"` -/
def enabled (key : PyStr) : Bool := b.config key == some (PyStr.ofString "y")

/-- `int(cfg[key])` -/
def configInt (key : PyStr) : Except PyException ℤ :=
  match b.config key with
  | none => .error (.keyError key)
  | some text =>
      match PyStr.toInt b.unicode text with
      | some n => .ok n
      | none => .error (.valueError "invalid literal for int() with base 10")

def aProfile : Bool := b.enabled "CONFIG_ROS2_ZEPHYR_RMW_CYCLONEDDS_C"

def cProfile : Bool := b.enabled "CONFIG_NROS_C_API"

/-- The size of the TLS image. -/
def tlsSize : ℕ :=
  let tls := tlsSymbols b.symbols
  tls.tdataSize.getD 0 + tls.tbssSize.getD 0

/-- `value or 1` -/
def orOne (value : Option ℕ) : ℕ := if value.getD 0 = 0 then 1 else value.getD 0

def tlsAlignment : ℕ :=
  let tls := tlsSymbols b.symbols
  max (orOne tls.tdataAlign) (orOne tls.tbssAlign)

/-- The frame, the alignment of the stack pointer and the sentinel. -/
def overhead : ℕ := b.frameBytes + 15 + if b.enabled "CONFIG_STACK_SENTINEL" then 4 else 0

/-- `add`. -/
def row (name : PyStr) (backing execution : ℤ) (source : PyStr) (isr : Bool) :
    Except PyException (PyStr × StackBudget × PyStr) := do
  let budget ← stackBudget backing execution b.tlsSize b.tlsAlignment b.overhead 256 isr
  .ok (name, budget, source)

/-- The execution budget of a static stack. -/
def executionBudget (s : StaticStack) : ℤ :=
  if s.symbol = "z_main_stack" then
    if b.cProfile then 12288 else if b.aProfile then b.mainExecutionBytes else s.budget
  else s.budget

/-- One turn of the loop over `STATIC`. -/
def staticRow (s : StaticStack) : Except PyException (List (PyStr × StackBudget × PyStr)) :=
  match lastSymbol b.symbols s.symbol with
  | some symbol => do
      let r ← b.row s.label symbol.size (b.executionBudget s) ("ELF:" ++ s.symbol)
        (s.symbol == "z_interrupt_stacks")
      .ok [r]
  | none => .ok []

def staticRows : Except PyException (List (PyStr × StackBudget × PyStr)) := do
  let rows ← staticStacks.mapM b.staticRow
  .ok rows.flatten

/-- `symbols.get(name, (0, 0))[1]` -/
def symbolSize (name : PyStr) : ℕ := ((lastSymbol b.symbols name).map ElfSymbol.size).getD 0

def wrapped : Bool := (lastSymbol b.symbols "__wrap_config_get_wifi_task_stack_size").isSome

/-- The row and the failures of the vendor's Wi-Fi task. -/
def vendorRows : Except PyException (List (PyStr × StackBudget × PyStr) × List AdmissionFailure) :=
  if b.vendorKnown then
    if b.aProfile then do
      let reserve := b.tlsSize + b.tlsAlignment - 1
      let backing : ℕ := if b.wrapped then (3072 + reserve + 99 + 256 + 15) / 16 * 16 else 3072
      let r ← b.row "vendor Wi-Fi minimum (A explicit provider)" backing 3072
        "A vendor_stack.c and linked pp_create_task call" false
      .ok ([r], if b.wrapped && b.wrapperCalled then [] else [.vendorWrapper])
    else do
      let r ← b.row "vendor Wi-Fi (minimum of 3072/3584/6144/6656)" 3072 2048
        (fstring ["config_get_wifi_task_stack_size -> pp_create_task -> OS adapter -> ",
          "k_thread_stack_alloc (system heap)"]) false
      .ok ([r], [])
  else .ok ([], [.vendorStack])

/-- A pool of stacks: its extent and one row for each slot. -/
def poolRows (symbol label source : PyStr) (slots each : ℤ) (execution : ℤ)
    (mismatch : AdmissionFailure) :
    Except PyException (List (PyStr × StackBudget × PyStr) × List AdmissionFailure) := do
  let rows ← (List.range slots.toNat).mapM fun i =>
    b.row (label ++ PyStr.ofNat i) each execution source false
  .ok (rows, if (b.symbolSize symbol : ℤ) ≠ slots * each then [mismatch] else [])

def cycloneSlots : Except PyException (ℤ × ℤ) := do
  let slots ← b.configInt "CONFIG_ROS2_ZEPHYR_CYCLONEDDS_THREAD_COUNT"
  let each ← b.configInt "CONFIG_ROS2_ZEPHYR_CYCLONEDDS_THREAD_STACK_SIZE"
  .ok (slots, each)

def nanoRosSlots : Except PyException (ℤ × ℤ) := do
  let slots ← b.configInt "CONFIG_NROS_ZEPHYR_TASK_SLOTS"
  let size ← b.configInt "CONFIG_NROS_ZEPHYR_TASK_STACK_SIZE"
  let each ← if size ≠ 0 then .ok size else b.configInt "CONFIG_MAIN_STACK_SIZE"
  .ok (slots, each)

def cycloneRows : Except PyException (List (PyStr × StackBudget × PyStr) × List AdmissionFailure) :=
  if b.aProfile then do
    let (slots, each) ← b.cycloneSlots
    let (rows, failures) ← b.poolRows "zephyr_stacks" "Cyclone reserved slot "
      "ELF zephyr_stacks / configured count; DDSRT pthread_attr_setstack" slots each 8192
      .cyclonePool
    .ok (rows, (b.resourceCheck.map .resourceCheck).toList ++ failures)
  else .ok ([], [])

def nanoRosRows : Except PyException (List (PyStr × StackBudget × PyStr) × List AdmissionFailure) :=
  if b.cProfile then do
    let (slots, each) ← b.nanoRosSlots
    b.poolRows "nros_thread_stacks" "nano-ROS reserved task slot "
      (fstring ["ELF nros_thread_stacks; official nros_zephyr_task_create_prio ",
        "pthread_attr_setstack"]) slots each 6144 .nanoRosPool
  else .ok ([], [])

/-- `allowed_callers` -/
def allowedCallers : List PyStr :=
  baseCallers ++
  (if b.aProfile then
    [PyStr.ofString "ddsrt_thread_create", PyStr.ofString "pthread_create"] else []) ++
  (if b.cProfile then
    [PyStr.ofString "nros_zephyr_task_create_prio", PyStr.ofString "pthread_create"] else [])

/-- `allowed_stacks` -/
def allowedStacks : List PyStr :=
  staticStacks.map StaticStack.symbol ++
  (if b.aProfile then [PyStr.ofString "zephyr_stacks"] else []) ++
  (if b.cProfile then [PyStr.ofString "nros_thread_stacks"] else [])

def unknownCallers : List PyStr := sortKeys (b.callers.filter (· ∉ b.allowedCallers))

/-- `unknown_stacks` -/
def unknownStacks : List PyStr :=
  ((keptSymbols b.symbols).filter fun s =>
    s.type == .object && decide (256 ≤ s.size) && namesStack s.name &&
      decide (s.name ∉ b.allowedStacks)).map ElfSymbol.name

/-- The failures after the tables, in the order of the code. -/
def finalFailures (r : Inventory) (rows : List (PyStr × StackBudget × PyStr)) (dynamicPool : ℤ) :
    List AdmissionFailure :=
  (if b.unknownCallers.isEmpty then [] else [.callers b.unknownCallers]) ++
  (if b.unknownStacks.isEmpty then [] else [.stackBacking b.unknownStacks]) ++
  (if dynamicPool ≠ 0 then [.dynamicPool] else []) ++
  (if r.tls.emulated then [.emulatedTls] else []) ++
  (if rows.any fun row => row.2.1.status == .fail then [.stackBudget] else []) ++
  (if r.ramCommittedBytes + 16384 > 450000 then [.ram] else []) ++
  (if r.imageBytes > 2097152 then [.flash] else [])

/-- `int(cfg.get("CONFIG_DYNAMIC_THREAD_POOL_SIZE", "0"))` -/
def dynamicPoolSize : Except PyException ℤ :=
  match PyStr.toInt b.unicode ((b.config "CONFIG_DYNAMIC_THREAD_POOL_SIZE").getD "0") with
  | some n => .ok n
  | none => .error (.valueError "invalid literal for int() with base 10")

/-- `admit`. -/
def admitImage : Except PyException Admission := do
  let r ← inventory b.unicode b.artifacts b.symbols
  let static ← b.staticRows
  let (vendor, vendorFailures) ← b.vendorRows
  let (cyclone, cycloneFailures) ← b.cycloneRows
  let (nanoRos, nanoRosFailures) ← b.nanoRosRows
  let dynamicPool ← b.dynamicPoolSize
  let rows := static ++ vendor ++ cyclone ++ nanoRos
  .ok ⟨rows, vendorFailures ++ cycloneFailures ++ nanoRosFailures ++
    b.finalFailures r rows dynamicPool⟩

end Build

end Ros2Zephyr
