import Ros2Zephyr.Control.Plant
import Ros2Zephyr.Core.Transition

/-!
# The control thread and its command slot

`samples/static_control/src/control.c`: the two spin-locked snapshots, `static_control_start`,
`static_control_submit`, and `control_entry` cut at the points where another thread can get in
between.  A cycle of `control_entry` is three steps:

* `takeRelease` — `k_timer_status_sync` has returned, `start_ms` is read and the schedule is
  advanced;
* `stepPlant` — `read_command` copies the slot under its lock and the plant is stepped;
* `completeCycle` — `completion_ms` is read, the deadline is checked and the state is published.

Between any two of them, and before the thread's first instruction, `static_control_submit` may
run.  `ControlSystem.step` is the transition function; the clock readings and release counts are
part of the label.  Times are `int64_t` milliseconds and are modelled by `ℤ`; the `uint32_t`
counters wrap as they do in the source.  The timing probe and the injected test delay are left
out: neither is read by the loop's decisions, and the delay only moves later clock readings.
-/

namespace Ros2Zephyr

variable {K : Type*} [Field K] [LinearOrder K]

def controlPeriodMs : ℤ := 10

def controlDeadlineMs : ℤ := 10

def commandExpiryMs : ℤ := 250

/-- `enum static_control_status`. -/
inductive StaticControlStatus
  | disabled
  | active
  | stale
  | fault
deriving DecidableEq, Repr

/-- `struct static_control_command`. -/
structure StaticControlCommand (K : Type*) where
  target : K
  sequence : UInt32
deriving DecidableEq

/-- `struct static_control_state`. -/
structure StaticControlState (K : Type*) where
  position : K
  velocity : K
  effort : K
  commandSequence : UInt32
  controlCycles : UInt32
  skippedReleases : UInt32
  maxReleaseLatenessUs : UInt32
  status : StaticControlStatus
deriving DecidableEq

/-- `{.status = STATIC_CONTROL_DISABLED}`: every other member is zero. -/
def StaticControlState.initial : StaticControlState K :=
  { position := 0, velocity := 0, effort := 0, commandSequence := 0, controlCycles := 0
    skippedReleases := 0, maxReleaseLatenessUs := 0, status := .disabled }

/-- `struct command_snapshot`, without its lock. -/
structure CommandSnapshot (K : Type*) where
  value : StaticControlCommand K
  receiptMs : ℤ
  valid : Bool
deriving DecidableEq

/-- The variables of `control_entry` that live across cycles. -/
structure ControlLocals (K : Type*) where
  plant : StaticControlPlant K
  state : StaticControlState K
  scheduledReleaseMs : ℤ
  faulted : Bool
deriving DecidableEq

/-- Where the control thread is. -/
inductive ControlThread (K : Type*)
  /-- not created, or returned from `control_entry` -/
  | exited
  /-- created by `k_thread_create`, before its first instruction -/
  | created
  /-- at the head of the loop -/
  | waiting (vars : ControlLocals K)
  /-- a release was taken and `start_ms` read; `read_command` comes next -/
  | released (vars : ControlLocals K) (startMs : ℤ)
  /-- the command was read and the plant stepped; `completion_ms` comes next -/
  | stepped (vars : ControlLocals K) (startMs : ℤ) (command : CommandSnapshot K)
      (output : StaticControlPlantOutput K)
deriving DecidableEq

/-- The static variables of `control.c` together with the control thread. -/
structure ControlSystem (K : Type*) where
  commandSnapshot : CommandSnapshot K
  stateSnapshot : StaticControlState K
  stopRequested : Bool
  running : Bool
  thread : ControlThread K
deriving DecidableEq

/-- The static variables at boot are zero. -/
def ControlSystem.boot : ControlSystem K :=
  { commandSnapshot := { value := { target := 0, sequence := 0 }, receiptMs := 0, valid := false }
    stateSnapshot := StaticControlState.initial, stopRequested := false, running := false
    thread := .exited }

/-! ## The entry points called by other threads

Each of the two runs under its lock or before the thread exists, so it is one step.
-/

/-- `static_control_start`; `none` when it returns `false`.  Of the command slot only `valid` is
reset: the value and receipt time of an earlier session stay in memory. -/
def staticControlStart (system : ControlSystem K) : Option (ControlSystem K) :=
  if system.running then none
  else some
    { commandSnapshot := { system.commandSnapshot with valid := false }
      stateSnapshot := StaticControlState.initial
      stopRequested := false
      running := true
      thread := .created }

/-- The test at the head of `static_control_submit`.  `none` is a `NULL` command and `isfinite`
the C library's predicate. -/
def submitAccepts (isfinite : K → Bool) (command : Option (StaticControlCommand K))
    (receiptMs : ℤ) : Option (StaticControlCommand K) :=
  match command with
  | none => none
  | some command =>
      if !isfinite command.target || command.target < -1 || command.target > 1 || receiptMs < 0
      then none
      else some command

/-- `static_control_submit`: an accepted command replaces the slot as a whole. -/
def staticControlSubmit (isfinite : K → Bool) (system : ControlSystem K)
    (command : Option (StaticControlCommand K)) (receiptMs : ℤ) : ControlSystem K :=
  match submitAccepts isfinite command receiptMs with
  | none => system
  | some command =>
      { system with commandSnapshot := { value := command, receiptMs, valid := true } }

/-! ## `control_entry`, piece by piece

The body of the loop, cut at its two reads of shared state.  Nothing in it depends on the slot
before `read_command`, and nothing on the clock after `completion_ms`.
-/

/-- The declarations of `control_entry`, up to the loop. -/
def controlEntryInit (uptimeMs : ℤ) : ControlLocals K :=
  { plant := staticControlPlantInit
    state := StaticControlState.initial
    scheduledReleaseMs := uptimeMs + controlPeriodMs
    faulted := false }

/-- From `k_timer_status_sync` to `read_command`. -/
def takeRelease (vars : ControlLocals K) (releases : UInt32) (startMs : ℤ) : ControlLocals K :=
  let latenessMs := startMs - vars.scheduledReleaseMs
  { vars with
    state :=
      { vars.state with
        maxReleaseLatenessUs :=
          if latenessMs > 0 then
            max vars.state.maxReleaseLatenessUs (UInt32.ofInt latenessMs * 1000)
          else vars.state.maxReleaseLatenessUs
        skippedReleases :=
          if releases > 1 then vars.state.skippedReleases + (releases - 1)
          else vars.state.skippedReleases }
    faulted := vars.faulted || decide (releases > 1)
    scheduledReleaseMs := vars.scheduledReleaseMs + releases.toNat * controlPeriodMs }

/-- `command_fresh`. -/
def CommandSnapshot.fresh (command : CommandSnapshot K) (startMs : ℤ) : Bool :=
  command.valid && decide (startMs ≥ command.receiptMs) &&
    decide (startMs - command.receiptMs ≤ commandExpiryMs)

/-- From `read_command` to `static_control_plant_step`: the plant is driven only by a fresh
command in a cycle that is not faulted so far. -/
def stepPlant (vars : ControlLocals K) (startMs : ℤ) (command : CommandSnapshot K) :
    ControlLocals K × StaticControlPlantOutput K :=
  let faulted := vars.faulted || decide (startMs > vars.scheduledReleaseMs)
  let stepped := staticControlPlantStep vars.plant command.value.target (10 / 1000)
    (command.fresh startMs && !faulted)
  ({ vars with faulted, plant := stepped.1 }, stepped.2)

/-- From `completion_ms` to `publish_state`.  A late completion faults the cycle after the plant
was already stepped. -/
def completeCycle (vars : ControlLocals K) (startMs : ℤ) (command : CommandSnapshot K)
    (output : StaticControlPlantOutput K) (completionMs : ℤ) : ControlLocals K :=
  let late := decide
    (completionMs > vars.scheduledReleaseMs - controlPeriodMs + controlDeadlineMs)
  let faulted := vars.faulted || late
  let outputEffort := if late then 0 else output.effort
  { vars with
    faulted
    state :=
      { vars.state with
        position := output.position
        velocity := output.velocity
        effort := if faulted then 0 else outputEffort
        commandSequence := command.value.sequence
        controlCycles := vars.state.controlCycles + 1
        status :=
          if faulted then .fault
          else if !command.valid then .disabled
          else if !command.fresh startMs then .stale
          else .active } }

/-! ## The transition function -/

/-- What can happen next, with the values the environment chooses. -/
inductive ControlEvent (K : Type*)
  /-- another thread calls `static_control_submit` -/
  | submit (command : Option (StaticControlCommand K)) (receiptMs : ℤ)
  /-- `static_control_stop` sets `stop_requested` -/
  | stop
  /-- `control_entry` starts; `k_uptime_get` returns `uptimeMs` -/
  | enter (uptimeMs : ℤ)
  /-- `k_timer_status_sync` returns `releases`, then `k_uptime_get` returns `startMs` -/
  | release (releases : UInt32) (startMs : ℤ)
  /-- `read_command` and the plant step -/
  | readCommand
  /-- `k_uptime_get` returns `completionMs` and the state is published -/
  | complete (completionMs : ℤ)
  /-- the loop sees `stop_requested` and `control_entry` returns -/
  | leave
deriving DecidableEq

def ControlSystem.step (isfinite : K → Bool) (system : ControlSystem K) :
    ControlEvent K → Option (ControlSystem K)
  | .submit command receiptMs => some (staticControlSubmit isfinite system command receiptMs)
  | .stop => some { system with stopRequested := true }
  | .enter uptimeMs =>
      match system.thread with
      | .created =>
          let vars := controlEntryInit uptimeMs
          some { system with stateSnapshot := vars.state, thread := .waiting vars }
      | _ => none
  | .release releases startMs =>
      match system.thread, system.stopRequested with
      | .waiting vars, false =>
          some { system with thread := .released (takeRelease vars releases startMs) startMs }
      | _, _ => none
  | .readCommand =>
      match system.thread with
      | .released vars startMs =>
          let stepped := stepPlant vars startMs system.commandSnapshot
          some
            { system with
              thread := .stepped stepped.1 startMs system.commandSnapshot stepped.2 }
      | _ => none
  | .complete completionMs =>
      match system.thread with
      | .stepped vars startMs command output =>
          let vars := completeCycle vars startMs command output completionMs
          some { system with stateSnapshot := vars.state, thread := .waiting vars }
      | _ => none
  | .leave =>
      match system.thread, system.stopRequested with
      | .waiting _, true => some { system with running := false, thread := .exited }
      | _, _ => none

end Ros2Zephyr
