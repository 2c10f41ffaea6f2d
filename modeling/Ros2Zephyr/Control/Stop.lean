import Ros2Zephyr.Core.Transition

/-!
# Stopping the control thread

`static_control_start`, `static_control_stop` and `control_entry` of
`samples/static_control/src/control.c`, reduced to what they do to `running`, `stop_requested` and
`release_timer`, one atomic operation a step.  One caller starts and stops; the control thread and
the timer's expiries may come between any two of its steps.

The caller sets `stop_requested` and then starts the timer once more, to wake the thread.  The
thread stops the timer as its last use of it.  As long as these two come in this order, a stop
returns with the timer out of the kernel's queue (`stop_leaves_timer_idle`).  Nothing keeps them
in order: the thread can be woken by a regular expiry between the caller's two steps and be gone
before the caller starts the timer (`stop_leaves_timer_queued`).
-/

namespace Ros2Zephyr

open Transition

/-- `struct k_timer`: whether its timeout is queued, whether it has a period, and the expiries not
yet read by `k_timer_status_sync`. -/
structure KTimer where
  queued : Bool
  periodic : Bool
  status : ℕ
deriving DecidableEq

/-- `k_timer_init`.  It overwrites the record and does not look whether the old one is queued. -/
def KTimer.init : KTimer := { queued := false, periodic := false, status := 0 }

/-- `k_timer_start`, with a period or with `K_NO_WAIT`. -/
def KTimer.start (periodic : Bool) : KTimer := { queued := true, periodic, status := 0 }

def KTimer.stop (timer : KTimer) : KTimer := { timer with queued := false }

/-- The timeout of a queued timer fires; only a periodic one is queued again. -/
def KTimer.expire (timer : KTimer) : Option KTimer :=
  if timer.queued then some { timer with queued := timer.periodic, status := timer.status + 1 }
  else none

/-- What the caller does next. -/
inductive Caller
  /-- outside the two functions -/
  | idle
  /-- the same, and the last call was a `static_control_stop` that has returned -/
  | stopReturned
  -- `static_control_start`, after `atomic_cas`
  | clearStopRequested
  | timerInit
  | threadCreate
  -- `static_control_stop`, after the test of `running`
  | setStopRequested
  | timerStart
  | threadJoin
deriving DecidableEq

/-- What the control thread does next. -/
inductive Worker
  /-- nothing: not created, or terminated -/
  | exited
  | timerStart
  /-- the test at the head of the loop -/
  | testHead
  /-- `k_timer_status_sync` looks at the timer -/
  | statusSync
  /-- and waits for its next expiry -/
  | pending
  /-- and has been woken -/
  | syncReturn
  /-- the test after `k_timer_status_sync` -/
  | testWoken
  /-- the rest of the loop's body -/
  | cycle
  | timerStop
  | clearRunning
  /-- `control_entry` returns -/
  | exit
deriving DecidableEq

structure StopSystem where
  running : Bool
  stopRequested : Bool
  releaseTimer : KTimer
  caller : Caller
  worker : Worker
deriving DecidableEq

/-- The static variables at boot. -/
def StopSystem.boot : StopSystem :=
  { running := false, stopRequested := false, releaseTimer := KTimer.init, caller := .idle
    worker := .exited }

inductive StopCall
  | start
  | stop
deriving DecidableEq

/-- Whose step it is. -/
inductive StopEvent
  | call (function : StopCall)
  | caller
  | worker
  | expire
deriving DecidableEq

/-- The caller enters one of the functions and executes its first test. -/
def StopSystem.enter (system : StopSystem) : StopCall → StopSystem
  | .start =>
      -- `atomic_cas(&running, 0, 1)`; a failed one returns `false`
      if system.running then { system with caller := .idle }
      else { system with running := true, caller := .clearStopRequested }
  | .stop =>
      if system.running then { system with caller := .setStopRequested }
      else { system with caller := .stopReturned }

def StopSystem.callerStep (system : StopSystem) : Option StopSystem :=
  match system.caller with
  | .idle | .stopReturned => none
  | .clearStopRequested => some { system with stopRequested := false, caller := .timerInit }
  | .timerInit => some { system with releaseTimer := KTimer.init, caller := .threadCreate }
  | .threadCreate => some { system with worker := .timerStart, caller := .idle }
  | .setStopRequested => some { system with stopRequested := true, caller := .timerStart }
  | .timerStart => some { system with releaseTimer := KTimer.start false, caller := .threadJoin }
  | .threadJoin =>
      if system.worker = .exited then some { system with caller := .stopReturned } else none

def StopSystem.workerStep (system : StopSystem) : Option StopSystem :=
  match system.worker with
  | .exited => none
  | .timerStart => some { system with releaseTimer := KTimer.start true, worker := .testHead }
  | .testHead =>
      some { system with worker := if system.stopRequested then .timerStop else .statusSync }
  | .statusSync =>
      -- it waits only if nothing has expired and the timer is queued
      if system.releaseTimer.status = 0 ∧ system.releaseTimer.queued then
        some { system with worker := .pending }
      else some { system with worker := .syncReturn }
  | .pending => none
  | .syncReturn =>
      some { system with releaseTimer.status := 0, worker := .testWoken }
  | .testWoken =>
      some { system with worker := if system.stopRequested then .timerStop else .cycle }
  | .cycle => some { system with worker := .testHead }
  | .timerStop =>
      some { system with releaseTimer := system.releaseTimer.stop, worker := .clearRunning }
  | .clearRunning => some { system with running := false, worker := .exit }
  | .exit => some { system with worker := .exited }

def StopSystem.step (system : StopSystem) : StopEvent → Option StopSystem
  | .call function =>
      match system.caller with
      | .idle | .stopReturned => some (system.enter function)
      | _ => none
  | .caller => system.callerStep
  | .worker => system.workerStep
  | .expire =>
      system.releaseTimer.expire.map fun releaseTimer =>
        { system with
          releaseTimer
          worker := if system.worker = .pending then .syncReturn else system.worker }

/-! ## The property

`Overtakes` is the one order of events that the theorem excludes.  It is a condition on a step, so a
run either has such a step or it does not.
-/

/-- A stop that has returned left no thread and no queued timer, and `k_timer_init` is reached
only with a timer that is not queued. -/
structure StopSafe (system : StopSystem) : Prop where
  returned : system.caller = .stopReturned →
    system.worker = .exited ∧ system.releaseTimer.queued = false
  init : system.caller = .timerInit → system.releaseTimer.queued = false

/-- The control thread stops the timer after the caller has requested the stop and before the
caller has started the timer. -/
def Overtakes (system : StopSystem) (event : StopEvent) : Prop :=
  event = .worker ∧ system.worker = .timerStop ∧ system.caller = .timerStart

instance (system : StopSystem) (event : StopEvent) : Decidable (Overtakes system event) :=
  inferInstanceAs (Decidable (_ ∧ _ ∧ _))

def StopSystem.orderlyStep (system : StopSystem) (event : StopEvent) : Option StopSystem :=
  if Overtakes system event then none else system.step event

/-! ## The invariant

Where the caller is determines what can be said of the other two: outside its functions the session
is quiet or live, in `static_control_start` it is claimed, and from the request of the stop on it is
winding down.
-/

/-- No session. -/
structure Quiet (system : StopSystem) : Prop where
  running : system.running = false
  worker : system.worker = .exited
  queued : system.releaseTimer.queued = false

/-- The thread is in front of its `k_timer_stop`. -/
def Worker.Before : Worker → Prop
  | .exited | .clearRunning | .exit => False
  | _ => True

/-- The thread is in its loop, with no reason to leave it. -/
def Worker.Looping : Worker → Prop
  | .exited | .timerStop | .clearRunning | .exit => False
  | _ => True

/-- A session that nobody asked to stop. -/
structure Live (system : StopSystem) : Prop where
  running : system.running = true
  stopRequested : system.stopRequested = false
  worker : system.worker.Looping

/-- `running` is claimed and the thread not yet created. -/
structure Claimed (system : StopSystem) : Prop where
  running : system.running = true
  worker : system.worker = .exited
  queued : system.releaseTimer.queued = false

/-- What is true while the caller waits in `k_thread_join`. -/
def Winding (system : StopSystem) : Prop :=
  match system.worker with
  | .exited | .exit => system.running = false ∧ system.releaseTimer.queued = false
  | .clearRunning => system.running = true ∧ system.releaseTimer.queued = false
  | _ => system.running = true

def StopInv (system : StopSystem) : Prop :=
  match system.caller with
  | .idle => Quiet system ∨ Live system
  | .stopReturned => Quiet system
  | .clearStopRequested => Claimed system
  | .timerInit | .threadCreate => Claimed system ∧ system.stopRequested = false
  | .setStopRequested => Live system
  | .timerStart => system.running = true ∧ system.stopRequested = true ∧ system.worker.Before
  | .threadJoin => system.stopRequested = true ∧ Winding system

lemma StopInv.safe {system : StopSystem} (h : StopInv system) : StopSafe system := by
  constructor
  · intro hcaller
    have hquiet : Quiet system := by simpa only [StopInv, hcaller] using h
    exact ⟨hquiet.worker, hquiet.queued⟩
  · intro hcaller
    have hclaimed : Claimed system ∧ system.stopRequested = false := by
      simpa only [StopInv, hcaller] using h
    exact hclaimed.1.queued

lemma stopInv_boot : StopInv StopSystem.boot := Or.inl ⟨rfl, rfl, rfl⟩

/-- Entering a function of the caller, from a state outside both. -/
lemma stopInv_enter {system : StopSystem} (h : Quiet system ∨ Live system) (function : StopCall) :
    StopInv (system.enter function) := by
  cases function with
  | start =>
      rcases h with hquiet | hlive
      · simp only [StopSystem.enter, hquiet.running, Bool.false_eq_true, if_false]
        exact ⟨rfl, hquiet.worker, hquiet.queued⟩
      · simp only [StopSystem.enter, hlive.running, if_true]
        exact Or.inr ⟨rfl, hlive.stopRequested, hlive.worker⟩
  | stop =>
      rcases h with hquiet | hlive
      · simp only [StopSystem.enter, hquiet.running, Bool.false_eq_true, if_false]
        exact ⟨rfl, hquiet.worker, hquiet.queued⟩
      · simp only [StopSystem.enter, hlive.running, if_true]
        exact ⟨rfl, hlive.stopRequested, hlive.worker⟩

/-- The caller's own steps, one case for each place it can be in. -/
lemma stopInv_caller {system system' : StopSystem} (h : StopInv system)
    (hstep : system.callerStep = some system') : StopInv system' := by
  cases hcaller : system.caller <;> simp only [StopSystem.callerStep, hcaller] at hstep <;>
    simp only [StopInv, hcaller] at h
  case idle | stopReturned => cases hstep
  case clearStopRequested =>
      cases hstep
      exact ⟨⟨h.running, h.worker, h.queued⟩, rfl⟩
  case timerInit =>
      cases hstep
      exact ⟨⟨h.1.running, h.1.worker, rfl⟩, h.2⟩
  case threadCreate =>
      cases hstep
      exact Or.inr ⟨h.1.running, h.2, trivial⟩
  case setStopRequested =>
      cases hstep
      have hworker := h.worker
      refine ⟨h.running, rfl, ?_⟩
      cases hw : system.worker <;> simp_all [Worker.Before, Worker.Looping]
  case timerStart =>
      cases hstep
      obtain ⟨hrunning, hstop, hworker⟩ := h
      refine ⟨hstop, ?_⟩
      -- the thread still has its `k_timer_stop` before it
      cases hw : system.worker <;> simp_all [Winding, Worker.Before]
  case threadJoin =>
      split at hstep
      · next hexited =>
          cases hstep
          have hwinding := h.2
          simp only [Winding, hexited] at hwinding
          exact ⟨hwinding.1, hexited, hwinding.2⟩
      · cases hstep

lemma workerStep_frame {system system' : StopSystem} (h : system.workerStep = some system') :
    system'.caller = system.caller ∧ system'.stopRequested = system.stopRequested ∧
      system.worker ≠ .exited := by
  cases hworker : system.worker <;> simp only [StopSystem.workerStep, hworker] at h
  case exited | pending => cases h
  case statusSync => split at h <;> cases h <;> exact ⟨rfl, rfl, nofun⟩
  all_goals
    cases h
    exact ⟨rfl, rfl, nofun⟩

/-- With no stop requested the thread does not get out of its loop. -/
lemma live_worker {system system' : StopSystem} (h : Live system)
    (hstep : system.workerStep = some system') : Live system' := by
  have hlooping := h.worker
  cases hworker : system.worker <;>
    simp only [StopSystem.workerStep, hworker, h.stopRequested, Bool.false_eq_true,
      if_false] at hstep <;>
    simp only [hworker, Worker.Looping] at hlooping
  case pending => cases hstep
  case statusSync => split at hstep <;> cases hstep <;> exact ⟨h.running, rfl, trivial⟩
  all_goals
    cases hstep
    exact ⟨h.running, rfl, trivial⟩

/-- A thread in front of its `k_timer_stop` comes no further than to it. -/
lemma before_worker {system system' : StopSystem} (h : system.worker.Before)
    (hstop : system.worker ≠ .timerStop) (hstep : system.workerStep = some system') :
    system'.worker.Before ∧ system'.running = system.running := by
  cases hworker : system.worker <;> simp only [StopSystem.workerStep, hworker] at hstep <;>
    simp only [hworker, Worker.Before] at h
  case pending => cases hstep
  case timerStop => exact absurd hworker hstop
  case statusSync => split at hstep <;> cases hstep <;> exact ⟨trivial, rfl⟩
  case testHead | testWoken =>
    cases hstep
    cases system.stopRequested <;> exact ⟨trivial, rfl⟩
  all_goals
    cases hstep
    exact ⟨trivial, rfl⟩

/-- After the caller has started the timer, the thread goes on to its end and takes the timer out of
the queue on the way. -/
lemma winding_worker {system system' : StopSystem} (h : Winding system)
    (hstep : system.workerStep = some system') : Winding system' := by
  cases hworker : system.worker <;> simp only [StopSystem.workerStep, hworker] at hstep <;>
    simp only [Winding, hworker] at h
  case exited | pending => cases hstep
  case statusSync => split at hstep <;> cases hstep <;> exact h
  case testHead | testWoken =>
    cases hstep
    cases system.stopRequested <;> exact h
  case timerStop =>
    cases hstep
    exact ⟨h, rfl⟩
  case clearRunning =>
    cases hstep
    exact ⟨rfl, h.2⟩
  all_goals
    cases hstep
    exact h

/-- The thread's steps.  Only in front of its `k_timer_stop`, with the stop requested and the timer
not yet started, would it leave the invariant. -/
lemma stopInv_worker {system system' : StopSystem} (h : StopInv system)
    (hstep : system.workerStep = some system') (hno : ¬ Overtakes system .worker) :
    StopInv system' := by
  obtain ⟨hcaller', hstop', hworker⟩ := workerStep_frame hstep
  cases hcaller : system.caller <;> simp only [StopInv, hcaller] at h <;>
    simp only [StopInv, hcaller', hcaller]
  case idle =>
    rcases h with hquiet | hlive
    · exact absurd hquiet.worker hworker
    · exact Or.inr (live_worker hlive hstep)
  case stopReturned => exact absurd h.worker hworker
  case clearStopRequested => exact absurd h.worker hworker
  case timerInit | threadCreate => exact absurd h.1.worker hworker
  case setStopRequested => exact live_worker h hstep
  case timerStart =>
    obtain ⟨hrunning, hstop, hbefore⟩ := h
    have hnot : system.worker ≠ .timerStop := fun heq => hno ⟨rfl, heq, hcaller⟩
    obtain ⟨hbefore', hrunning'⟩ := before_worker hbefore hnot hstep
    exact ⟨hrunning'.trans hrunning, hstop'.trans hstop, hbefore'⟩
  case threadJoin => exact ⟨hstop'.trans h.1, winding_worker h.2 hstep⟩

/-- An expiry changes the timer, which was queued, and may wake the thread. -/
lemma stopInv_expire {system system' : StopSystem} (h : StopInv system)
    (hstep : system.step .expire = some system') : StopInv system' := by
  obtain ⟨timer, htimer, rfl⟩ := Option.map_eq_some_iff.mp hstep
  have hqueued : system.releaseTimer.queued = true := by
    simp only [KTimer.expire] at htimer
    split at htimer
    · assumption
    · cases htimer
  have hquiet : system.releaseTimer.queued ≠ false := by rw [hqueued]; nofun
  have hlive : ∀ caller, Live system → Live
      { system with
        releaseTimer := timer, caller
        worker := if system.worker = .pending then .syncReturn else system.worker } := by
    intro caller hlive
    refine ⟨hlive.running, hlive.stopRequested, ?_⟩
    show Worker.Looping (if system.worker = .pending then .syncReturn else system.worker)
    split
    · trivial
    · exact hlive.worker
  cases hcaller : system.caller <;> simp only [StopInv, hcaller] at h ⊢
  case idle =>
    rcases h with h | h
    · exact absurd h.queued hquiet
    · exact Or.inr (hlive _ h)
  case stopReturned | clearStopRequested => exact absurd h.queued hquiet
  case timerInit | threadCreate => exact absurd h.1.queued hquiet
  case setStopRequested => exact hlive _ h
  case timerStart =>
    refine ⟨h.1, h.2.1, ?_⟩
    split
    · trivial
    · exact h.2.2
  case threadJoin =>
    refine ⟨h.1, ?_⟩
    have hwinding := h.2
    cases hworker : system.worker <;> simp_all [Winding]

/-- **A stop leaves the timer idle.**  In every run from boot in which the control thread never
overtakes the caller, whatever the interleaving and the number of rounds, every state is safe. -/
theorem stop_leaves_timer_idle (events : List StopEvent) (system : StopSystem)
    (hrun : Run (ofPartial StopSystem.orderlyStep) StopSystem.boot events system) :
    StopSafe system := by
  refine StopInv.safe (hrun.invariant stopInv_boot ?_)
  intro current next event h hstep
  simp only [ofPartial, StopSystem.orderlyStep] at hstep
  split at hstep
  · cases hstep
  · next hno =>
      cases event with
      | call function =>
          simp only [StopSystem.step] at hstep
          cases hcaller : current.caller <;> simp only [hcaller] at hstep <;> cases hstep <;>
            simp only [StopInv, hcaller] at h
          · exact stopInv_enter h function
          · exact stopInv_enter (Or.inl h) function
      | caller => exact stopInv_caller h hstep
      | worker => exact stopInv_worker h hstep hno
      | expire => exact stopInv_expire h hstep

/-- A session of one cycle, up to the caller's `atomic_set(&stop_requested, 1)`. -/
def sessionThenStop : List StopEvent :=
  [.call .start, .caller, .caller, .caller, .worker, .worker, .worker, .expire, .worker, .worker,
    .worker, .worker, .worker, .call .stop, .caller]

/-- The caller starts the timer, the woken thread terminates, and the caller starts again. -/
def orderlyRestart : List StopEvent :=
  sessionThenStop ++
    [.caller, .expire, .worker, .worker, .worker, .worker, .worker, .caller, .call .start, .caller]

theorem orderly_restart_safe :
    ∃ system, Run (ofPartial StopSystem.orderlyStep) StopSystem.boot orderlyRestart system ∧
      system.caller = .timerInit ∧ StopSafe system := by
  have hrun : Run (ofPartial StopSystem.orderlyStep) StopSystem.boot orderlyRestart
      { running := true, stopRequested := false
        releaseTimer := { queued := false, periodic := false, status := 0 }
        caller := .timerInit, worker := .exited } := run_of_runLabels (by decide)
  exact ⟨_, hrun, rfl, stop_leaves_timer_idle _ _ hrun⟩

/-- A regular expiry wakes the thread before the caller has started the timer. -/
def overtakenStop : List StopEvent :=
  sessionThenStop ++ [.expire, .worker, .worker, .worker, .worker, .worker, .caller, .caller]

/-- The stop returns with the timer queued, and the next start initialises it in the queue. -/
theorem stop_leaves_timer_queued :
    (∃ system, Run (ofPartial StopSystem.step) StopSystem.boot overtakenStop system ∧
      system.caller = .stopReturned ∧ system.releaseTimer.queued = true) ∧
    ∃ system, Run (ofPartial StopSystem.step) StopSystem.boot
        (overtakenStop ++ [.call .start, .caller]) system ∧
      system.caller = .timerInit ∧ system.releaseTimer.queued = true := by
  have hstop : Run (ofPartial StopSystem.step) StopSystem.boot overtakenStop
      { running := false, stopRequested := true, releaseTimer := KTimer.start false
        caller := .stopReturned, worker := .exited } := run_of_runLabels (by decide)
  have hrestart : Run (ofPartial StopSystem.step) StopSystem.boot
      (overtakenStop ++ [.call .start, .caller])
      { running := true, stopRequested := false, releaseTimer := KTimer.start false
        caller := .timerInit, worker := .exited } := run_of_runLabels (by decide)
  exact ⟨⟨_, hstop, rfl, rfl⟩, _, hrestart, rfl, rfl⟩

end Ros2Zephyr
