import Ros2Zephyr.Core.Kernel
import Ros2Zephyr.Core.Monitor

/-!
# Waiting on a condition with a timeout

A condition wait gives up the mutex, sleeps, and returns with the mutex locked again, also when the
time is over.  The kernel of Zephyr 4.4.0 does not lock it again on a timeout.  Two places can put
this right: `patches/zephyr-condvar-timeout-relock.patch` changes the kernel, and with
`CYCLONEDDS_ZEPHYR_CONDVAR_TIMEOUT_RELOCK` the POSIX port of Cyclone DDS locks the mutex itself.
`cmake/rmw/cyclonedds_c.cmake` decides on the second from the version and from whether the reverse
of the patch applies.

* `Platform` — what is assumed of the kernel and of its POSIX layer, whose source is not part of the
  repository.
* `kCondvarWait`, `ddsrtCondWaituntilImpl` — the code, with and without each repair.
* `Clients` — any number of threads that use the mutex and the condition as they like, except that
  they wait, unlock and touch the guarded data only between a lock and an unlock.
* `Clients.Disciplined` — where a thread's code takes the mutex to be its own, it is, and once.
* `ZephyrTree.Covered` — the trees on which the build file chooses the right repair.
-/

namespace Ros2Zephyr

open Kernel

/-- The timeout of a wait: `K_NO_WAIT`, `K_FOREVER` or a number of ticks. -/
inductive Timeout
  | noWait
  | forever
  | ticks (n : ℕ)
  deriving DecidableEq

/-- When a wait that starts now is over. -/
def Timeout.deadline (now : ℕ) : Timeout → Option ℕ
  | noWait => some now
  | forever => none
  | ticks n => some (now + n)

/-- What `k_condvar_wait` returns: 0 or `-EAGAIN`. -/
inductive CondvarStatus
  | ok
  | eagain
  deriving DecidableEq

/-- What `pthread_cond_timedwait` returns: 0 or `ETIMEDOUT`. -/
inductive PthreadStatus
  | ok
  | etimedout
  deriving DecidableEq

/-- The repairs that are compiled in: the kernel's and the one of the POSIX port. -/
structure Repairs where
  patched : Bool
  relock : Bool
  deriving DecidableEq

/-- The two functions with which the code locks the mutex. -/
inductive LockCall
  | kMutexLock
  | pthreadMutexLock
  deriving DecidableEq

/-- Code over the calls of the kernel. -/
abbrev SyncProg := KProg LockCall

/-- The POSIX name of what the kernel's wait returns. -/
def CondvarStatus.posix : CondvarStatus → PthreadStatus
  | ok => .ok
  | eagain => .etimedout

/-- What the code takes from the kernel and from its POSIX layer.  Of the two lock functions it is
assumed what `Locking` says, so that a thread which locks a mutex of its own may be counted, refused
or left waiting; of `pthread_cond_timedwait`, that it is the kernel's wait with the result under its
POSIX name. -/
structure Platform (T : Type) where
  locking : LockCall → Locking T
  condTimedwait : (Timeout → SyncProg CondvarStatus) → Timeout → SyncProg PthreadStatus
  condTimedwait_eq : ∀ wait timeout,
    condTimedwait wait timeout = wait timeout >>= fun status => .ret status.posix

/-- The platform whose POSIX mutex treats a thread that has it already in a given way; the mutex of
the kernel counts. -/
def Platform.ofOwn {T : Type} [DecidableEq T] (own : T → ℕ → Option (Bool × Mutex T)) :
    Platform T where
  locking
    | .kMutexLock => .ofOwn fun t again => some (true, some (t, again + 1))
    | .pthreadMutexLock => .ofOwn own
  condTimedwait wait timeout := wait timeout >>= fun status => .ret status.posix
  condTimedwait_eq _ _ := rfl

section Code

variable {T : Type}

/-- `z_impl_k_condvar_wait` of `kernel/condvar.c`.  The mutex is unlocked and the thread queued
under one spinlock. -/
def kCondvarWait (patched : Bool) : Timeout → SyncProg CondvarStatus
  | .noWait => do
      if !patched then
        let _ ← call .unlock
      return .eagain
  | timeout => do
      let now ← call .pend
      let woken : Bool ← call (.awake (timeout.deadline now))
      if patched || woken then
        let _ ← call (.lock .kMutexLock)
      return if woken then .ok else .eagain

/-- `ddsrt_cond_waituntil_impl` of `src/ddsrt/src/sync/posix/sync.c`: whether the thread was woken
before the time was over; `none` where the code calls `abort`.  The branch for any other result of
`pthread_cond_timedwait` is not reached on a platform. -/
def ddsrtCondWaituntilImpl (platform : Platform T) (repairs : Repairs) (timeout : Timeout) :
    SyncProg (Option Bool) := do
  match ← platform.condTimedwait (kCondvarWait repairs.patched) timeout with
  | .ok => return some true
  | .etimedout =>
      if repairs.relock then
        let locked : Bool ← call (.lock .pthreadMutexLock)
        return if locked then some false else none
      else
        return some false

/-- The wait without time, in the kernel without the patch and without the relock. -/
lemma noWait_none (platform : Platform T) :
    ddsrtCondWaituntilImpl platform ⟨false, false⟩ .noWait
      = .act .unlock fun _ => .ret (some false) := by
  rw [ddsrtCondWaituntilImpl, platform.condTimedwait_eq]
  rfl

/-- The wait without time, in the patched kernel and with the relock. -/
lemma noWait_both (platform : Platform T) :
    ddsrtCondWaituntilImpl platform ⟨true, true⟩ .noWait
      = .act (.lock .pthreadMutexLock) fun locked : Bool =>
          .ret (if locked then some false else none) := by
  rw [ddsrtCondWaituntilImpl, platform.condTimedwait_eq]
  rfl

end Code

/-! ## Threads that use the mutex and the condition

The threads are as free as the interface allows.  Where a thread is, by its own account, is all that
restricts it: it may not unlock or wait outside of its critical section.
-/

/-- Where a thread is: out of the critical section or in it. -/
inductive Side
  | outside
  | inside
  deriving DecidableEq

/-- What a thread may ask for. -/
inductive SyncOp
  | lock
  | unlock
  | wait (timeout : Timeout)
  | signal
  | broadcast

namespace SyncOp

/-- Where the thread is after the operation, if it may ask for it where it is. -/
def after : SyncOp → Side → Option Side
  | lock, .outside => some .inside
  | unlock, .inside => some .outside
  | wait _, .inside => some .inside
  | signal, side => some side
  | broadcast, side => some side
  | _, _ => none

/-- The operation gives up the mutex, so the thread has to put the data in order before it. -/
def givesUp : SyncOp → Bool
  | unlock | wait _ => true
  | lock | signal | broadcast => false

/-- The code of an operation; `none` is the end of the program. -/
def code {T : Type} (platform : Platform T) (repairs : Repairs) : SyncOp → SyncProg (Option Bool)
  | lock => do
      let locked : Bool ← call (.lock .pthreadMutexLock)
      return if locked then some true else none
  | unlock => do
      let unlocked : Bool ← call .unlock
      return some unlocked
  | wait timeout => ddsrtCondWaituntilImpl platform repairs timeout
  | signal => do
      call .signal
      return some true
  | broadcast => do
      call .broadcast
      return some true

end SyncOp

/-- A thread between two operations, or in one, with the rest of its code, or one that has called
`abort`. -/
inductive Client
  | idle (side : Side)
  | running (after : Side) (code : SyncProg (Option Bool))
  | aborted

structure Clients (T D : Type) where
  kernel : State T D
  client : T → Client

inductive ClientEvent (T D : Type)
  | invoke (t : T) (op : SyncOp)
  | act (t : T) (c : Call LockCall)
  | finish (t : T)
  | abort (t : T)
  | change (t : T) (data : D)
  | pass

namespace Clients

variable {T D : Type} [DecidableEq T]

/-- No thread has asked for anything yet. -/
def boot (T : Type) (g : Monitor.Guarded D) : Clients T D where
  kernel := ⟨none, [], 0, g.initial⟩
  client _ := .idle .outside

/-- One step: a thread asks for an operation, performs its next call, gets its result, aborts or
changes the data; or time passes. -/
inductive Step (g : Monitor.Guarded D) (platform : Platform T) (repairs : Repairs) :
    Clients T D → ClientEvent T D → Clients T D → Prop
  | invoke {s : Clients T D} {t : T} {side after : Side} {op : SyncOp} :
      s.client t = .idle side → op.after side = some after →
      (op.givesUp → g.Ordered s.kernel.data) →
      Step g platform repairs s (.invoke t op)
        ⟨s.kernel, Function.update s.client t (.running after (op.code platform repairs))⟩
  | act {s : Clients T D} {t : T} {after : Side} {c : Call LockCall}
      {next : c.Result → SyncProg (Option Bool)} {r : c.Result} {kernel : State T D} :
      s.client t = .running after (.act c next) → c.exec platform.locking t s.kernel r kernel →
      Step g platform repairs s (.act t c)
        ⟨kernel, Function.update s.client t (.running after (next r))⟩
  | finish {s : Clients T D} {t : T} {after : Side} {value : Bool} :
      s.client t = .running after (.ret (some value)) →
      Step g platform repairs s (.finish t) ⟨s.kernel, Function.update s.client t (.idle after)⟩
  | abort {s : Clients T D} {t : T} {after : Side} :
      s.client t = .running after (.ret none) →
      Step g platform repairs s (.abort t) ⟨s.kernel, Function.update s.client t .aborted⟩
  | change {s : Clients T D} {t : T} {data : D} :
      s.client t = .idle .inside →
      Step g platform repairs s (.change t data) ⟨{ s.kernel with data := data }, s.client⟩
  | pass {s : Clients T D} :
      Step g platform repairs s .pass ⟨{ s.kernel with now := s.kernel.now + 1 }, s.client⟩

/-- What a thread's code takes to be true of the mutex is: it holds it once between a lock and an
unlock and not otherwise, it locks it only without it, and gives it up only with it; and no thread
has aborted. -/
def Disciplined (s : Clients T D) : Prop :=
  ∀ t, match s.client t with
    | .idle .outside => s.kernel.mutex.held t = 0
    | .idle .inside => s.kernel.mutex.held t = 1
    | .running _ (.act (.lock _) _) => s.kernel.mutex.held t = 0
    | .running _ (.act .unlock _) => s.kernel.mutex.held t = 1
    | .running _ (.act .pend _) => s.kernel.mutex.held t = 1
    | .running _ _ => True
    | .aborted => False

end Clients

/-! ## What a thread knows

The code of an operation is followed once, against `holdSpec`.  That a view of the mutex is right,
also while other threads act, is the subject of the next section.
-/

/-- A thread's view of the mutex: not held, or held, and then whether the data is known to be in
order. -/
inductive Hold
  | free
  | held (tidy : Bool)
  deriving DecidableEq

namespace Hold

def side : Hold → Side
  | free => .outside
  | held _ => .inside

def count : Hold → ℕ
  | free => 0
  | held _ => 1

end Hold

section Spec

variable {T : Type}

/-- The discipline of the calls: lock only without the mutex, give it up only with it and with the
data in order.  A sleep without a deadline ends only with a signal. -/
def holdSpec : (c : Call LockCall) → Hold → (c.Result → Hold → Prop) → Prop
  | .lock _, h, Q => h = .free ∧ Q true (.held true)
  | .unlock, h, Q => h = .held true ∧ Q true .free
  | .pend, h, Q => h = .held true ∧ ∀ now, Q now .free
  | .awake deadline, h, Q => h = .free ∧ Q true .free ∧ (deadline.isSome → Q false .free)
  | .signal, h, Q => Q () h
  | .broadcast, h, Q => Q () h

/-- The kernel's wait returns without a signal unless it waits forever, and then it has the mutex
only with the patch. -/
lemma wp_kCondvarWait (patched : Bool) (timeout : Timeout) (Q : CondvarStatus → Hold → Prop) :
    Prog.wp holdSpec (kCondvarWait patched timeout) Q (.held true) ↔
      (timeout ≠ .noWait → Q .ok (.held true)) ∧
        (timeout ≠ .forever → Q .eagain (if patched then .held true else .free)) := by
  cases timeout <;> cases patched <;>
    simp [kCondvarWait, call, holdSpec, Timeout.deadline]

lemma wp_condTimedwait (platform : Platform T) (patched : Bool) (timeout : Timeout)
    (Q : PthreadStatus → Hold → Prop) :
    Prog.wp holdSpec (platform.condTimedwait (kCondvarWait patched) timeout) Q (.held true) ↔
      (timeout ≠ .noWait → Q .ok (.held true)) ∧
        (timeout ≠ .forever → Q .etimedout (if patched then .held true else .free)) := by
  rw [platform.condTimedwait_eq, Prog.wp_bind, wp_kCondvarWait]
  rfl

/-- With exactly one of the two repairs the wait of the POSIX port returns with the mutex. -/
lemma wp_ddsrtCondWaituntilImpl (platform : Platform T) {repairs : Repairs}
    (hone : repairs.patched ≠ repairs.relock) (timeout : Timeout)
    {Q : Option Bool → Hold → Prop} (hQ : ∀ woken, Q (some woken) (.held true)) :
    Prog.wp holdSpec (ddsrtCondWaituntilImpl platform repairs timeout) Q (.held true) := by
  rw [ddsrtCondWaituntilImpl, Prog.wp_bind, wp_condTimedwait]
  refine ⟨fun _ => hQ true, fun _ => ?_⟩
  obtain ⟨patched, relock⟩ := repairs
  cases patched <;> cases relock
  · exact absurd rfl hone
  · exact ⟨rfl, hQ false⟩
  · exact hQ false
  · exact absurd rfl hone

/-- What an operation ends with: a result, and the mutex where the thread is inside. -/
def Returned (after : Side) (result : Option Bool) (h : Hold) : Prop :=
  result.isSome ∧ h.side = after

/-- With exactly one of the two repairs every operation keeps the discipline. -/
lemma wp_code (platform : Platform T) {repairs : Repairs}
    (hone : repairs.patched ≠ repairs.relock) {op : SyncOp} {after : Side} {h : Hold}
    (hafter : op.after h.side = some after) (htidy : op.givesUp → h = .held true) :
    Prog.wp holdSpec (op.code platform repairs) (Returned after) h := by
  cases op with
  | lock =>
      cases h with
      | free => exact ⟨rfl, rfl, Option.some.inj hafter⟩
      | held tidy => cases hafter
  | unlock =>
      obtain rfl := htidy rfl
      exact ⟨rfl, rfl, Option.some.inj hafter⟩
  | wait timeout =>
      obtain rfl := htidy rfl
      exact wp_ddsrtCondWaituntilImpl platform hone timeout fun _ => ⟨rfl, Option.some.inj hafter⟩
  | signal => exact ⟨rfl, Option.some.inj hafter⟩
  | broadcast => exact ⟨rfl, Option.some.inj hafter⟩

end Spec

/-! ## Every run

Two things are shown of a step at once: the threads' views stay right, and the step is one of the
monitor or nothing to it.  The first is needed for the second, since a lock is only an acquisition
where the mutex is free.
-/

section Runs

variable {T D : Type} [DecidableEq T] {g : Monitor.Guarded D} {platform : Platform T}
  {repairs : Repairs}

/-- The threads' views are right, and data that is known to be in order is. -/
structure Holding (g : Monitor.Guarded D) (k : State T D) (holds : T → Hold) : Prop where
  count : ∀ t, k.mutex.held t = (holds t).count
  tidy : ∀ t, holds t = .held true → g.Ordered k.data

namespace Holding

variable {k : State T D} {holds : T → Hold}

lemma mutex_eq (h : Holding g k holds) {t : T} {tidy : Bool} (ht : holds t = .held tidy) :
    k.mutex = some (t, 0) :=
  Mutex.held_one (by rw [h.count, ht]; rfl)

/-- The views of the others while one thread has the mutex. -/
lemma free_of_ne (h : Holding g k holds) {t t' : T} {tidy : Bool} (ht : holds t = .held tidy)
    (hne : t' ≠ t) : holds t' = .free := by
  have hcount := h.count t'
  rw [h.mutex_eq ht, Mutex.held_some_of_ne hne.symm] at hcount
  cases hview : holds t' with
  | free => rfl
  | held => rw [hview] at hcount; cases hcount

lemma not_tidy (h : Holding g k holds) {t : T} {tidy : Bool} (ht : holds t = .held tidy)
    {view : Hold} (hview : view ≠ .held true) (t' : T) :
    Function.update holds t view t' ≠ .held true := by
  rcases eq_or_ne t' t with rfl | hne
  · rwa [Function.update_self]
  · rw [Function.update_of_ne hne, h.free_of_ne ht hne]
    decide

lemma requeue (h : Holding g k holds) (t : T) (queue : List T) :
    Holding g { k with queue := queue } (Function.update holds t (holds t)) := by
  rw [Function.update_eq_self]
  exact ⟨h.count, h.tidy⟩

/-- A thread takes the free mutex and finds the data in order. -/
lemma acquire (h : Holding g k holds) (t : T) (hmutex : k.mutex = none)
    (hordered : g.Ordered k.data) :
    Holding g { k with mutex := some (t, 0) } (Function.update holds t (.held true)) where
  count t' := by
    rcases eq_or_ne t' t with rfl | hne
    · simp [Hold.count]
    · rw [Function.update_of_ne hne, ← h.count, hmutex]
      exact Mutex.held_some_of_ne hne.symm 0
  tidy _ _ := hordered

/-- A thread gives the mutex up. -/
lemma release (h : Holding g k holds) {t : T} {tidy : Bool} (ht : holds t = .held tidy)
    (queue : List T) :
    Holding g { k with mutex := none, queue := queue } (Function.update holds t .free) where
  count t' := by
    rcases eq_or_ne t' t with rfl | hne
    · simp [Hold.count]
    · rw [Function.update_of_ne hne, h.free_of_ne ht hne]
      rfl
  tidy t' ht' := absurd ht' (h.not_tidy ht (by decide) t')

/-- The thread that has the mutex changes the data. -/
lemma change (h : Holding g k holds) {t : T} {tidy : Bool} (ht : holds t = .held tidy) (data : D) :
    Holding g { k with data := data } (Function.update holds t (.held false)) where
  count t' := by
    rcases eq_or_ne t' t with rfl | hne
    · rw [Function.update_self]
      exact (h.count t').trans (by rw [ht]; rfl)
    · rw [Function.update_of_ne hne]
      exact h.count t'
  tidy t' ht' := absurd ht' (h.not_tidy ht (by decide) t')

/-- The thread that has the mutex finds the data in order. -/
lemma settle (h : Holding g k holds) {t : T} {tidy : Bool} (ht : holds t = .held tidy)
    (hordered : g.Ordered k.data) : Holding g k (Function.update holds t (.held true)) where
  count t' := by
    rcases eq_or_ne t' t with rfl | hne
    · rw [Function.update_self, h.count, ht]
      rfl
    · rw [Function.update_of_ne hne, h.count]
  tidy _ _ := hordered

end Holding

/-- The mutex and the data as a monitor. -/
def asMonitor (k : State T D) : Monitor.State T D := ⟨k.mutex.map Prod.fst, k.data⟩

/-- What a call is for the monitor. -/
def callShown (t : T) : Call LockCall → Option (Monitor.Event T D)
  | .lock _ => some (.acquire t)
  | .unlock | .pend => some (.release t)
  | .awake _ | .signal | .broadcast => none

/-- What an event is for the monitor: a lock acquires it, an unlock and the start of a sleep release
it, a change changes the data, and nothing else concerns it. -/
def ClientEvent.shown : ClientEvent T D → Option (Monitor.Event T D)
  | act t c => callShown t c
  | change t data => some (.change t data)
  | invoke _ _ | finish _ | abort _ | pass => none

/-- **One call** of a thread that keeps the discipline. -/
lemma Holding.call {k k' : State T D} {holds : T → Hold} (h : Holding g k holds)
    (hfree : k.mutex = none → g.Ordered k.data) {t : T} {c : Call LockCall} {r : c.Result}
    {Q : c.Result → Hold → Prop} (hspec : holdSpec c (holds t) Q)
    (hexec : c.exec platform.locking t k r k') :
    ∃ h', Q r h' ∧ Holding g k' (Function.update holds t h') ∧
      Transition.Shown (Monitor.Step g) (callShown t c) (asMonitor k) (asMonitor k') := by
  obtain ⟨pick, hexec⟩ := hexec
  cases c with
  | lock way =>
      obtain ⟨hview, hQ⟩ := hspec
      obtain ⟨⟨locked, m⟩, hlock, heq⟩ := Option.map_eq_some_iff.mp hexec
      cases heq
      obtain ⟨hmutex, rfl, rfl⟩ := Locking.lock_eq_some (by rw [h.count, hview]; rfl) hlock
      refine ⟨.held true, hQ, h.acquire t hmutex (hfree hmutex), ?_⟩
      rw [asMonitor, hmutex]
      exact Monitor.Step.acquire
  | unlock =>
      obtain ⟨hview, hQ⟩ := hspec
      have hmutex := h.mutex_eq hview
      simp only [Call.answer, hmutex, Mutex.unlock, if_true, Option.some.injEq] at hexec
      cases hexec
      refine ⟨.free, hQ, h.release hview k.queue, ?_⟩
      rw [asMonitor, hmutex]
      exact Monitor.Step.release (h.tidy t hview)
  | pend =>
      obtain ⟨hview, hQ⟩ := hspec
      have hmutex := h.mutex_eq hview
      simp only [Call.answer, hmutex, Mutex.unlock, if_true, Option.getD_some,
        Option.some.injEq] at hexec
      cases hexec
      refine ⟨.free, hQ _, h.release hview _, ?_⟩
      rw [asMonitor, hmutex]
      exact Monitor.Step.release (h.tidy t hview)
  | awake deadline =>
      obtain ⟨hview, hwoken, hover⟩ := hspec
      simp only [Call.answer] at hexec
      split at hexec
      · split at hexec
        · split at hexec
          · cases hexec
            exact ⟨holds t, hview ▸ hover rfl, h.requeue t _, rfl⟩
          · cases hexec
        · cases hexec
      · cases hexec
        exact ⟨holds t, hview ▸ hwoken, h.requeue t _, rfl⟩
  | signal =>
      simp only [Call.answer] at hexec
      split at hexec
      · cases hexec
        exact ⟨holds t, hspec, h.requeue t _, rfl⟩
      · split at hexec
        · cases hexec
          exact ⟨holds t, hspec, h.requeue t _, rfl⟩
        · cases hexec
  | broadcast =>
      cases hexec
      exact ⟨holds t, hspec, h.requeue t _, rfl⟩

/-- What a thread's view is to it: where it is, and that the rest of its operation keeps the
discipline. -/
def Client.Knows : Client → Hold → Prop
  | .idle side, h => h.side = side
  | .running after code, h => Prog.wp holdSpec code (Returned after) h
  | .aborted, _ => False

namespace Clients

variable {s s' : Clients T D}

/-- The views of all threads in a state, with the data in order while nobody has the mutex. -/
structure Kept (g : Monitor.Guarded D) (s : Clients T D) (holds : T → Hold) : Prop where
  holding : Holding g s.kernel holds
  knows : ∀ t, (s.client t).Knows (holds t)
  ordered : s.kernel.mutex = none → g.Ordered s.kernel.data

/-- A thread goes on with its view unchanged. -/
lemma knows_update {holds : T → Hold} (h : ∀ t, (s.client t).Knows (holds t)) {t : T}
    {client : Client} (hclient : client.Knows (holds t)) (t' : T) :
    (Function.update s.client t client t').Knows (holds t') := by
  have hall := forall_threads_update (P := Client.Knows) (t := t) h hclient t'
  rwa [Function.update_eq_self] at hall

omit [DecidableEq T] in
/-- What the monitor sees of a step keeps the data in order while nobody has the mutex. -/
lemma ordered_of_shown {k k' : State T D} {label : Option (Monitor.Event T D)}
    (hordered : k.mutex = none → g.Ordered k.data)
    (hshown : Transition.Shown (Monitor.Step g) label (asMonitor k) (asMonitor k'))
    (hfree : k'.mutex = none) : g.Ordered k'.data := by
  have hholder : (asMonitor k').holder = none := by rw [asMonitor, hfree]; rfl
  cases label with
  | none =>
      have heq : asMonitor k' = asMonitor k := hshown
      have hdata : k'.data = k.data := congrArg Monitor.State.data heq
      rw [heq] at hholder
      rw [hdata]
      exact hordered (Option.map_eq_none_iff.mp hholder)
  | some event => exact Monitor.Step.ordered hshown hholder

/-- A thread starts an operation. -/
lemma Kept.invoke (hone : repairs.patched ≠ repairs.relock) {holds : T → Hold}
    (h : Kept g s holds) {t : T} {side after : Side} {op : SyncOp}
    (hclient : s.client t = .idle side) (hafter : op.after side = some after)
    (hordered : op.givesUp → g.Ordered s.kernel.data) :
    ∃ holds', Kept g ⟨s.kernel,
      Function.update s.client t (.running after (op.code platform repairs))⟩ holds' := by
  have hside := h.knows t
  rw [hclient] at hside
  obtain rfl : (holds t).side = side := hside
  -- an operation that gives the mutex up is asked for with the data in order
  by_cases hgives : op.givesUp = true
  · obtain ⟨tidy, hview⟩ : ∃ tidy, holds t = .held tidy := by
      cases hview : holds t with
      | free => rw [hview] at hafter; cases op <;> cases hgives <;> cases hafter
      | held tidy => exact ⟨tidy, rfl⟩
    rw [hview] at hafter
    exact ⟨_, h.holding.settle hview (hordered hgives),
      forall_threads_update (P := Client.Knows) h.knows
        (wp_code platform hone (h := .held true) hafter fun _ => rfl), h.ordered⟩
  · have hcode := wp_code platform hone hafter fun hgives' => absurd hgives' hgives
    exact ⟨holds, h.holding, knows_update h.knows hcode, h.ordered⟩

/-- The thread in its critical section changes the data. -/
lemma Kept.change {holds : T → Hold} (h : Kept g s holds) {t : T}
    (hclient : s.client t = .idle .inside) (data : D) :
    (∃ holds', Kept g ⟨{ s.kernel with data := data }, s.client⟩ holds') ∧
      Monitor.Step g (asMonitor s.kernel) (.change t data)
        (asMonitor { s.kernel with data := data }) := by
  have hside := h.knows t
  rw [hclient] at hside
  obtain ⟨tidy, hview⟩ : ∃ tidy, holds t = .held tidy := by
    cases hview : holds t with
    | free => rw [hview] at hside; cases hside
    | held tidy => exact ⟨tidy, rfl⟩
  have hmutex := h.holding.mutex_eq hview
  refine ⟨⟨_, h.holding.change hview data, fun t' => ?_, fun hfree => ?_⟩, ?_⟩
  · rcases eq_or_ne t' t with rfl | hne
    · rw [Function.update_self, hclient]
      rfl
    · rw [Function.update_of_ne hne]
      exact h.knows t'
  · rw [hmutex] at hfree
    cases hfree
  · rw [asMonitor, asMonitor, hmutex]
    exact Monitor.Step.change

/-- **One step** of the threads, with exactly one of the repairs, is what the monitor sees of it. -/
lemma Kept.step (hone : repairs.patched ≠ repairs.relock) {holds : T → Hold}
    (h : Kept g s holds) {e : ClientEvent T D} (hstep : Step g platform repairs s e s') :
    (∃ holds', Kept g s' holds') ∧
      Transition.Shown (Monitor.Step g) e.shown (asMonitor s.kernel) (asMonitor s'.kernel) := by
  cases hstep with
  | @invoke t side after op hclient hafter hordered =>
      exact ⟨h.invoke hone hclient hafter hordered, rfl⟩
  | @act t after c next r kernel hclient hexec =>
      have hknows := h.knows t
      rw [hclient] at hknows
      obtain ⟨view, hnext, hholding, hshown⟩ := h.holding.call h.ordered hknows hexec
      exact ⟨⟨Function.update holds t view, hholding,
        forall_threads_update (P := Client.Knows) h.knows hnext,
        ordered_of_shown h.ordered hshown⟩, hshown⟩
  | @finish t after value hclient =>
      have hknows := h.knows t
      rw [hclient] at hknows
      exact ⟨⟨holds, h.holding, knows_update h.knows hknows.2, h.ordered⟩, rfl⟩
  | @abort t after hclient =>
      have hknows := h.knows t
      rw [hclient] at hknows
      cases hknows.1
  | @change t data hclient => exact h.change hclient data
  | pass => exact ⟨⟨holds, ⟨h.holding.count, h.holding.tidy⟩, h.knows, h.ordered⟩, rfl⟩

lemma kept_boot (g : Monitor.Guarded D) : Kept g (boot T g) fun _ => .free where
  holding := ⟨fun _ => rfl, fun _ h => by cases h⟩
  knows _ := rfl
  ordered _ := g.initial_ordered

/-- **A whole run** is seen as a run of the monitor, and the threads' views stay right. -/
theorem Kept.run (hone : repairs.patched ≠ repairs.relock) {es : List (ClientEvent T D)}
    (hrun : Transition.Run (Step g platform repairs) (boot T g) es s) :
    (∃ holds, Kept g s holds) ∧
      Transition.Run (Monitor.Step g) (Monitor.boot g) (es.filterMap ClientEvent.shown)
        (asMonitor s.kernel) := by
  refine hrun.shown (f := fun s => asMonitor s.kernel)
    (I := fun s => ∃ holds, Kept g s holds) ⟨_, kept_boot g⟩ ?_
  rintro t t' e ⟨holds, hkept⟩ hstep
  exact hkept.step hone hstep

/-- Where every view is right, the discipline holds. -/
lemma Kept.disciplined {holds : T → Hold} (h : Kept g s holds) : s.Disciplined := by
  intro t
  have hknows := h.knows t
  have hcount := h.holding.count t
  rw [hcount]
  cases hclient : s.client t with
  | idle side =>
      rw [hclient] at hknows
      obtain rfl : (holds t).side = side := hknows
      cases holds t <;> rfl
  | running after code =>
      rw [hclient] at hknows
      cases code with
      | ret value => trivial
      | act c next =>
          cases c with
          | lock way => exact congrArg Hold.count hknows.1
          | unlock => exact congrArg Hold.count hknows.1
          | pend => exact congrArg Hold.count hknows.1
          | _ => trivial
  | aborted =>
      rw [hclient] at hknows
      exact hknows

/-! ### One thread alone

For the converse one thread is enough, and a wait whose time is over at once.
-/

/-- Only thread `t` has asked for anything. -/
def solo (t : T) (kernel : State T D) (client : Client) : Clients T D :=
  ⟨kernel, Function.update (fun _ => .idle .outside) t client⟩

lemma boot_eq_solo (t : T) : boot T g = solo t (boot T g).kernel (.idle .outside) := by
  rw [solo, Function.update_eq_self_iff.mpr rfl]
  rfl

lemma solo_client (t : T) (kernel : State T D) (client : Client) :
    (solo t kernel client).client t = client := by
  simp [solo]

lemma solo_update (t : T) (kernel : State T D) (client client' : Client) :
    Function.update (solo t kernel client).client t client'
      = Function.update (fun _ => .idle .outside) t client' := by
  rw [solo, Function.update_idem]

lemma solo_invoke {t : T} {kernel : State T D} {side after : Side} {op : SyncOp}
    (hafter : op.after side = some after) (hordered : op.givesUp → g.Ordered kernel.data) :
    Step g platform repairs (solo t kernel (.idle side)) (.invoke t op)
      (solo t kernel (.running after (op.code platform repairs))) := by
  have hstep : Step g platform repairs _ (.invoke t op) _ :=
    Step.invoke (solo_client t kernel (.idle side)) hafter hordered
  rwa [solo_update] at hstep

lemma solo_act {t : T} {kernel kernel' : State T D} {after : Side} {c : Call LockCall}
    {next : c.Result → SyncProg (Option Bool)} {r : c.Result}
    (h : c.answer platform.locking t t kernel = some (r, kernel')) :
    Step g platform repairs (solo t kernel (.running after (.act c next))) (.act t c)
      (solo t kernel' (.running after (next r))) := by
  have hstep : Step g platform repairs _ (.act t c) _ :=
    Step.act (solo_client t kernel (.running after (.act c next))) ⟨t, h⟩
  rwa [solo_update] at hstep

lemma solo_lock {t : T} {kernel : State T D} {after : Side} {way : LockCall} {locked : Bool}
    {m : Mutex T} {next : Bool → SyncProg (Option Bool)}
    (h : (platform.locking way).lock t kernel.mutex = some (locked, m)) :
    Step g platform repairs (solo t kernel (.running after (.act (.lock way) next)))
      (.act t (.lock way)) (solo t { kernel with mutex := m } (.running after (next locked))) := by
  refine solo_act (c := .lock way) (r := locked) ?_
  rw [Call.answer, h]
  rfl

lemma solo_finish {t : T} {kernel : State T D} {after : Side} {value : Bool} :
    Step g platform repairs (solo t kernel (.running after (.ret (some value)))) (.finish t)
      (solo t kernel (.idle after)) := by
  have hstep : Step g platform repairs _ (.finish t) _ :=
    Step.finish (solo_client t kernel (.running after (.ret (some value))))
  rwa [solo_update] at hstep

lemma solo_abort {t : T} {kernel : State T D} {after : Side} :
    Step g platform repairs (solo t kernel (.running after (.ret none))) (.abort t)
      (solo t kernel .aborted) := by
  have hstep : Step g platform repairs _ (.abort t) _ :=
    Step.abort (solo_client t kernel (.running after (.ret none)))
  rwa [solo_update] at hstep

/-- The state in which only `t` holds the mutex, once. -/
def heldOnce (g : Monitor.Guarded D) (t : T) : State T D :=
  { (boot T g).kernel with mutex := some (t, 0) }

/-- The thread locks the mutex and asks for a wait whose time is over at once. -/
lemma run_noWait (g : Monitor.Guarded D) (platform : Platform T) (repairs : Repairs) (t : T) :
    Transition.Run (Step g platform repairs) (boot T g)
      [.invoke t .lock, .act t (.lock .pthreadMutexLock), .finish t, .invoke t (.wait .noWait)]
      (solo t (heldOnce g t)
        (.running .inside (ddsrtCondWaituntilImpl platform repairs .noWait))) := by
  rw [boot_eq_solo t]
  have hfree : (platform.locking .pthreadMutexLock).lock t (boot T g).kernel.mutex
      = some (true, some (t, 0)) := (platform.locking .pthreadMutexLock).lock_free t
  exact .cons (solo_invoke rfl fun h => by cases h) (.cons (solo_lock hfree) (.cons solo_finish
    (.cons (solo_invoke rfl fun _ => g.initial_ordered) .start)))

lemma answer_unlock_heldOnce (t : T) :
    Call.unlock.answer platform.locking t t (heldOnce g t) = some (true, (boot T g).kernel) := by
  simp [Call.answer, heldOnce, boot, Mutex.unlock]

/-- Without a repair the wait returns without the mutex. -/
lemma exists_lost (platform : Platform T) (g : Monitor.Guarded D) (t : T) :
    ∃ es s, Transition.Run (Step g platform ⟨false, false⟩) (boot T g) es s ∧
      s.client t = .idle .inside ∧ s.kernel.mutex.held t = 0 := by
  have hwait := run_noWait g platform ⟨false, false⟩ t
  rw [noWait_none] at hwait
  exact ⟨_, _, (hwait.snoc (solo_act (answer_unlock_heldOnce t))).snoc solo_finish,
    solo_client t _ _, rfl⟩

/-- A thread that is in an operation and never gets any further. -/
def Stuck (g : Monitor.Guarded D) (platform : Platform T) (repairs : Repairs) (s : Clients T D)
    (t : T) : Prop :=
  (∃ after code, s.client t = .running after code) ∧
    ∀ es s', Transition.Run (Step g platform repairs) s es s' → s'.client t = s.client t

/-- A thread that waits for a mutex of its own waits forever: nobody else can give it up. -/
lemma stuck_of_own {t : T} {again : ℕ} {after : Side} {way : LockCall}
    {next : Bool → SyncProg (Option Bool)}
    (hclient : s.client t = .running after (.act (.lock way) next))
    (hmutex : s.kernel.mutex = some (t, again))
    (hown : (platform.locking way).lock t (some (t, again)) = none) :
    Stuck g platform repairs s t := by
  refine ⟨⟨_, _, hclient⟩, fun es s' hrun => ?_⟩
  rw [hclient]
  refine (hrun.invariant (I := fun s => s.client t = .running after (.act (.lock way) next) ∧
    s.kernel.mutex = some (t, again)) ⟨hclient, hmutex⟩ ?_).1
  rintro u u' e ⟨hclient, hmutex⟩ hstep
  have hother : ∀ {t' : T} {client : Client}, u.client t' ≠ u.client t →
      Function.update u.client t' client t = .running after (.act (.lock way) next) :=
    fun hne => (Function.update_of_ne (fun heq => hne (congrArg u.client heq.symm)) _ _).trans
      hclient
  cases hstep with
  | @invoke t' side after' op hclient' => exact ⟨hother (by simp [hclient, hclient']), hmutex⟩
  | @act t' after' c next' r kernel hclient' hexec =>
      rcases eq_or_ne t t' with rfl | hne
      · -- its own next call is the lock that waits
        rw [hclient] at hclient'
        cases hclient'
        obtain ⟨pick, hanswer⟩ := hexec
        rw [Call.answer, hmutex, hown] at hanswer
        cases hanswer
      · exact ⟨(Function.update_of_ne hne _ _).trans hclient,
          (Call.mutex_of_exec_of_ne hmutex hne hexec).trans hmutex⟩
  | @finish t' after' value hclient' => exact ⟨hother (by simp [hclient, hclient']), hmutex⟩
  | @abort t' after' hclient' => exact ⟨hother (by simp [hclient, hclient']), hmutex⟩
  | change => exact ⟨hclient, hmutex⟩
  | pass => exact ⟨hclient, hmutex⟩

/-- What becomes of a thread that locks the mutex which it holds once: back in its critical section
with what the POSIX layer makes of the mutex, gone, or waiting for itself. -/
def Relocked (g : Monitor.Guarded D) (platform : Platform T) (repairs : Repairs) (t : T)
    (s : Clients T D) : Prop :=
  match (platform.locking .pthreadMutexLock).lock t (some (t, 0)) with
  | some (true, m) => s.client t = .idle .inside ∧ s.kernel.mutex = m
  | some (false, _) => s.client t = .aborted
  | none => s.kernel.mutex.held t = 1 ∧ Stuck g platform repairs s t

/-- With both repairs the wait locks the mutex that it still holds. -/
lemma exists_relocked (platform : Platform T) (g : Monitor.Guarded D) (t : T) :
    ∃ es s, Transition.Run (Step g platform ⟨true, true⟩) (boot T g) es s ∧
      Relocked g platform ⟨true, true⟩ t s := by
  have hwait := run_noWait g platform ⟨true, true⟩ t
  rw [noWait_both] at hwait
  cases hlock : (platform.locking .pthreadMutexLock).lock t (some (t, 0)) with
  | none =>
      refine ⟨_, _, hwait, ?_⟩
      rw [Relocked, hlock]
      exact ⟨Mutex.held_some_self t 0, stuck_of_own (solo_client t _ _) rfl hlock⟩
  | some outcome =>
      obtain ⟨locked, m⟩ := outcome
      cases locked with
      | true =>
          refine ⟨_, _, (hwait.snoc (solo_lock hlock)).snoc solo_finish, ?_⟩
          rw [Relocked, hlock]
          exact ⟨solo_client t _ _, rfl⟩
      | false =>
          refine ⟨_, _, (hwait.snoc (solo_lock hlock)).snoc solo_abort, ?_⟩
          rw [Relocked, hlock]
          exact solo_client t _ _

/-- With no repair a thread loses the mutex in a wait, and with both it locks the mutex that it
has. -/
lemma exists_undisciplined [Inhabited T] (platform : Platform T) (g : Monitor.Guarded D)
    {repairs : Repairs} (h : repairs.patched = repairs.relock) :
    ∃ es s, Transition.Run (Step g platform repairs) (boot T g) es s ∧ ¬ s.Disciplined := by
  obtain ⟨patched, relock⟩ := repairs
  obtain rfl : patched = relock := h
  cases patched with
  | false =>
      obtain ⟨es, s, hrun, hclient, hheld⟩ := exists_lost platform g default
      refine ⟨es, s, hrun, fun h => ?_⟩
      have hthis := h default
      rw [hclient, hheld] at hthis
      cases hthis
  | true =>
      have hwait := run_noWait g platform ⟨true, true⟩ (default : T)
      rw [noWait_both] at hwait
      refine ⟨_, _, hwait, fun h => ?_⟩
      have hthis := h default
      rw [solo_client] at hthis
      have hheld : (heldOnce (T := T) g default).mutex.held default = 0 := hthis
      rw [heldOnce, Mutex.held_some_self] at hheld
      cases hheld

/-- **The two repairs.**  Whatever the threads do and however they are scheduled, each of them has
the mutex exactly once wherever its code takes it to be its own, and none aborts, if and only if
exactly one of the two repairs is compiled in.  With neither, a thread can come back into its
critical section without the mutex.  With both, it can come to lock the mutex that it holds, and
then the POSIX layer decides whether it is back with a mutex that it has to unlock twice, calls
`abort`, or never returns. -/
theorem condvar_repairs_exact [Inhabited T] (platform : Platform T) (g : Monitor.Guarded D)
    (repairs : Repairs) :
    ((∀ es s, Transition.Run (Step g platform repairs) (boot T g) es s → s.Disciplined) ↔
      repairs.patched ≠ repairs.relock) ∧
    (repairs = ⟨false, false⟩ → ∀ t, ∃ es s,
      Transition.Run (Step g platform repairs) (boot T g) es s ∧
        s.client t = .idle .inside ∧ s.kernel.mutex.held t = 0) ∧
    (repairs = ⟨true, true⟩ → ∀ t, ∃ es s,
      Transition.Run (Step g platform repairs) (boot T g) es s ∧
        Relocked g platform repairs t s) := by
  refine ⟨⟨fun h hsame => ?_, fun hone es s hrun => ?_⟩, ?_, ?_⟩
  · obtain ⟨es, s, hrun, hbad⟩ := exists_undisciplined platform g hsame
    exact hbad (h es s hrun)
  · obtain ⟨⟨holds, hkept⟩, -⟩ := Kept.run hone hrun
    exact hkept.disciplined
  · rintro rfl t
    exact exists_lost platform g t
  · rintro rfl t
    exact exists_relocked platform g t

/-- An even number, guarded. -/
def evenNumber : Monitor.Guarded ℕ := ⟨fun n => n % 2 = 0, 0, rfl⟩

/-- With both repairs, over a POSIX mutex that counts, one that refuses and one that waits: a thread
has the mutex twice, aborts, never returns. -/
theorem condvar_repairs_exact_both :
    (∃ es s, Transition.Run (Step evenNumber
        (.ofOwn fun t again => some (true, some (t, again + 1))) ⟨true, true⟩)
        (boot Bool evenNumber) es s ∧ s.client true = .idle .inside ∧
          s.kernel.mutex.held true = 2) ∧
    (∃ es s, Transition.Run (Step evenNumber
        (.ofOwn fun t again => some (false, some (t, again))) ⟨true, true⟩)
        (boot Bool evenNumber) es s ∧ s.client true = .aborted) ∧
    (∃ es s, Transition.Run (Step evenNumber (.ofOwn fun _ _ => none) ⟨true, true⟩)
        (boot Bool evenNumber) es s ∧
          Stuck evenNumber (.ofOwn fun _ _ => none) ⟨true, true⟩ s true) := by
  refine ⟨?_, ?_, ?_⟩
  · obtain ⟨es, s, hrun, hclient, hmutex⟩ :=
      (condvar_repairs_exact (.ofOwn fun t again => some (true, some (t, again + 1))) evenNumber
        ⟨true, true⟩).2.2 rfl true
    exact ⟨es, s, hrun, hclient, by rw [hmutex]; rfl⟩
  · exact (condvar_repairs_exact (.ofOwn fun t again => some (false, some (t, again))) evenNumber
      ⟨true, true⟩).2.2 rfl true
  · obtain ⟨es, s, hrun, -, hstuck⟩ :=
      (condvar_repairs_exact (.ofOwn fun _ _ => none) evenNumber ⟨true, true⟩).2.2 rfl true
    exact ⟨es, s, hrun, hstuck⟩

end Clients

end Runs

/-! ## The builds

Which repairs a build has is decided by the tree and by the build file.
-/

/-- What a build finds in a Zephyr tree.  That the reverse of the patch applies says how the source
is written, and not, by itself, what the kernel does. -/
structure ZephyrTree where
  major : ℕ
  minor : ℕ
  patchlevel : ℕ
  /-- after a timeout `k_condvar_wait` returns with the mutex -/
  kernelRelocks : Bool
  /-- `git apply --reverse --check` of the patch succeeds -/
  reverseApplies : Bool

namespace ZephyrTree

/-- The versions that the build file looks at: 4.4.0 to 4.4.2. -/
def examined (tree : ZephyrTree) : Bool :=
  tree.major = 4 && tree.minor = 4 && tree.patchlevel ≤ 2

/-- The rule of `cmake/rmw/cyclonedds_c.cmake` for `CYCLONEDDS_ZEPHYR_CONDVAR_TIMEOUT_RELOCK`: for
these versions the macro is defined unless the patch can be taken back. -/
def conditionRelock (tree : ZephyrTree) : Bool := tree.examined && !tree.reverseApplies

/-- The repairs of a build of the POSIX port on the tree. -/
def repairs (tree : ZephyrTree) : Repairs where
  patched := tree.kernelRelocks
  relock := tree.conditionRelock

/-- The trees that the rule is right about: of the versions it examines, those on which the reverse
check tells what the kernel does; of the others, those whose kernel needs no repair. -/
def Covered (tree : ZephyrTree) : Prop :=
  if tree.examined then tree.reverseApplies = tree.kernelRelocks else tree.kernelRelocks = true

lemma repairs_one_iff (tree : ZephyrTree) :
    tree.repairs.patched ≠ tree.repairs.relock ↔ tree.Covered := by
  rw [repairs, conditionRelock, Covered]
  cases tree.examined <;> cases tree.kernelRelocks <;> cases tree.reverseApplies <;> simp

end ZephyrTree

section Builds

variable {T D : Type} [DecidableEq T]

/-- **A build on a covered tree is a monitor.**  With the macro that the build file chooses, the
mutex and the condition of the POSIX port work as a monitor for any number of threads exactly on the
trees that the rule covers.  There every step that a run can take is one of the monitor by the same
thread, or nothing to it: each lock acquires it, each unlock and each start of a sleep releases it.
So a run is one of the monitor under the labels that the monitor sees, a thread that is in its
critical section holds the mutex, also after a wait whose time was over, the guarded data is in
order whenever the mutex is free, and no thread aborts.  On any other tree some run breaks the
discipline. -/
theorem build_refines_monitor [Inhabited T] (platform : Platform T) (tree : ZephyrTree)
    (g : Monitor.Guarded D) :
    (tree.Covered → ∀ (es : List (ClientEvent T D)) (s : Clients T D),
      Transition.Run (Clients.Step g platform tree.repairs) (Clients.boot T g) es s →
        (∀ e s', Clients.Step g platform tree.repairs s e s' →
          Transition.Shown (Monitor.Step g) e.shown (asMonitor s.kernel) (asMonitor s'.kernel)) ∧
        Transition.Run (Monitor.Step g) (Monitor.boot g) (es.filterMap ClientEvent.shown)
          (asMonitor s.kernel) ∧
        (∀ t, s.client t = .idle .inside → (asMonitor s.kernel).holder = some t) ∧
        ((asMonitor s.kernel).holder = none → g.Ordered s.kernel.data) ∧
        ∀ t, s.client t ≠ .aborted) ∧
    (¬ tree.Covered → ∃ (es : List (ClientEvent T D)) (s : Clients T D),
      Transition.Run (Clients.Step g platform tree.repairs) (Clients.boot T g) es s ∧
        ¬ s.Disciplined) := by
  rw [← tree.repairs_one_iff]
  constructor
  · intro hone es s hrun
    obtain ⟨⟨holds, hkept⟩, hmonitor⟩ := Clients.Kept.run hone hrun
    refine ⟨fun e s' hstep => (hkept.step hone hstep).2, hmonitor, fun t hclient => ?_,
      Monitor.ordered_run hmonitor, fun t hclient => ?_⟩
    · have hheld := hkept.disciplined t
      rw [hclient] at hheld
      rw [asMonitor, Mutex.held_one hheld]
      rfl
    · have hnot := hkept.disciplined t
      rw [hclient] at hnot
      exact hnot
  · intro hboth
    exact Clients.exists_undisciplined platform g (not_not.mp hboth)

/-- On an unpatched 4.4.0 a thread locks the mutex, waits without time and is back with it; the
monitor sees it acquired, released and acquired again. -/
theorem build_refines_monitor_timeout :
    Transition.Run (Monitor.Step Clients.evenNumber) (Monitor.boot Clients.evenNumber)
      [.acquire true, .release true, .acquire true]
      (asMonitor (Clients.heldOnce Clients.evenNumber true)) := by
  let platform : Platform Bool := .ofOwn fun _ _ => none
  have hwait := Clients.run_noWait Clients.evenNumber platform
    (ZephyrTree.repairs ⟨4, 4, 0, false, false⟩) true
  have hrun : Transition.Run
      (Clients.Step Clients.evenNumber platform (ZephyrTree.repairs ⟨4, 4, 0, false, false⟩))
      (Clients.boot Bool Clients.evenNumber) _
      (Clients.solo true (Clients.heldOnce Clients.evenNumber true) (.idle .inside)) :=
    ((hwait.snoc (Clients.solo_act rfl)).snoc (Clients.solo_act rfl)).snoc Clients.solo_finish
  exact ((build_refines_monitor platform ⟨4, 4, 0, false, false⟩ Clients.evenNumber).1 rfl _ _
    hrun).2.1

end Builds

end Ros2Zephyr
