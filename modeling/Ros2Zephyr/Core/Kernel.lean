import Mathlib.Data.List.Basic
import Ros2Zephyr.Core.Program

/-!
# Threads on a small kernel

Threads run programs over the calls of a kernel that has one mutex, one condition queue, a clock and
some shared data.  A call that has to wait is a call that is not possible yet, so the threads are
scheduled in every order that their waiting allows.

* `Mutex` — the holder and how often it locked again; `Mutex.held` is how often a thread holds it.
* `Locking` — one way to lock the mutex.  A free mutex is taken and one of another thread is waited
  for; what happens to a thread that has it already is left to the implementation.
* `Call`, `Call.answer` — the calls and what they do; the only choice is whom a signal wakes.
* `KProg` — the programs.
-/

namespace Kernel

/-- A mutex: its holder and how many times the holder has locked it again. -/
abbrev Mutex (T : Type) := Option (T × ℕ)

namespace Mutex

variable {T : Type} [DecidableEq T]

/-- Unlock the mutex once; `none` for a thread that does not hold it. -/
def unlock (t : T) : Mutex T → Option (Mutex T)
  | none => none
  | some (holder, 0) => if holder = t then some none else none
  | some (holder, again + 1) => if holder = t then some (some (t, again)) else none

/-- How many times a thread holds the mutex. -/
def held (t : T) : Mutex T → ℕ
  | none => 0
  | some (holder, again) => if holder = t then again + 1 else 0

@[simp] lemma held_none (t : T) : held t none = 0 := rfl

@[simp] lemma held_some_self (t : T) (again : ℕ) : held t (some (t, again)) = again + 1 :=
  if_pos rfl

lemma held_some_of_ne {t holder : T} (h : holder ≠ t) (again : ℕ) :
    held t (some (holder, again)) = 0 :=
  if_neg h

lemma held_one {m : Mutex T} {t : T} (h : m.held t = 1) : m = some (t, 0) := by
  rcases m with _ | ⟨holder, again⟩
  · simp at h
  · rcases eq_or_ne holder t with rfl | hne
    · rw [held_some_self, Nat.add_eq_right] at h
      rw [h]
    · simp [held_some_of_ne hne] at h

/-- A thread cannot unlock the mutex of another one. -/
lemma unlock_of_ne {t holder : T} (h : holder ≠ t) (again : ℕ) :
    unlock t (some (holder, again)) = none := by
  cases again <;> exact if_neg h

end Mutex

/-- A way to lock the mutex: whether the lock succeeds, and the mutex after it; `none` while the
thread has to wait.  Nothing is asked about a thread that holds the mutex already: it may be
counted, refused or left waiting for itself. -/
structure Locking (T : Type) where
  lock : T → Mutex T → Option (Bool × Mutex T)
  lock_free : ∀ t, lock t none = some (true, some (t, 0))
  lock_other : ∀ {t holder : T} (again : ℕ), holder ≠ t → lock t (some (holder, again)) = none

namespace Locking

variable {T : Type} [DecidableEq T]

/-- The lock that treats a thread with the mutex in a given way. -/
def ofOwn (own : T → ℕ → Option (Bool × Mutex T)) : Locking T where
  lock t
    | none => some (true, some (t, 0))
    | some (holder, again) => if holder = t then own t again else none
  lock_free _ := rfl
  lock_other _ h := if_neg h

/-- A thread without the mutex can lock it only while it is free, and then the lock succeeds. -/
lemma lock_eq_some {l : Locking T} {m m' : Mutex T} {t : T} {r : Bool} (hheld : m.held t = 0)
    (h : l.lock t m = some (r, m')) : m = none ∧ r = true ∧ m' = some (t, 0) := by
  rcases m with _ | ⟨holder, again⟩
  · rw [l.lock_free] at h
    cases h
    exact ⟨rfl, rfl, rfl⟩
  · rcases eq_or_ne holder t with rfl | hne
    · simp at hheld
    · rw [l.lock_other again hne] at h
      cases h

end Locking

/-- What the threads share. -/
structure State (T D : Type) where
  mutex : Mutex T
  queue : List T
  now : ℕ
  data : D

/-- The calls, where the mutex can be locked in several ways.  Going to sleep on the condition queue
is two calls: `pend` gives up the mutex and queues the thread in one section and answers with the
time; `awake` returns once the thread was woken, or once the deadline is over. -/
inductive Call (L : Type)
  | lock (way : L)
  | unlock
  | pend
  | awake (deadline : Option ℕ)
  | signal
  | broadcast

namespace Call

variable {T L D : Type} [DecidableEq T]

abbrev Result : Call L → Type
  | lock _ | unlock | awake _ => Bool
  | pend => ℕ
  | signal | broadcast => Unit

/-- A call of thread `t`: its result and the state after it, or `none` while it has to wait.  The
thread that a signal wakes is `pick`. -/
def answer (locking : L → Locking T) (t : T) (pick : T) :
    (c : Call L) → State T D → Option (c.Result × State T D)
  | lock way, s =>
      ((locking way).lock t s.mutex).map fun (locked, m) => (locked, { s with mutex := m })
  | unlock, s =>
      match s.mutex.unlock t with
      | some m => some (true, { s with mutex := m })
      | none => some (false, s)
  | pend, s =>
      some (s.now, { s with
        mutex := (s.mutex.unlock t).getD s.mutex
        queue := s.queue ++ [t] })
  | awake deadline, s =>
      if t ∈ s.queue then
        match deadline with
        | some time =>
            if time ≤ s.now then some (false, { s with queue := s.queue.erase t }) else none
        | none => none
      else some (true, s)
  | signal, s =>
      if s.queue = [] then some ((), s)
      else if pick ∈ s.queue then some ((), { s with queue := s.queue.erase pick })
      else none
  | broadcast, s => some ((), { s with queue := [] })

/-- What a call can do. -/
def exec (locking : L → Locking T) (t : T) (c : Call L) (s : State T D) (r : c.Result)
    (s' : State T D) : Prop :=
  ∃ pick, c.answer locking t pick s = some (r, s')

variable {locking : L → Locking T} {t : T} {c : Call L} {r : c.Result} {s s' : State T D}

/-- A call of another thread leaves the mutex with its holder. -/
lemma mutex_of_exec_of_ne {holder : T} {again : ℕ} (hmutex : s.mutex = some (holder, again))
    (hne : holder ≠ t) (h : c.exec locking t s r s') : s'.mutex = s.mutex := by
  obtain ⟨pick, h⟩ := h
  cases c with
  | lock way =>
      rw [answer, hmutex, (locking way).lock_other again hne] at h
      cases h
  | unlock =>
      rw [answer, hmutex, Mutex.unlock_of_ne hne] at h
      cases h
      rfl
  | pend =>
      rw [answer, hmutex, Mutex.unlock_of_ne hne] at h
      cases h
      exact hmutex.symm
  | awake deadline =>
      simp only [answer] at h
      split at h
      · split at h
        · split at h
          · cases h
            rfl
          · cases h
        · cases h
      · cases h
        rfl
  | signal =>
      simp only [answer] at h
      split at h
      · cases h
        rfl
      · split at h
        · cases h
          rfl
        · cases h
  | broadcast =>
      cases h
      rfl

end Call

/-- Programs over the calls. -/
abbrev KProg (L : Type) := Prog (Call L) Call.Result

/-- A call as a program. -/
def call {L : Type} (c : Call L) : KProg L c.Result := Prog.perform c

end Kernel
