import Mathlib.Algebra.BigOperators.Group.Finset.Basic
import Mathlib.Algebra.Order.BigOperators.Group.Finset
import Mathlib.Algebra.Order.Group.Multiset
import Ros2Zephyr.Core.Transition

/-!
# Magazines of free objects

The free list of Cyclone DDS with `patches/cyclonedds-partial-magazines.patch`: `NPAR` local
magazines, each with its lock, and a list of full magazines with a lock of its own.  A pop that
finds its magazine and the list empty goes through the other magazines and borrows an object.

The steps are those between two operations on a lock.  Of the code that the patch leaves as it is,
only the following is assumed: it holds the lock of one magazine, and that of the list when it
changes the list; in that critical section it moves one object between the caller and the magazine
or the list, or a push refuses the object; and it goes on to the other magazines only when its own
and the list are empty.

* `step` — the steps of all threads; the loop that borrows is as the patch has it.
* `Locked` — which locks a thread holds at each position.
* `State.objects` — all objects, wherever they are; `step_objects`: no step loses or duplicates one.
* `run_locked_objects` — the same for every interleaving.
-/

namespace Ros2Zephyr

namespace FreeList

open Transition

section Model

variable {T α : Type}

inductive Operation (α : Type)
  | pop
  | push (object : α)
  deriving DecidableEq

/-- Where a thread is. -/
inductive Position (α : Type)
  | outside
  /-- behind a pop that returned this; `none` is `NULL` -/
  | popped (result : Option α)
  /-- in the critical section of magazine `k`, with the lock of the list or without it -/
  | holding (operation : Operation α) (k : ℕ) (list : Bool)
  /-- between the release of the list and that of magazine `k` -/
  | leaving (k : ℕ) (next : Position α)
  /-- in the loop, before the test of its condition -/
  | borrowing (k i : ℕ)
  /-- in the loop, with the lock of the other magazine -/
  | examining (k i : ℕ)
  deriving DecidableEq

def Position.isOutside : Position α → Bool
  | outside | popped _ => true
  | _ => false

abbrev FullMagazine (α : Type) := { m : List α // m ≠ [] }

/-- The objects in the list of full magazines. -/
def stored (shared : List (FullMagazine α)) : List α := shared.flatMap Subtype.val

/-- What a pop in its critical section can take. -/
lemma exists_taken (inner : List α) (shared : List (FullMagazine α)) :
    (inner = [] ∧ shared = []) ∨ ∃ inner' shared' object,
      (object :: (inner' ++ stored shared')).Perm (inner ++ stored shared) := by
  cases inner with
  | cons object inner => exact .inr ⟨inner, shared, object, List.Perm.refl _⟩
  | nil =>
      cases shared with
      | nil => exact .inl ⟨rfl, rfl⟩
      | cons m shared =>
          obtain ⟨object, rest, hm⟩ := List.exists_cons_of_ne_nil m.2
          refine .inr ⟨rest, shared, object, ?_⟩
          simp [stored, hm]

/-- The free list and its users; `hands` says who has which object. -/
structure State (T α : Type) where
  inner : ℕ → List α
  shared : List (FullMagazine α)
  innerLock : ℕ → Option T
  listLock : Option T
  hands : List (T × α)
  position : T → Position α

inductive Label (T α : Type)
  /-- an operation begins and takes the lock of a magazine -/
  | lockInner (t : T) (operation : Operation α) (k : ℕ)
  | lockList (t : T)
  /-- a pop takes an object and leaves these contents -/
  | take (t : T) (inner : List α) (shared : List (FullMagazine α)) (object : α)
  /-- a pop finds its magazine and the list empty -/
  | findNone (t : T)
  /-- a push stores its object and leaves these contents -/
  | store (t : T) (inner : List α) (shared : List (FullMagazine α))
  | refuse (t : T)
  | unlockInner (t : T)
  | lockOther (t : T)
  | examine (t : T)
  | giveUp (t : T)

def Label.thread : Label T α → T
  | lockInner t _ _ | lockList t | take t _ _ _ | findNone t | store t _ _ | refuse t
  | unlockInner t | lockOther t | examine t | giveUp t => t

namespace State

def lock (s : State T α) (t : T) (k : ℕ) : State T α :=
  { s with innerLock := Function.update s.innerLock k (some t) }

def unlock (s : State T α) (k : ℕ) : State T α :=
  { s with innerLock := Function.update s.innerLock k none }

lemma innerLock_unlock_lock {s : State T α} {k : ℕ} (hfree : s.innerLock k = none) (t : T) :
    ((s.lock t k).unlock k).innerLock = s.innerLock := by
  show Function.update (Function.update s.innerLock k (some t)) k none = s.innerLock
  rw [Function.update_idem, ← hfree, Function.update_eq_self]

def setInner (s : State T α) (k : ℕ) (contents : List α) : State T α :=
  { s with inner := Function.update s.inner k contents }

variable [DecidableEq T]

def moveTo (s : State T α) (t : T) (position : Position α) : State T α :=
  { s with position := Function.update s.position t position }

lemma position_moveTo (s : State T α) (t : T) (p : Position α) : (s.moveTo t p).position t = p :=
  Function.update_self ..

/-- The end of a critical section: the lock of the list is released first. -/
def leave (s : State T α) (t : T) (k : ℕ) (list : Bool) (next : Position α) : State T α :=
  if list then { s with listLock := none }.moveTo t (.leaving k next)
  else (s.unlock k).moveTo t next

end State

variable [DecidableEq T] [DecidableEq α]

/-- The object that an operation brings is in the hands of its caller. -/
def Operation.BroughtBy (operation : Operation α) (t : T) (hands : List (T × α)) : Prop :=
  match operation with
  | .pop => True
  | .push object => (t, object) ∈ hands

instance : {operation : Operation α} → {t : T} → {hands : List (T × α)} →
    Decidable (operation.BroughtBy t hands)
  | .pop, _, _ => .isTrue trivial
  | .push object, t, hands => inferInstanceAs (Decidable ((t, object) ∈ hands))

/-- The steps of the threads, with `npar` magazines. -/
def step (npar : ℕ) (s : State T α) : Label T α → Option (State T α)
  | .lockInner t operation k =>
      if (s.position t).isOutside ∧ k < npar ∧ s.innerLock k = none ∧
          operation.BroughtBy t s.hands then
        some ((s.lock t k).moveTo t (.holding operation k false))
      else none
  | .lockList t =>
      match s.position t with
      | .holding operation k false =>
          if s.listLock = none then
            some ({ s with listLock := some t }.moveTo t (.holding operation k true))
          else none
      | _ => none
  | .take t inner shared object =>
      match s.position t with
      | .holding .pop k list =>
          if (list = true ∨ shared = s.shared) ∧
              (object :: (inner ++ stored shared)).Perm (s.inner k ++ stored s.shared) then
            some (({ s with shared := shared, hands := (t, object) :: s.hands }.setInner k
              inner).leave t k list (.popped (some object)))
          else none
      | _ => none
  | .findNone t =>
      match s.position t with
      | .holding .pop k true =>
          if s.inner k = [] ∧ s.shared = [] then some (s.leave t k true (.borrowing k 1)) else none
      | _ => none
  | .store t inner shared =>
      match s.position t with
      | .holding (.push object) k list =>
          if (t, object) ∈ s.hands ∧ (list = true ∨ shared = s.shared) ∧
              (inner ++ stored shared).Perm (object :: (s.inner k ++ stored s.shared)) then
            some (({ s with shared := shared, hands := s.hands.erase (t, object) }.setInner k
              inner).leave t k list .outside)
          else none
      | _ => none
  | .refuse t =>
      match s.position t with
      | .holding (.push _) k list => some (s.leave t k list .outside)
      | _ => none
  | .unlockInner t =>
      match s.position t with
      | .leaving k next => some ((s.unlock k).moveTo t next)
      | _ => none
  | .lockOther t =>
      match s.position t with
      | .borrowing k i =>
          if i < npar ∧ s.innerLock ((k + i) % npar) = none then
            some ((s.lock t ((k + i) % npar)).moveTo t (.examining k i))
          else none
      | _ => none
  | .examine t =>
      match s.position t with
      | .examining k i =>
          match (s.inner ((k + i) % npar)).getLast? with
          | some object =>
              some ((({ s with hands := (t, object) :: s.hands }.setInner ((k + i) % npar)
                (s.inner ((k + i) % npar)).dropLast).unlock ((k + i) % npar)).moveTo t
                  (.popped (some object)))
          | none => some ((s.unlock ((k + i) % npar)).moveTo t (.borrowing k (i + 1)))
      | _ => none
  | .giveUp t =>
      match s.position t with
      | .borrowing _ i => if i < npar then none else some (s.moveTo t (.popped none))
      | _ => none

/-- The steps one by one, each with what enables it. -/
inductive Stepped (npar : ℕ) (s : State T α) : Label T α → State T α → Prop
  | lockInner {t : T} {operation : Operation α} {k : ℕ} (houtside : (s.position t).isOutside)
      (hk : k < npar) (hfree : s.innerLock k = none) (hbrought : operation.BroughtBy t s.hands) :
      Stepped npar s (.lockInner t operation k)
        ((s.lock t k).moveTo t (.holding operation k false))
  | lockList {t : T} {operation : Operation α} {k : ℕ}
      (hposition : s.position t = .holding operation k false) (hfree : s.listLock = none) :
      Stepped npar s (.lockList t)
        ({ s with listLock := some t }.moveTo t (.holding operation k true))
  | take {t : T} {k : ℕ} {list : Bool} {inner : List α} {shared : List (FullMagazine α)}
      {object : α} (hposition : s.position t = .holding .pop k list)
      (hlist : list = true ∨ shared = s.shared)
      (hperm : (object :: (inner ++ stored shared)).Perm (s.inner k ++ stored s.shared)) :
      Stepped npar s (.take t inner shared object)
        (({ s with shared := shared, hands := (t, object) :: s.hands }.setInner k inner).leave t k
          list (.popped (some object)))
  | findNone {t : T} {k : ℕ} (hposition : s.position t = .holding .pop k true)
      (hinner : s.inner k = []) (hshared : s.shared = []) :
      Stepped npar s (.findNone t) (s.leave t k true (.borrowing k 1))
  | store {t : T} {k : ℕ} {list : Bool} {inner : List α} {shared : List (FullMagazine α)}
      {object : α} (hposition : s.position t = .holding (.push object) k list)
      (hobject : (t, object) ∈ s.hands) (hlist : list = true ∨ shared = s.shared)
      (hperm : (inner ++ stored shared).Perm (object :: (s.inner k ++ stored s.shared))) :
      Stepped npar s (.store t inner shared)
        (({ s with shared := shared, hands := s.hands.erase (t, object) }.setInner k inner).leave t
          k list .outside)
  | refuse {t : T} {k : ℕ} {list : Bool} {object : α}
      (hposition : s.position t = .holding (.push object) k list) :
      Stepped npar s (.refuse t) (s.leave t k list .outside)
  | unlockInner {t : T} {k : ℕ} {next : Position α} (hposition : s.position t = .leaving k next) :
      Stepped npar s (.unlockInner t) ((s.unlock k).moveTo t next)
  | lockOther {t : T} {k i : ℕ} (hposition : s.position t = .borrowing k i) (hi : i < npar)
      (hfree : s.innerLock ((k + i) % npar) = none) :
      Stepped npar s (.lockOther t) ((s.lock t ((k + i) % npar)).moveTo t (.examining k i))
  | borrow {t : T} {k i : ℕ} {object : α} (hposition : s.position t = .examining k i)
      (hobject : (s.inner ((k + i) % npar)).getLast? = some object) :
      Stepped npar s (.examine t)
        ((({ s with hands := (t, object) :: s.hands }.setInner ((k + i) % npar)
          (s.inner ((k + i) % npar)).dropLast).unlock ((k + i) % npar)).moveTo t
            (.popped (some object)))
  | goOn {t : T} {k i : ℕ} (hposition : s.position t = .examining k i)
      (hempty : s.inner ((k + i) % npar) = []) :
      Stepped npar s (.examine t) ((s.unlock ((k + i) % npar)).moveTo t (.borrowing k (i + 1)))
  | giveUp {t : T} {k i : ℕ} (hposition : s.position t = .borrowing k i) (hi : npar ≤ i) :
      Stepped npar s (.giveUp t) (s.moveTo t (.popped none))

/-- **What a step can do.** -/
theorem stepped_of_step {npar : ℕ} {s s' : State T α} {label : Label T α}
    (h : step npar s label = some s') : Stepped npar s label s' := by
  cases label with
  | lockInner t operation k =>
      rw [step] at h
      split at h
      · next hguard =>
          cases h
          exact .lockInner hguard.1 hguard.2.1 hguard.2.2.1 hguard.2.2.2
      · cases h
  | lockList t =>
      rw [step] at h
      split at h
      · next hposition =>
          split at h
          · next hfree =>
              cases h
              exact .lockList hposition hfree
          · cases h
      · cases h
  | take t inner shared object =>
      rw [step] at h
      split at h
      · next hposition =>
          split at h
          · next hguard =>
              cases h
              exact .take hposition hguard.1 hguard.2
          · cases h
      · cases h
  | findNone t =>
      rw [step] at h
      split at h
      · next hposition =>
          split at h
          · next hguard =>
              cases h
              exact .findNone hposition hguard.1 hguard.2
          · cases h
      · cases h
  | store t inner shared =>
      rw [step] at h
      split at h
      · next hposition =>
          split at h
          · next hguard =>
              cases h
              exact .store hposition hguard.1 hguard.2.1 hguard.2.2
          · cases h
      · cases h
  | refuse t =>
      rw [step] at h
      split at h
      · next hposition =>
          cases h
          exact .refuse hposition
      · cases h
  | unlockInner t =>
      rw [step] at h
      split at h
      · next hposition =>
          cases h
          exact .unlockInner hposition
      · cases h
  | lockOther t =>
      rw [step] at h
      split at h
      · next hposition =>
          split at h
          · next hguard =>
              cases h
              exact .lockOther hposition hguard.1 hguard.2
          · cases h
      · cases h
  | examine t =>
      rw [step] at h
      split at h
      · next hposition =>
          split at h
          · next hobject =>
              cases h
              exact .borrow hposition hobject
          · next hempty =>
              cases h
              exact .goOn hposition (List.getLast?_eq_none_iff.mp hempty)
      · cases h
  | giveUp t =>
      rw [step] at h
      split at h
      · next hposition =>
          split at h
          · cases h
          · next hi =>
              cases h
              exact .giveUp hposition (not_lt.mp hi)
      · cases h

lemma step_of_stepped {npar : ℕ} {s s' : State T α} {label : Label T α}
    (h : Stepped npar s label s') : step npar s label = some s' := by
  cases h with
  | lockInner houtside hk hfree hbrought => simp [step, houtside, hk, hfree, hbrought]
  | lockList hposition hfree => simp [step, hposition, hfree]
  | take hposition hlist hperm => simp [step, hposition, hlist, hperm]
  | findNone hposition hinner hshared => simp [step, hposition, hinner, hshared]
  | store hposition hobject hlist hperm => simp [step, hposition, hobject, hlist, hperm]
  | refuse hposition => simp [step, hposition]
  | unlockInner hposition => simp [step, hposition]
  | lockOther hposition hi hfree => simp [step, hposition, hi, hfree]
  | borrow hposition hobject => simp [step, hposition, hobject]
  | goOn hposition hempty => simp [step, hposition, hempty]
  | giveUp hposition hi => simp [step, hposition, not_lt.mpr hi]

end Model

section Locks

variable {T α : Type} {npar : ℕ}

namespace Position

/-- The magazine whose lock a thread holds here, at most one. -/
def innerHeld (npar : ℕ) : Position α → Option ℕ
  | holding _ k _ | leaving k _ => some k
  | examining k i => some ((k + i) % npar)
  | outside | popped _ | borrowing _ _ => none

def holdsList : Position α → Bool
  | holding _ _ list => list
  | _ => false

/-- No lock is held. -/
def Unlocked (npar : ℕ) (p : Position α) : Prop := p.innerHeld npar = none ∧ p.holdsList = false

lemma unlocked_of_isOutside {p : Position α} (h : p.isOutside = true) : p.Unlocked npar := by
  cases p with
  | outside | popped _ => exact ⟨rfl, rfl⟩
  | _ => cases h

end Position

/-- The locks are held by the threads whose positions say so. -/
structure Locked (npar : ℕ) (s : State T α) : Prop where
  inner : ∀ j t, s.innerLock j = some t ↔ (s.position t).innerHeld npar = some j
  list : ∀ t, s.listLock = some t ↔ (s.position t).holdsList = true
  bound : ∀ t j, (s.position t).innerHeld npar = some j → j < npar
  next : ∀ t k next, s.position t = .leaving k next → next.Unlocked npar

namespace Locked

variable {s : State T α} {t : T} {k : ℕ} {p : Position α}

/-- Only the locks and the positions count. -/
lemma congr {s' : State T α} (h : Locked npar s) (hinner : s'.innerLock = s.innerLock)
    (hlist : s'.listLock = s.listLock) (hposition : s'.position = s.position) : Locked npar s' where
  inner j u := by
    rw [hinner, hposition]
    exact h.inner j u
  list u := by
    rw [hlist, hposition]
    exact h.list u
  bound u j := by
    rw [hposition]
    exact h.bound u j
  next u k next := by
    rw [hposition]
    exact h.next u k next

lemma list_ne (h : Locked npar s) (hlist : (s.position t).holdsList = false) :
    s.listLock ≠ some t := by
  rw [ne_eq, h.list, hlist]
  exact Bool.false_ne_true

lemma lt_of_holding {operation : Operation α} {list : Bool} (h : Locked npar s)
    (hposition : s.position t = .holding operation k list) : k < npar :=
  h.bound t k (congrArg (Position.innerHeld npar) hposition)

variable [DecidableEq T]

/-- One thread moves and changes its own locks only. -/
lemma move {s' : State T α} (h : Locked npar s)
    (hposition : s'.position = Function.update s.position t p)
    (hinner : ∀ j, s'.innerLock j = some t ↔ p.innerHeld npar = some j)
    (hothers : ∀ j u, u ≠ t → (s'.innerLock j = some u ↔ s.innerLock j = some u))
    (hlist : s'.listLock = some t ↔ p.holdsList = true)
    (hlistOthers : ∀ u, u ≠ t → (s'.listLock = some u ↔ s.listLock = some u))
    (hbound : ∀ j, p.innerHeld npar = some j → j < npar)
    (hnext : ∀ k next, p = .leaving k next → next.Unlocked npar) : Locked npar s' := by
  constructor
  · intro j
    rw [hposition]
    exact (Function.forall_update_iff s.position fun u p =>
      s'.innerLock j = some u ↔ p.innerHeld npar = some j).mpr
        ⟨hinner j, fun u hu => (hothers j u hu).trans (h.inner j u)⟩
  · rw [hposition]
    exact (Function.forall_update_iff s.position fun u p =>
      s'.listLock = some u ↔ p.holdsList = true).mpr
        ⟨hlist, fun u hu => (hlistOthers u hu).trans (h.list u)⟩
  · rw [hposition]
    exact (Function.forall_update_iff s.position fun _ p =>
      ∀ j, p.innerHeld npar = some j → j < npar).mpr ⟨hbound, fun u _ => h.bound u⟩
  · rw [hposition]
    exact (Function.forall_update_iff s.position fun _ p =>
      ∀ k next, p = .leaving k next → next.Unlocked npar).mpr ⟨hnext, fun u _ => h.next u⟩

/-- A thread without a lock takes that of a magazine. -/
lemma lock (h : Locked npar s) (hk : k < npar) (hfree : s.innerLock k = none)
    (hold : (s.position t).Unlocked npar) (hheld : p.innerHeld npar = some k)
    (hlist : p.holdsList = false) (hnext : ∀ k next, p ≠ .leaving k next) :
    Locked npar ((s.lock t k).moveTo t p) := by
  have hinner : ∀ j u, (s.lock t k).innerLock j = some u ↔
      if j = k then t = u else s.innerLock j = some u := by
    intro j u
    by_cases hj : j = k
    · subst hj
      simp [State.lock]
    · simp [State.lock, hj]
  refine h.move rfl (fun j => (hinner j t).trans ?_) (fun j u hu => (hinner j u).trans ?_) ?_
    (fun _ _ => Iff.rfl) (fun j hj => ?_) (fun k next hp => absurd hp (hnext k next))
  · rw [h.inner, hold.1, hheld]
    by_cases hj : j = k
    · simp [hj]
    · simp [hj, Ne.symm hj]
  · by_cases hj : j = k
    · simp [hj, hfree, Ne.symm hu]
    · simp [hj]
  · rw [hlist]
    exact iff_of_false (h.list_ne hold.2) Bool.false_ne_true
  · rw [hheld, Option.some.injEq] at hj
    exact hj ▸ hk

/-- A thread gives back its only lock. -/
lemma unlock (h : Locked npar s) (hold : (s.position t).innerHeld npar = some k)
    (holdList : (s.position t).holdsList = false) (hp : p.Unlocked npar) :
    Locked npar ((s.unlock k).moveTo t p) := by
  have hinner : ∀ j u, (s.unlock k).innerLock j = some u ↔ j ≠ k ∧ s.innerLock j = some u := by
    intro j u
    by_cases hj : j = k
    · subst hj
      simp [State.unlock]
    · simp [State.unlock, hj]
  have hmine : s.innerLock k = some t := (h.inner k t).mpr hold
  refine h.move rfl (fun j => (hinner j t).trans ?_) (fun j u hu => (hinner j u).trans ?_) ?_
    (fun _ _ => Iff.rfl) (fun j hj => ?_) (fun k next heq => ?_)
  · rw [h.inner, hold, hp.1, Option.some.injEq]
    simp only [reduceCtorEq, iff_false, not_and]
    exact fun hj heq => hj heq.symm
  · refine and_iff_right_of_imp fun hlock => ?_
    rintro rfl
    rw [hmine, Option.some.injEq] at hlock
    exact hu hlock.symm
  · rw [hp.2]
    exact iff_of_false (h.list_ne holdList) Bool.false_ne_true
  · rw [hp.1] at hj
    cases hj
  · rw [heq] at hp
    cases hp.1

/-- A thread moves without locks. -/
lemma stay (h : Locked npar s) (hold : (s.position t).Unlocked npar) (hp : p.Unlocked npar) :
    Locked npar (s.moveTo t p) := by
  refine h.move rfl (fun j => ?_) (fun _ _ _ => Iff.rfl) ?_ (fun _ _ => Iff.rfl) (fun j hj => ?_)
    (fun k next heq => ?_)
  · rw [hp.1, ← hold.1]
    exact h.inner j t
  · rw [hp.2]
    exact iff_of_false (h.list_ne hold.2) Bool.false_ne_true
  · rw [hp.1] at hj
    cases hj
  · rw [heq] at hp
    cases hp.1

lemma lockList (h : Locked npar s) {operation : Operation α}
    (hposition : s.position t = .holding operation k false) (hfree : s.listLock = none) :
    Locked npar ({ s with listLock := some t }.moveTo t (.holding operation k true)) := by
  have hheld : (s.position t).innerHeld npar = some k := by
    rw [hposition]
    rfl
  refine h.move rfl (fun j => ?_) (fun _ _ _ => Iff.rfl) (iff_of_true rfl rfl) (fun u hu => ?_)
    (fun j hj => ?_) (fun k next heq => ?_)
  · exact (h.inner j t).trans (by rw [hheld]; rfl)
  · rw [hfree]
    exact iff_of_false (fun heq => hu (Option.some.inj heq).symm) (by simp)
  · exact h.bound t j (hheld.trans hj)
  · cases heq

/-- The end of a critical section gives back the magazine, and the list if it was taken. -/
lemma leave (h : Locked npar s) {operation : Operation α} {list : Bool}
    (hposition : s.position t = .holding operation k list) (hp : p.Unlocked npar) :
    Locked npar (s.leave t k list p) := by
  have hheld : (s.position t).innerHeld npar = some k := by
    rw [hposition]
    rfl
  cases list with
  | false => exact h.unlock hheld (by rw [hposition]; rfl) hp
  | true =>
      have hmine : s.listLock = some t := (h.list t).mpr (by rw [hposition]; rfl)
      have hgone : ∀ u, (s.leave t k true p).listLock ≠ some u := by
        intro u heq
        cases heq
      refine h.move rfl (fun j => ?_) (fun _ _ _ => Iff.rfl)
        (iff_of_false (hgone t) Bool.false_ne_true) (fun u hu => ?_) (fun j hj => ?_)
        (fun k' next heq => ?_)
      · exact (h.inner j t).trans (by rw [hheld]; rfl)
      · rw [hmine]
        exact iff_of_false (hgone u) fun heq => hu (Option.some.inj heq).symm
      · exact h.bound t j (hheld.trans hj)
      · cases heq
        exact hp

end Locked

/-- **The locks, step by step.** -/
theorem Locked.step [DecidableEq T] [DecidableEq α] (hnpar : 0 < npar) {s s' : State T α}
    {label : Label T α} (h : Locked npar s) (hstep : Stepped npar s label s') : Locked npar s' := by
  cases hstep with
  | lockInner houtside hk hfree _ =>
      exact h.lock hk hfree (Position.unlocked_of_isOutside houtside) rfl rfl
        (fun _ _ heq => by cases heq)
  | lockList hposition hfree => exact h.lockList hposition hfree
  | @take t k list inner shared object hposition _ _ =>
      have hchanged : Locked npar
          ({ s with shared := shared, hands := (t, object) :: s.hands }.setInner k inner) :=
        h.congr rfl rfl rfl
      exact hchanged.leave hposition ⟨rfl, rfl⟩
  | findNone hposition _ _ => exact h.leave hposition ⟨rfl, rfl⟩
  | @store t k list inner shared object hposition _ _ _ =>
      have hchanged : Locked npar
          ({ s with shared := shared, hands := s.hands.erase (t, object) }.setInner k inner) :=
        h.congr rfl rfl rfl
      exact hchanged.leave hposition ⟨rfl, rfl⟩
  | refuse hposition => exact h.leave hposition ⟨rfl, rfl⟩
  | unlockInner hposition =>
      exact h.unlock (congrArg (Position.innerHeld npar) hposition)
        (congrArg Position.holdsList hposition) (h.next _ _ _ hposition)
  | lockOther hposition hi hfree =>
      exact h.lock (Nat.mod_lt _ hnpar) hfree (by rw [hposition]; exact ⟨rfl, rfl⟩) rfl rfl
        (fun _ _ heq => by cases heq)
  | @borrow t k i object hposition _ =>
      have hchanged : Locked npar ({ s with hands := (t, object) :: s.hands }.setInner
          ((k + i) % npar) (s.inner ((k + i) % npar)).dropLast) := h.congr rfl rfl rfl
      exact hchanged.unlock (congrArg (Position.innerHeld npar) hposition)
        (congrArg Position.holdsList hposition) ⟨rfl, rfl⟩
  | goOn hposition _ =>
      exact h.unlock (congrArg (Position.innerHeld npar) hposition)
        (congrArg Position.holdsList hposition) ⟨rfl, rfl⟩
  | giveUp hposition _ => exact h.stay (by rw [hposition]; exact ⟨rfl, rfl⟩) ⟨rfl, rfl⟩

end Locks

section Objects

variable {T α : Type} {npar : ℕ}

/-- All objects: in the magazines, in the list and in the hands of the callers. -/
def State.objects (npar : ℕ) (s : State T α) : Multiset α :=
  ∑ k ∈ Finset.range npar, (s.inner k : Multiset α) + (stored s.shared : Multiset α) +
    (s.hands.map Prod.snd : Multiset α)

/-- A thread that leaves its critical section keeps the objects where they are. -/
@[simp] lemma objects_leave [DecidableEq T] (s : State T α) (t : T) (k : ℕ) (list : Bool)
    (p : Position α) : (s.leave t k list p).objects npar = s.objects npar := by
  cases list <;> rfl

variable [DecidableEq α]

lemma count_objects (npar : ℕ) (s : State T α) (a : α) :
    (s.objects npar).count a =
      ∑ k ∈ Finset.range npar, (s.inner k).count a + (stored s.shared).count a +
        (s.hands.map Prod.snd).count a := by
  simp [State.objects, Multiset.count_sum']

/-- One magazine, the list and the callers exchange objects. -/
lemma objects_eq_of_exchange {s s' : State T α} {k : ℕ} {contents : List α} (hk : k < npar)
    (hinner : s'.inner = Function.update s.inner k contents)
    (hcount : ∀ a, contents.count a + (stored s'.shared).count a +
        (s'.hands.map Prod.snd).count a =
      (s.inner k).count a + (stored s.shared).count a + (s.hands.map Prod.snd).count a) :
    s'.objects npar = s.objects npar := by
  ext a
  have hmem : k ∈ Finset.range npar := Finset.mem_range.mpr hk
  have hothers : ∑ j ∈ (Finset.range npar).erase k, (s'.inner j).count a =
      ∑ j ∈ (Finset.range npar).erase k, (s.inner j).count a := by
    refine Finset.sum_congr rfl fun j hj => ?_
    rw [hinner, Function.update_of_ne (Finset.ne_of_mem_erase hj)]
  have hself : s'.inner k = contents := by
    rw [hinner, Function.update_self]
  rw [count_objects, count_objects, ← Finset.add_sum_erase _ _ hmem,
    ← Finset.add_sum_erase _ _ hmem, hothers, hself]
  have htotal := hcount a
  omega

/-- **No step loses or duplicates an object.** -/
theorem step_objects [DecidableEq T] (hnpar : 0 < npar) {s s' : State T α} {label : Label T α}
    (hlocked : Locked npar s) (hstep : Stepped npar s label s') :
    s'.objects npar = s.objects npar := by
  cases hstep with
  | lockInner | lockList | unlockInner | lockOther | goOn | giveUp => rfl
  | findNone | refuse => exact objects_leave ..
  | @take t k list inner shared object hposition _ hperm =>
      rw [objects_leave]
      refine objects_eq_of_exchange (hlocked.lt_of_holding hposition) rfl fun a => ?_
      have hcount := hperm.count_eq a
      rw [List.count_cons, List.count_append, List.count_append] at hcount
      show inner.count a + (stored shared).count a +
        (object :: s.hands.map Prod.snd).count a = _
      rw [List.count_cons]
      omega
  | @store t k list inner shared object hposition hobject _ hperm =>
      rw [objects_leave]
      refine objects_eq_of_exchange (hlocked.lt_of_holding hposition) rfl fun a => ?_
      have hcount := hperm.count_eq a
      have hhands : (s.hands.map Prod.snd).count a =
          (object :: (s.hands.erase (t, object)).map Prod.snd).count a :=
        ((List.perm_cons_erase hobject).map Prod.snd).count_eq a
      rw [List.count_cons] at hhands
      rw [List.count_append, List.count_cons, List.count_append] at hcount
      show inner.count a + (stored shared).count a +
        ((s.hands.erase (t, object)).map Prod.snd).count a = _
      omega
  | @borrow t k i object _ hobject =>
      refine objects_eq_of_exchange (Nat.mod_lt (k + i) hnpar) rfl fun a => ?_
      have hlast : s.inner ((k + i) % npar) = (s.inner ((k + i) % npar)).dropLast ++ [object] :=
        (List.dropLast_append_getLast? object hobject).symm
      have hcount := congrArg (List.count a) hlast
      rw [List.count_append, List.count_singleton] at hcount
      show _ + (stored s.shared).count a + (object :: s.hands.map Prod.snd).count a = _
      rw [List.count_cons]
      omega

end Objects

section Runs

variable {T α : Type} {npar : ℕ} {s₀ s : State T α} {labels : List (Label T α)}

/-- No thread is in an operation. -/
structure Quiet (s : State T α) : Prop where
  inner : ∀ k, s.innerLock k = none
  list : s.listLock = none
  outside : ∀ t, (s.position t).isOutside = true

lemma Quiet.unlocked (h : Quiet s) (t : T) : (s.position t).Unlocked npar :=
  Position.unlocked_of_isOutside (h.outside t)

/-- While no thread is in an operation, nobody holds a lock. -/
lemma Quiet.locked (h : Quiet s) : Locked npar s where
  inner j t := by
    rw [h.inner, (h.unlocked t).1]
    simp
  list t := by
    have hunlocked : (s.position t).Unlocked npar := h.unlocked t
    rw [h.list, hunlocked.2]
    simp
  bound t j hj := by
    rw [(h.unlocked t).1] at hj
    cases hj
  next t k next hposition := by
    have houtside := h.outside t
    rw [hposition] at houtside
    cases houtside

lemma nodup_hands (h : (s.objects npar).Nodup) : (s.hands.map Prod.snd).Nodup :=
  Multiset.coe_nodup.mp (Multiset.nodup_of_le (Multiset.le_add_left _ _) h)

variable [DecidableEq T] [DecidableEq α]

/-- **The locks and the objects, in every interleaving.** -/
theorem run_locked_objects (hnpar : 0 < npar) (hquiet : Quiet s₀)
    (hrun : Run (ofPartial (step npar)) s₀ labels s) :
    Locked npar s ∧ s.objects npar = s₀.objects npar := by
  refine hrun.invariant (I := fun s => Locked npar s ∧ s.objects npar = s₀.objects npar)
    ⟨hquiet.locked, rfl⟩ ?_
  rintro s s' label ⟨hlocked, hobjects⟩ hstep
  have hstepped := stepped_of_step hstep
  exact ⟨hlocked.step hnpar hstepped, (step_objects hnpar hlocked hstepped).trans hobjects⟩

/-- The object that a pop returns by this step. -/
def returned (npar : ℕ) (s : State T α) : Label T α → Option α
  | .take _ _ _ object => some object
  | .examine t =>
      match s.position t with
      | .examining k i => (s.inner ((k + i) % npar)).getLast?
      | _ => none
  | _ => none

/-- A returned object comes into the hands of the caller. -/
lemma hands_of_returned {s' : State T α} {label : Label T α} {object : α}
    (hstep : Stepped npar s label s') (hreturned : returned npar s label = some object) :
    s'.hands = (label.thread, object) :: s.hands := by
  cases hstep with
  | lockInner | lockList | findNone | store | refuse | unlockInner | lockOther | giveUp =>
      cases hreturned
  | @take _ _ list =>
      cases hreturned
      cases list <;> rfl
  | borrow hposition hobject =>
      rw [returned, hposition] at hreturned
      cases hobject.symm.trans hreturned
      rfl
  | goOn hposition hempty =>
      rw [returned, hposition] at hreturned
      simp [hempty] at hreturned

end Runs

end FreeList

end Ros2Zephyr
