import Ros2Zephyr.FreeList.Magazines

/-!
# A pop that no other operation interleaves

`Finds` says what each position of a pop has found out about the free list it began with.  The loop
goes through `(k + i) % NPAR` for `i = 1, …, NPAR - 1`, which with the magazine `k` itself are all
magazines, so a pop that gives up has found everything empty.

* `lone_pop_none_iff` — a pop alone returns `NULL` exactly when there is no free object.
* `lone_pop_returns` — a pop alone returns.
* `some_thread_steps` — threads that borrow from each other do not deadlock.
* `borrowing_conserves` — in every interleaving the objects stay the same, nothing is returned that
  somebody has, and no thread holds two magazines.
-/

namespace Ros2Zephyr

namespace FreeList

open Transition

section Walk

variable {T α : Type} {npar : ℕ}

/-- There is no free object. -/
def Empty (npar : ℕ) (s : State T α) : Prop := (∀ j, j < npar → s.inner j = []) ∧ s.shared = []

/-- The walk from `k` comes to every magazine. -/
lemma exists_walk {k j : ℕ} (hk : k < npar) (hj : j < npar) :
    ∃ i, i < npar ∧ (k + i) % npar = j := by
  by_cases hle : k ≤ j
  · refine ⟨j - k, by omega, ?_⟩
    rw [Nat.add_sub_cancel' hle, Nat.mod_eq_of_lt hj]
  · refine ⟨npar + j - k, by omega, ?_⟩
    rw [Nat.add_sub_cancel' (by omega), Nat.add_mod_left, Nat.mod_eq_of_lt hj]

/-- What a pop from magazine `k` has found out about the free list `s₀` it began with. -/
def Finds (npar : ℕ) (s₀ : State T α) (k : ℕ) : Position α → Prop
  | .holding operation k' _ => operation = .pop ∧ k' = k
  | .leaving _ next => Finds npar s₀ k next
  | .borrowing k' i | .examining k' i =>
      k' = k ∧ s₀.shared = [] ∧ ∀ j, j < i → s₀.inner ((k + j) % npar) = []
  | .popped none => Empty npar s₀
  | .popped (some _) => ¬ Empty npar s₀
  | .outside => False

/-- No object is returned yet. -/
def Position.Pending : Position α → Prop
  | popped (some _) => False
  | leaving _ next => next.Pending
  | _ => True

/-- A pop of `t` from magazine `k` that began with `s₀`. -/
structure Popping (npar : ℕ) (s₀ : State T α) (t : T) (k : ℕ) (s : State T α) : Prop where
  finds : Finds npar s₀ k (s.position t)
  unchanged : (s.position t).Pending → s.inner = s₀.inner ∧ s.shared = s₀.shared

/-- Not the beginning of another operation. -/
def Label.continues : Label T α → Bool
  | lockInner _ _ _ => false
  | _ => true

namespace Popping

variable {s₀ s : State T α} {t : T} {k : ℕ} {p : Position α}

lemma at_position (h : Popping npar s₀ t k s) (hposition : s.position t = p) :
    Finds npar s₀ k p ∧ (p.Pending → s.inner = s₀.inner ∧ s.shared = s₀.shared) := by
  rw [← hposition]
  exact ⟨h.finds, h.unchanged⟩

variable [DecidableEq T]

lemma moveTo (hfinds : Finds npar s₀ k p)
    (hunchanged : p.Pending → s.inner = s₀.inner ∧ s.shared = s₀.shared) :
    Popping npar s₀ t k (s.moveTo t p) := by
  constructor
  · rw [State.position_moveTo]
    exact hfinds
  · rw [State.position_moveTo]
    exact hunchanged

lemma leave {k' : ℕ} {list : Bool} (hfinds : Finds npar s₀ k p)
    (hunchanged : p.Pending → s.inner = s₀.inner ∧ s.shared = s₀.shared) :
    Popping npar s₀ t k (s.leave t k' list p) := by
  cases list with
  | false => exact moveTo hfinds hunchanged
  | true => exact moveTo (p := .leaving k' p) hfinds hunchanged

/-- **What a pop knows, step by step.** -/
theorem step [DecidableEq α] {s' : State T α} {label : Label T α} (hk : k < npar)
    (h : Popping npar s₀ t k s) (hstep : Stepped npar s label s') (hthread : label.thread = t)
    (hcontinues : label.continues = true) : Popping npar s₀ t k s' := by
  subst hthread
  cases hstep with
  | lockInner => cases hcontinues
  | lockList hposition _ =>
      obtain ⟨hfinds, hunchanged⟩ := h.at_position hposition
      exact moveTo hfinds hunchanged
  | take hposition _ hperm =>
      obtain ⟨⟨_, rfl⟩, hunchanged⟩ := h.at_position hposition
      obtain ⟨hinner, hshared⟩ := hunchanged trivial
      refine leave (fun hempty => ?_) False.elim
      rw [hinner, hshared, hempty.1 _ hk, hempty.2] at hperm
      exact List.cons_ne_nil _ _ hperm.eq_nil
  | findNone hposition hinner hshared =>
      obtain ⟨⟨_, rfl⟩, hunchanged⟩ := h.at_position hposition
      have hsame := hunchanged trivial
      refine leave ⟨rfl, hsame.2 ▸ hshared, fun j hj => ?_⟩ fun _ => hsame
      rw [Nat.lt_one_iff.mp hj, Nat.add_zero, Nat.mod_eq_of_lt hk, ← hsame.1]
      exact hinner
  | store hposition _ _ _ => cases (h.at_position hposition).1.1
  | refuse hposition => cases (h.at_position hposition).1.1
  | unlockInner hposition =>
      obtain ⟨hfinds, hunchanged⟩ := h.at_position hposition
      exact moveTo hfinds hunchanged
  | lockOther hposition _ _ =>
      obtain ⟨hfinds, hunchanged⟩ := h.at_position hposition
      exact moveTo hfinds hunchanged
  | @borrow _ _ i object hposition hobject =>
      obtain ⟨⟨rfl, _⟩, hunchanged⟩ := h.at_position hposition
      refine moveTo (fun hempty => ?_) False.elim
      rw [(hunchanged trivial).1, hempty.1 _ (Nat.mod_lt _ (by omega))] at hobject
      cases hobject
  | @goOn _ _ i hposition hempty =>
      obtain ⟨⟨rfl, hshared, hwalk⟩, hunchanged⟩ := h.at_position hposition
      have hsame := hunchanged trivial
      refine moveTo ⟨rfl, hshared, fun j hj => ?_⟩ fun _ => hsame
      rcases Nat.lt_succ_iff_lt_or_eq.mp hj with hj | rfl
      · exact hwalk j hj
      · rw [← hsame.1]
        exact hempty
  | giveUp hposition hi =>
      obtain ⟨⟨rfl, hshared, hwalk⟩, hunchanged⟩ := h.at_position hposition
      refine moveTo ⟨fun j hj => ?_, hshared⟩ fun _ => hunchanged trivial
      obtain ⟨i, hlt, rfl⟩ := exists_walk hk hj
      exact hwalk i (lt_of_lt_of_le hlt hi)

end Popping

end Walk

section Lone

variable {T α : Type} [DecidableEq T] [DecidableEq α] {npar : ℕ} {s₀ s : State T α} {t : T} {k : ℕ}
  {labels : List (Label T α)}

/-- The labels are those of one operation of `t`, behind its beginning. -/
def Lone (t : T) (labels : List (Label T α)) : Prop :=
  ∀ label ∈ labels, label.thread = t ∧ label.continues = true

/-- A pop knows what it has found, at every point of its run. -/
lemma popping_of_run (hlone : Lone t labels)
    (hrun : Run (ofPartial (step npar)) s₀ (.lockInner t .pop k :: labels) s) :
    Popping npar s₀ t k s := by
  obtain ⟨s₁, hbegin, hrest⟩ := hrun.first
  cases stepped_of_step hbegin with
  | lockInner _ hk _ _ =>
      have hstart : Popping npar s₀ t k ((s₀.lock t k).moveTo t (.holding .pop k false)) :=
        Popping.moveTo ⟨rfl, rfl⟩ fun _ => ⟨rfl, rfl⟩
      refine hrest.labelled_invariant (I := fun labels s => Lone t labels → Popping npar s₀ t k s)
        (fun _ => hstart) ?_ hlone
      intro past s s' label ih hstep hlone
      obtain ⟨hthread, hcontinues⟩ := hlone label (by simp)
      have hpast : Lone t past := fun l hl => hlone l (List.mem_append_left _ hl)
      exact (ih hpast).step hk (stepped_of_step hstep) hthread hcontinues

/-- **A pop alone returns `NULL` exactly when there is no free object.** -/
theorem lone_pop_none_iff {result : Option α} (hlone : Lone t labels)
    (hrun : Run (ofPartial (step npar)) s₀ (.lockInner t .pop k :: labels) s)
    (hposition : s.position t = .popped result) : result = none ↔ Empty npar s₀ := by
  have hfinds := ((popping_of_run hlone hrun).at_position hposition).1
  cases result with
  | none => exact iff_of_true rfl hfinds
  | some object => exact iff_of_false (Option.some_ne_none object) hfinds

/-- The operation of `t` ends, by steps of `t` alone, with a return of its pop. -/
def Returns (npar : ℕ) (t : T) (s : State T α) : Prop :=
  ∃ labels s' result, Lone t labels ∧ Run (ofPartial (step npar)) s labels s' ∧
    s'.position t = .popped result

lemma returns_of_popped {result : Option α} (hposition : s.position t = .popped result) :
    Returns npar t s :=
  ⟨[], s, result, fun _ hl => absurd hl List.not_mem_nil, Run.start, hposition⟩

lemma returns_of_stepped {s' : State T α} {label : Label T α} (hstep : Stepped npar s label s')
    (hthread : label.thread = t) (hcontinues : label.continues = true) (h : Returns npar t s') :
    Returns npar t s := by
  obtain ⟨labels, s'', result, hlone, hrun, hposition⟩ := h
  refine ⟨label :: labels, s'', result, ?_, hrun.cons (step_of_stepped hstep), hposition⟩
  intro l hl
  rcases List.mem_cons.mp hl with rfl | hl
  · exact ⟨hthread, hcontinues⟩
  · exact hlone l hl

/-- The loop ends: it has `npar - i` magazines before it. -/
lemma loop_returns {i : ℕ} (hposition : s.position t = .borrowing k i)
    (hfree : ∀ j, s.innerLock j = none) : Returns npar t s := by
  induction hleft : npar - i generalizing s i with
  | zero =>
      exact returns_of_stepped (.giveUp hposition (by omega)) rfl rfl
        (returns_of_popped (State.position_moveTo ..))
  | succ left ih =>
      refine returns_of_stepped (.lockOther hposition (by omega) (hfree _)) rfl rfl ?_
      have hexamining := State.position_moveTo (s.lock t ((k + i) % npar)) t (.examining k i)
      cases hobject : (s.inner ((k + i) % npar)).getLast? with
      | some object =>
          exact returns_of_stepped (.borrow hexamining hobject) rfl rfl
            (returns_of_popped (State.position_moveTo ..))
      | none =>
          have hempty := List.getLast?_eq_none_iff.mp hobject
          refine returns_of_stepped (.goOn hexamining hempty) rfl rfl ?_
          refine ih (State.position_moveTo ..) (fun j => ?_) (by omega)
          exact (congrFun (State.innerLock_unlock_lock (hfree _) t) j).trans (hfree j)

/-- **A pop alone returns**, from every state where the locks are free. -/
theorem lone_pop_returns (hk : k < npar) (houtside : (s.position t).isOutside = true)
    (hfree : ∀ j, s.innerLock j = none) (hlist : s.listLock = none) :
    ∃ labels s' result, Lone t labels ∧
      Run (ofPartial (step npar)) s (.lockInner t .pop k :: labels) s' ∧
      s'.position t = .popped result := by
  have hbegin : Stepped npar s (.lockInner t .pop k) _ := .lockInner houtside hk (hfree k) trivial
  suffices h : Returns npar t ((s.lock t k).moveTo t (.holding .pop k false)) by
    obtain ⟨labels, s', result, hlone, hrun, hposition⟩ := h
    exact ⟨labels, s', result, hlone, hrun.cons (step_of_stepped hbegin), hposition⟩
  refine returns_of_stepped (.lockList (State.position_moveTo ..) hlist) rfl rfl ?_
  rcases exists_taken (s.inner k) s.shared with ⟨hinner, hshared⟩ | ⟨inner, shared, object, hperm⟩
  · refine returns_of_stepped (.findNone (State.position_moveTo ..) hinner hshared) rfl rfl ?_
    refine returns_of_stepped (.unlockInner (State.position_moveTo ..)) rfl rfl ?_
    refine loop_returns (State.position_moveTo ..) fun j => ?_
    exact (congrFun (State.innerLock_unlock_lock (hfree k) t) j).trans (hfree j)
  · refine returns_of_stepped (.take (State.position_moveTo ..) (.inl rfl) hperm) rfl rfl ?_
    exact returns_of_stepped (.unlockInner (State.position_moveTo ..)) rfl rfl
      (returns_of_popped (State.position_moveTo ..))

end Lone

section Concurrent

variable {T α : Type} [DecidableEq T] [DecidableEq α] {npar : ℕ} {s₀ s : State T α} {t : T}
  {labels : List (Label T α)}

/-- Some thread can go on with its operation. -/
def CanStep (npar : ℕ) (s : State T α) : Prop :=
  ∃ label s', label.continues = true ∧ Stepped npar s label s'

/-- Who has the list is in the critical section and can leave it. -/
lemma canStep_of_holdsList (hlist : (s.position t).holdsList = true) : CanStep npar s := by
  cases hposition : s.position t with
  | outside | popped _ | leaving _ _ | borrowing _ _ | examining _ _ =>
      rw [hposition] at hlist
      cases hlist
  | holding operation k list =>
      rw [hposition] at hlist
      cases hlist
      cases operation with
      | push object => exact ⟨_, _, rfl, .refuse hposition⟩
      | pop =>
          rcases exists_taken (s.inner k) s.shared with ⟨hinner, hshared⟩ | ⟨_, _, _, hperm⟩
          · exact ⟨_, _, rfl, .findNone hposition hinner hshared⟩
          · exact ⟨_, _, rfl, .take hposition (.inl rfl) hperm⟩

/-- A thread with the lock of a magazine waits at most for the list, and who has the list waits for
nothing. -/
lemma canStep_of_innerHeld (hlocked : Locked npar s) {j : ℕ}
    (hheld : (s.position t).innerHeld npar = some j) : CanStep npar s := by
  cases hposition : s.position t with
  | outside | popped _ | borrowing _ _ =>
      rw [hposition] at hheld
      cases hheld
  | leaving k next => exact ⟨_, _, rfl, .unlockInner hposition⟩
  | examining k i =>
      cases hobject : (s.inner ((k + i) % npar)).getLast? with
      | some object => exact ⟨_, _, rfl, .borrow hposition hobject⟩
      | none => exact ⟨_, _, rfl, .goOn hposition (List.getLast?_eq_none_iff.mp hobject)⟩
  | holding operation k list =>
      cases hlist : s.listLock with
      | some u => exact canStep_of_holdsList ((hlocked.list u).mp hlist)
      | none =>
          cases list with
          | false => exact ⟨_, _, rfl, .lockList hposition hlist⟩
          | true => exact canStep_of_holdsList (congrArg Position.holdsList hposition)

/-- **Borrowers do not deadlock**: while a thread is in an operation, some thread can go on. -/
theorem some_thread_steps (hlocked : Locked npar s) (hbusy : (s.position t).isOutside = false) :
    CanStep npar s := by
  cases hposition : s.position t with
  | outside | popped _ =>
      rw [hposition] at hbusy
      cases hbusy
  | holding | leaving | examining =>
      exact canStep_of_innerHeld hlocked (congrArg (Position.innerHeld npar) hposition)
  | borrowing k i =>
      by_cases hi : i < npar
      · cases hlock : s.innerLock ((k + i) % npar) with
        | none => exact ⟨_, _, rfl, .lockOther hposition hi hlock⟩
        | some u => exact canStep_of_innerHeld hlocked ((hlocked.inner _ u).mp hlock)
      · exact ⟨_, _, rfl, .giveUp hposition (not_lt.mp hi)⟩

/-- **Borrowing loses and duplicates nothing.**  In every interleaving, from a free list that nobody
uses, with any contents: the objects stay the same; if they are distinct, a pop returns only what
nobody has; no thread holds two magazines; and a pop alone returns, with `NULL` exactly when every
magazine and the list are empty. -/
theorem borrowing_conserves (hnpar : 0 < npar) (hquiet : Quiet s₀)
    (hrun : Run (ofPartial (step npar)) s₀ labels s) :
    s.objects npar = s₀.objects npar ∧
    ((s₀.objects npar).Nodup → ∀ label s' object, step npar s label = some s' →
      returned npar s label = some object →
        (label.thread, object) ∈ s'.hands ∧ ∀ u, (u, object) ∉ s.hands) ∧
    (∀ t j j', s.innerLock j = some t → s.innerLock j' = some t → j = j') ∧
    (∀ t k, k < npar → (s.position t).isOutside = true → (∀ j, s.innerLock j = none) →
      s.listLock = none → ∃ rest s' result, Lone t rest ∧
        Run (ofPartial (step npar)) s (.lockInner t .pop k :: rest) s' ∧
        s'.position t = .popped result) ∧
    (∀ t k rest s' result, Lone t rest →
      Run (ofPartial (step npar)) s (.lockInner t .pop k :: rest) s' →
      s'.position t = .popped result → (result = none ↔ Empty npar s)) := by
  obtain ⟨hlocked, hobjects⟩ := run_locked_objects hnpar hquiet hrun
  refine ⟨hobjects, ?_, ?_, ?_, ?_⟩
  · intro hdistinct label s' object hstep hreturned
    have hstepped := stepped_of_step hstep
    have hhands := hands_of_returned hstepped hreturned
    have hsame : (s'.objects npar).Nodup := by
      rw [step_objects hnpar hlocked hstepped, hobjects]
      exact hdistinct
    have hnodup := nodup_hands hsame
    rw [hhands, List.map_cons] at hnodup
    refine ⟨hhands ▸ List.mem_cons_self, fun u hu => ?_⟩
    exact (List.nodup_cons.mp hnodup).1 (List.mem_map.mpr ⟨(u, object), hu, rfl⟩)
  · intro t j j' hj hj'
    have hheld := (hlocked.inner j t).mp hj
    rw [(hlocked.inner j' t).mp hj', Option.some.injEq] at hheld
    exact hheld.symm
  · intro t k hk houtside hfree hlist
    exact lone_pop_returns hk houtside hfree hlist
  · intro t k rest s' result hlone hlonely hposition
    exact lone_pop_none_iff hlone hlonely hposition

/-- Magazine 2 has two objects, and one caller has a third. -/
def borrowStart : State Bool ℕ where
  inner k := if k = 2 then [7, 8] else []
  shared := []
  innerLock _ := none
  listLock := none
  hands := [(false, 5)]
  position _ := .outside

/-- The pop has left magazine 0 when the push puts its object into magazine 1. -/
def borrowLabels : List (Label Bool ℕ) :=
  [.lockInner true .pop 0, .lockList true, .findNone true, .unlockInner true,
    .lockInner false (.push 5) 1, .store false [5] [], .lockOther true, .examine true]

lemma borrowStart_quiet : Quiet borrowStart :=
  ⟨fun _ => rfl, rfl, fun _ => rfl⟩

theorem borrowing_conserves_pushed_between : ∃ s,
    Run (ofPartial (step 3)) borrowStart borrowLabels s ∧ s.position true = .popped (some 5) ∧
      s.objects 3 = borrowStart.objects 3 := by
  have hend : (runLabels (step 3) borrowStart borrowLabels).map (fun s => s.position true) =
      some (.popped (some 5)) := by decide
  obtain ⟨s, hs, hposition⟩ := Option.map_eq_some_iff.mp hend
  have hrun := run_of_runLabels hs
  exact ⟨s, hrun, hposition, (borrowing_conserves (by decide) borrowStart_quiet hrun).1⟩

end Concurrent

end FreeList

end Ros2Zephyr
