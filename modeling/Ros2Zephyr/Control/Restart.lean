import Ros2Zephyr.Control.Forget
import Ros2Zephyr.Control.Safety

/-!
# What a restart remembers

`static_control_start` resets the flag of the command slot and leaves its value and receipt time
in memory.  Which of it can a later session see?  Two sessions under the same events stay equal up
to `ControlSystem.forget`, so what is left is one field: a cycle that read an unset slot publishes
the sequence number an earlier session left there.

The events of a session are a list, and the three predicates on it say when that happens:

* `NoneAccepted` — no command was accepted;
* `ReadsUnset` — the slot was read before a command was accepted;
* `CompletesUnset` — and a cycle completed after such a read.
-/

namespace Ros2Zephyr

open Transition

variable {K : Type*} [Field K] [LinearOrder K]

/-! ## Histories

A history has any number of sessions, each of them cut off anywhere.  Of all that they leave behind
only the sequence number in the slot will matter.
-/

/-- What can happen from boot on: any number of starts among the events of the sessions. -/
inductive LifetimeEvent (K : Type*)
  /-- a call of `static_control_start` that returns `true` -/
  | start
  | control (event : ControlEvent K)
deriving DecidableEq

def ControlSystem.lifetimeStep (isfinite : K → Bool) (system : ControlSystem K) :
    LifetimeEvent K → Option (ControlSystem K)
  | .start => staticControlStart system
  | .control event => system.step isfinite event

/-- The sequence number of the last command accepted in a history, zero if there is none. -/
def leftoverSequence (isfinite : K → Bool) : List (LifetimeEvent K) → UInt32 :=
  List.foldl
    (fun sequence event =>
      match event with
      | .control (.submit command receiptMs) =>
          ((submitAccepts isfinite command receiptMs).map (·.sequence)).getD sequence
      | _ => sequence)
    0

/-! ## Events before the first command

The predicates on the events of a session, each with the lemma that says what one more event
changes.
-/

/-- Every submission among the events was refused. -/
def NoneAccepted (isfinite : K → Bool) (events : List (ControlEvent K)) : Prop :=
  ∀ command receiptMs, .submit command receiptMs ∈ events →
    submitAccepts isfinite command receiptMs = none

def ReadsUnset (isfinite : K → Bool) (events : List (ControlEvent K)) : Prop :=
  ∃ before after, events = before ++ .readCommand :: after ∧ NoneAccepted isfinite before

def CompletesUnset (isfinite : K → Bool) (events : List (ControlEvent K)) : Prop :=
  ∃ before after completionMs, events = before ++ .readCommand :: after ∧
    .complete completionMs ∈ after ∧ NoneAccepted isfinite before

/-- A cycle completed before a command was accepted. -/
def CompletesEarly (isfinite : K → Bool) (events : List (ControlEvent K)) : Prop :=
  ∃ before after completionMs, events = before ++ .complete completionMs :: after ∧
    NoneAccepted isfinite before

lemma noneAccepted_append {isfinite : K → Bool} {events later : List (ControlEvent K)} :
    NoneAccepted isfinite (events ++ later)
      ↔ NoneAccepted isfinite events ∧ NoneAccepted isfinite later := by
  simp only [NoneAccepted, List.mem_append, or_imp, forall_and]

lemma noneAccepted_singleton {isfinite : K → Bool} {event : ControlEvent K} :
    NoneAccepted isfinite [event] ↔ ∀ command receiptMs, event = .submit command receiptMs →
      submitAccepts isfinite command receiptMs = none := by
  simp only [NoneAccepted, List.mem_singleton, eq_comm]

/-- One more event reads the unset slot if it is a read and nothing was accepted before it. -/
lemma readsUnset_concat {isfinite : K → Bool} {events : List (ControlEvent K)}
    {event : ControlEvent K} :
    ReadsUnset isfinite (events ++ [event])
      ↔ ReadsUnset isfinite events ∨ event = .readCommand ∧ NoneAccepted isfinite events := by
  constructor
  · rintro ⟨before, after, heq, hnone⟩
    -- the read is the new event or lies among the old ones
    rcases List.eq_nil_or_concat after with rfl | ⟨after', last, rfl⟩
    · obtain ⟨rfl, hevent⟩ := List.append_inj' heq rfl
      exact Or.inr ⟨List.head_eq_of_cons_eq hevent, hnone⟩
    · rw [List.concat_eq_append, ← List.cons_append, ← List.append_assoc] at heq
      exact Or.inl ⟨before, after', (List.append_inj' heq rfl).1, hnone⟩
  · rintro (⟨before, after, rfl, hnone⟩ | ⟨rfl, hnone⟩)
    · exact ⟨before, after ++ [event], by simp, hnone⟩
    · exact ⟨events, [], rfl, hnone⟩

/-- One more event completes such a cycle if it is a completion and there was such a read. -/
lemma completesUnset_concat {isfinite : K → Bool} {events : List (ControlEvent K)}
    {event : ControlEvent K} :
    CompletesUnset isfinite (events ++ [event])
      ↔ CompletesUnset isfinite events ∨
        (∃ completionMs, event = .complete completionMs) ∧ ReadsUnset isfinite events := by
  constructor
  · rintro ⟨before, after, completionMs, heq, hmem, hnone⟩
    rcases List.eq_nil_or_concat after with rfl | ⟨after', last, rfl⟩
    · simp at hmem
    · rw [List.concat_eq_append, ← List.cons_append, ← List.append_assoc] at heq
      obtain ⟨rfl, hevent⟩ := List.append_inj' heq rfl
      rw [List.concat_eq_append, List.mem_append, List.mem_singleton] at hmem
      rcases hmem with hmem | hlast
      · exact Or.inl ⟨before, after', completionMs, rfl, hmem, hnone⟩
      · refine Or.inr ⟨⟨completionMs, ?_⟩, before, after', rfl, hnone⟩
        rw [List.head_eq_of_cons_eq hevent, ← hlast]
  · rintro (⟨before, after, completionMs, rfl, hmem, hnone⟩ |
      ⟨⟨completionMs, rfl⟩, before, after, rfl, hnone⟩)
    · exact ⟨before, after ++ [event], completionMs, by simp, List.mem_append_left _ hmem, hnone⟩
    · exact ⟨before, after ++ [.complete completionMs], completionMs, by simp, by simp, hnone⟩

/-! ## The unset slot

Whether the slot is set, and whether a cycle in progress holds a command, is a matter of the events
alone.  `UnsetInv` says so, event by event.
-/

/-- What the events of a session say about the slot and about the command a cycle holds:
`sequence` is the number that was in the slot when the session started. -/
structure UnsetInv (isfinite : K → Bool) (sequence : UInt32) (events : List (ControlEvent K))
    (system : ControlSystem K) : Prop where
  unset : system.commandSnapshot.valid = false →
    NoneAccepted isfinite events ∧ system.commandSnapshot.value.sequence = sequence
  accepted : system.commandSnapshot.valid = true → ¬ NoneAccepted isfinite events
  heldUnset : ∀ {vars startMs command output},
    system.thread = .stepped vars startMs command output → command.valid = false →
      ReadsUnset isfinite events ∧ command.value.sequence = sequence
  heldAccepted : ∀ {vars startMs command output},
    system.thread = .stepped vars startMs command output → command.valid = true →
      ¬ NoneAccepted isfinite events
  /-- a cycle that read the unset slot has completed or is the one in progress -/
  reads : ReadsUnset isfinite events → CompletesUnset isfinite events ∨
    ∃ vars startMs command output, system.thread = .stepped vars startMs command output ∧
      command.valid = false

/-- At the start the slot is unset, with the number of an earlier session in it. -/
lemma unsetInv_start {isfinite : K → Bool} {system started : ControlSystem K}
    (h : staticControlStart system = some started) :
    UnsetInv isfinite system.commandSnapshot.value.sequence [] started := by
  simp only [staticControlStart] at h
  split at h
  · cases h
  · cases h
    refine ⟨fun _ => ⟨fun _ _ hmem => absurd hmem List.not_mem_nil, rfl⟩, ?_, ?_, ?_, ?_⟩
    · intro hvalid
      cases hvalid
    · intro _ _ _ _ hthread
      cases hthread
    · intro _ _ _ _ hthread
      cases hthread
    · rintro ⟨before, after, heq, -⟩
      simp at heq

/-- An accepted submission sets the slot; a refused one changes nothing. -/
lemma unsetInv_submit {isfinite : K → Bool} {sequence : UInt32} {events : List (ControlEvent K)}
    {system : ControlSystem K} (command : Option (StaticControlCommand K)) (receiptMs : ℤ)
    (h : UnsetInv isfinite sequence events system) :
    UnsetInv isfinite sequence (events ++ [.submit command receiptMs])
      (staticControlSubmit isfinite system command receiptMs) := by
  have hnone : NoneAccepted isfinite (events ++ [.submit command receiptMs])
      ↔ NoneAccepted isfinite events ∧ submitAccepts isfinite command receiptMs = none := by
    simp [noneAccepted_append, noneAccepted_singleton]
  have hunset : ∀ {vars startMs held output}, system.thread = .stepped vars startMs held output →
      held.valid = false → ReadsUnset isfinite (events ++ [.submit command receiptMs]) ∧
        held.value.sequence = sequence := by
    intro vars startMs held output hthread hvalid
    have := h.heldUnset hthread hvalid
    exact ⟨readsUnset_concat.mpr (Or.inl this.1), this.2⟩
  have haccepted : ∀ {vars startMs held output},
      system.thread = .stepped vars startMs held output → held.valid = true →
      ¬ NoneAccepted isfinite (events ++ [.submit command receiptMs]) := by
    intro vars startMs held output hthread hvalid hnone'
    exact h.heldAccepted hthread hvalid (hnone.mp hnone').1
  have hreads : ReadsUnset isfinite (events ++ [.submit command receiptMs]) →
      CompletesUnset isfinite (events ++ [.submit command receiptMs]) ∨
      ∃ vars startMs held output, system.thread = .stepped vars startMs held output ∧
        held.valid = false := by
    simpa [readsUnset_concat, completesUnset_concat] using h.reads
  cases haccepts : submitAccepts isfinite command receiptMs with
  | none =>
      simp only [staticControlSubmit, haccepts]
      refine ⟨fun hvalid => ?_, fun hvalid => ?_, hunset, haccepted, hreads⟩
      · exact ⟨hnone.mpr ⟨(h.unset hvalid).1, haccepts⟩, (h.unset hvalid).2⟩
      · exact fun hnone' => h.accepted hvalid (hnone.mp hnone').1
  | some accepted =>
      simp only [staticControlSubmit, haccepts]
      refine ⟨fun hvalid => ?_, fun _ hnone' => ?_, hunset, haccepted, hreads⟩
      · cases hvalid
      · rw [hnone, haccepts] at hnone'
        cases hnone'.2

/-- The events that move the thread from one position to another without touching the slot. -/
lemma unsetInv_move {isfinite : K → Bool} {sequence : UInt32} {events : List (ControlEvent K)}
    {system : ControlSystem K} {event : ControlEvent K}
    (h : UnsetInv isfinite sequence events system)
    (hevent : NoneAccepted isfinite [event]) (hread : event ≠ .readCommand)
    {stateSnapshot : StaticControlState K} {stopRequested running : Bool} {thread : ControlThread K}
    (hbefore : (∃ completionMs, event = .complete completionMs) ∨
      ∀ vars startMs command output, system.thread ≠ .stepped vars startMs command output)
    (hafter : ∀ vars startMs command output, thread ≠ .stepped vars startMs command output) :
    UnsetInv isfinite sequence (events ++ [event])
      { commandSnapshot := system.commandSnapshot, stateSnapshot, stopRequested, running
        thread } where
  unset hvalid := ⟨noneAccepted_append.mpr ⟨(h.unset hvalid).1, hevent⟩, (h.unset hvalid).2⟩
  accepted hvalid hnone := h.accepted hvalid (noneAccepted_append.mp hnone).1
  heldUnset hthread := absurd hthread (hafter _ _ _ _)
  heldAccepted hthread := absurd hthread (hafter _ _ _ _)
  reads hreads := by
    left
    rw [completesUnset_concat]
    rcases readsUnset_concat.mp hreads with hreads | ⟨heq, -⟩
    · rcases hbefore with hcomplete | hbefore
      · exact Or.inr ⟨hcomplete, hreads⟩
      · rcases h.reads hreads with hdone | ⟨vars, startMs, command, output, hthread, -⟩
        · exact Or.inl hdone
        · exact absurd hthread (hbefore vars startMs command output)
    · exact absurd heq hread

/-- The cycle takes over the slot as it is, set or unset. -/
lemma unsetInv_readCommand {isfinite : K → Bool} {sequence : UInt32}
    {events : List (ControlEvent K)} {system : ControlSystem K} {vars : ControlLocals K}
    {startMs : ℤ} (h : UnsetInv isfinite sequence events system)
    (hthread : system.thread = .released vars startMs) (vars' : ControlLocals K)
    (output : StaticControlPlantOutput K) :
    UnsetInv isfinite sequence (events ++ [.readCommand])
      { system with thread := .stepped vars' startMs system.commandSnapshot output } := by
  have hnone : NoneAccepted isfinite (events ++ [.readCommand])
      ↔ NoneAccepted isfinite events := by
    simp [noneAccepted_append, noneAccepted_singleton]
  refine ⟨fun hvalid => ⟨hnone.mpr (h.unset hvalid).1, (h.unset hvalid).2⟩,
    fun hvalid hnone' => h.accepted hvalid (hnone.mp hnone'), ?_, ?_, ?_⟩
  · rintro _ _ _ _ ⟨⟩ hvalid
    obtain ⟨hnone', hsequence⟩ := h.unset hvalid
    exact ⟨readsUnset_concat.mpr (Or.inr ⟨rfl, hnone'⟩), hsequence⟩
  · rintro _ _ _ _ ⟨⟩ hvalid hnone'
    exact h.accepted hvalid (hnone.mp hnone')
  · intro hreads
    rw [completesUnset_concat]
    rcases readsUnset_concat.mp hreads with hreads | ⟨-, hnone'⟩
    · -- the thread held no command, so the cycle of that read is over
      rcases h.reads hreads with hdone | ⟨_, _, _, _, hstepped, -⟩
      · exact Or.inl (Or.inl hdone)
      · rw [hthread] at hstepped
        cases hstepped
    · refine Or.inr ⟨_, _, _, _, rfl, ?_⟩
      cases hvalid : system.commandSnapshot.valid with
      | false => rfl
      | true => exact absurd hnone' (h.accepted hvalid)

/-- The slot and the cycle stay what the events make of them. -/
lemma unsetInv_step {isfinite : K → Bool} {sequence : UInt32} {events : List (ControlEvent K)}
    {system system' : ControlSystem K} {event : ControlEvent K}
    (h : UnsetInv isfinite sequence events system)
    (hstep : system.step isfinite event = some system') :
    UnsetInv isfinite sequence (events ++ [event]) system' := by
  cases event with
  | submit command receiptMs =>
      cases hstep
      exact unsetInv_submit command receiptMs h
  | stop =>
      cases hstep
      have hnone : NoneAccepted isfinite (events ++ [.stop]) ↔ NoneAccepted isfinite events := by
        simp [noneAccepted_append, noneAccepted_singleton]
      have hreads : ReadsUnset isfinite (events ++ [.stop]) ↔ ReadsUnset isfinite events := by
        simp [readsUnset_concat]
      have hdone : CompletesUnset isfinite (events ++ [.stop])
          ↔ CompletesUnset isfinite events := by
        simp [completesUnset_concat]
      constructor <;> simp only [hnone, hreads, hdone]
      · exact h.unset
      · exact h.accepted
      · exact h.heldUnset
      · exact h.heldAccepted
      · exact h.reads
  | enter uptimeMs =>
      simp only [ControlSystem.step] at hstep
      split at hstep <;> cases hstep
      next hthread =>
        exact unsetInv_move h (by simp [noneAccepted_singleton]) (by simp)
          (Or.inr (by simp [hthread])) (by simp)
  | release releases startMs =>
      simp only [ControlSystem.step] at hstep
      split at hstep <;> cases hstep
      next hthread _ =>
        exact unsetInv_move h (by simp [noneAccepted_singleton]) (by simp)
          (Or.inr (by simp [hthread])) (by simp)
  | readCommand =>
      simp only [ControlSystem.step] at hstep
      split at hstep <;> cases hstep
      next hthread => exact unsetInv_readCommand h hthread _ _
  | complete completionMs =>
      simp only [ControlSystem.step] at hstep
      split at hstep <;> cases hstep
      exact unsetInv_move h (by simp [noneAccepted_singleton]) (by simp)
        (Or.inl ⟨completionMs, rfl⟩) (by simp)
  | leave =>
      simp only [ControlSystem.step] at hstep
      split at hstep <;> cases hstep
      next hthread _ =>
        exact unsetInv_move h (by simp [noneAccepted_singleton]) (by simp)
          (Or.inr (by simp [hthread])) (by simp)

lemma ControlSession.step_eq_some {isfinite : K → Bool} {session session' : ControlSession K}
    {event : ControlEvent K} :
    session.step isfinite event = some session' ↔
      ∃ system, session.system.step isfinite event = some system ∧
        session.record isfinite system event = session' :=
  Option.map_eq_some_iff

lemma ControlSession.record_system {isfinite : K → Bool} (session : ControlSession K)
    (system : ControlSystem K) (event : ControlEvent K) :
    (session.record isfinite system event).system = system := by
  cases event with
  | submit command receiptMs =>
      simp only [ControlSession.record]
      split <;> rfl
  | stop | enter _ | release _ _ | readCommand | complete _ | leave => rfl

/-- Only `control_entry` and the end of a cycle publish. -/
lemma ControlSession.record_publications {isfinite : K → Bool} (session : ControlSession K)
    (system : ControlSystem K) (event : ControlEvent K) :
    (session.record isfinite system event).publications
      = session.publications ++
        match event with
        | .enter _ | .complete _ => [system.stateSnapshot]
        | _ => [] := by
  cases event with
  | submit command receiptMs =>
      simp only [ControlSession.record]
      split <;> simp
  | enter _ | complete _ => rfl
  | stop | release _ _ | readCommand | leave => simp [ControlSession.record]

lemma step_complete {isfinite : K → Bool} {system system' : ControlSystem K} {completionMs : ℤ}
    (h : system.step isfinite (.complete completionMs) = some system') :
    ∃ vars startMs command output, system.thread = .stepped vars startMs command output ∧
      system'.stateSnapshot.commandSequence = command.value.sequence := by
  simp only [ControlSystem.step] at h
  split at h <;> cases h
  next hthread => exact ⟨_, _, _, _, hthread, rfl⟩

lemma step_enter {isfinite : K → Bool} {system system' : ControlSystem K} {uptimeMs : ℤ}
    (h : system.step isfinite (.enter uptimeMs) = some system') :
    system'.stateSnapshot = StaticControlState.initial := by
  simp only [ControlSystem.step] at h
  split at h <;> cases h
  rfl

/-! ## Two sessions under the same events

The two systems agree after forgetting the number in an unset slot, and they stay so.  What they
publish differs exactly if a cycle completes that held the unset slot, and the numbers differ.
-/

/-- What is known of two sessions that started over the sequence numbers `q` and `q'`. -/
structure SessionsAlike (isfinite : K → Bool) (q q' : UInt32) (events : List (ControlEvent K))
    (session session' : ControlSession K) : Prop where
  unset : UnsetInv isfinite q events session.system
  unset' : UnsetInv isfinite q' events session'.system
  forget : session.system.forget = session'.system.forget
  publications : session.publications = session'.publications ↔
    q = q' ∨ ¬ CompletesUnset isfinite events

/-- Two starts leave the same system but for the number. -/
lemma sessionsAlike_start {isfinite : K → Bool} {system system' started started' : ControlSystem K}
    (hstart : staticControlStart system = some started)
    (hstart' : staticControlStart system' = some started') :
    SessionsAlike isfinite system.commandSnapshot.value.sequence
      system'.commandSnapshot.value.sequence [] (ControlSession.start started)
      (ControlSession.start started') where
  unset := unsetInv_start hstart
  unset' := unsetInv_start hstart'
  forget := by
    simp only [staticControlStart] at hstart hstart'
    split at hstart <;> cases hstart
    split at hstart' <;> cases hstart'
    rfl
  publications := by
    refine iff_of_true rfl (Or.inr ?_)
    rintro ⟨before, after, _, heq, -⟩
    simp at heq

omit [LinearOrder K] in
/-- Two cycles in progress under the same events hold the same command, or both hold none. -/
lemma held_of_forget_eq {system system' : ControlSystem K} {vars vars' : ControlLocals K}
    {startMs startMs' : ℤ} {command command' : CommandSnapshot K}
    {output output' : StaticControlPlantOutput K} (h : system.forget = system'.forget)
    (hthread : system.thread = .stepped vars startMs command output)
    (hthread' : system'.thread = .stepped vars' startMs' command' output') :
    command = command' ∧ command.valid = true ∨ command.valid = false ∧ command'.valid = false := by
  have hforget := congrArg ControlSystem.thread h
  simp only [ControlSystem.forget, hthread, hthread', ControlThread.forget,
    ControlThread.stepped.injEq] at hforget
  have hcommand := hforget.2.2.1
  have hvalid := congrArg CommandSnapshot.valid hcommand
  simp only [CommandSnapshot.forget_valid] at hvalid
  cases hc : command.valid with
  | true =>
      rw [hc] at hvalid
      rw [CommandSnapshot.forget_of_valid hc,
        CommandSnapshot.forget_of_valid hvalid.symm] at hcommand
      exact Or.inl ⟨hcommand, rfl⟩
  | false => exact Or.inr ⟨rfl, by rw [← hvalid, hc]⟩

/-- A completed cycle publishes the same in both sessions unless it held no command. -/
lemma publications_complete {isfinite : K → Bool} {q q' : UInt32} {events : List (ControlEvent K)}
    {session session' : ControlSession K} {system system' : ControlSystem K} {completionMs : ℤ}
    (h : SessionsAlike isfinite q q' events session session')
    (hstep : session.system.step isfinite (.complete completionMs) = some system)
    (hstep' : session'.system.step isfinite (.complete completionMs) = some system') :
    session.publications ++ [system.stateSnapshot]
        = session'.publications ++ [system'.stateSnapshot] ↔
      q = q' ∨ ¬ CompletesUnset isfinite (events ++ [.complete completionMs]) := by
  obtain ⟨vars, startMs, command, output, hthread, hsequence⟩ := step_complete hstep
  obtain ⟨vars', startMs', command', output', hthread', hsequence'⟩ := step_complete hstep'
  have hstate : system.stateSnapshot = system'.stateSnapshot
      ↔ command.value.sequence = command'.value.sequence := by
    have hforget : system.stateSnapshot.forget = system'.stateSnapshot.forget :=
      congrArg ControlSystem.stateSnapshot (forget_eq_of_step h.forget hstep hstep')
    rw [StaticControlState.eq_iff_forget, hsequence, hsequence']
    exact and_iff_right hforget
  have hlog : session.publications ++ [system.stateSnapshot]
      = session'.publications ++ [system'.stateSnapshot] ↔
      (q = q' ∨ ¬ CompletesUnset isfinite events) ∧
        command.value.sequence = command'.value.sequence := by
    rw [← h.publications, ← hstate]
    constructor
    · intro heq
      obtain ⟨hpast, hlast⟩ := List.append_inj' heq rfl
      exact ⟨hpast, List.head_eq_of_cons_eq hlast⟩
    · rintro ⟨hpast, hlast⟩
      rw [hpast, hlast]
  rw [hlog, completesUnset_concat]
  rcases held_of_forget_eq h.forget hthread hthread' with ⟨rfl, hvalid⟩ | ⟨hvalid, hvalid'⟩
  · -- an accepted command: no read of the unset slot is still open
    have hreads : ReadsUnset isfinite events → CompletesUnset isfinite events := by
      intro hreads
      rcases h.unset.reads hreads with hdone | ⟨_, _, _, _, hthread'', hvalid'⟩
      · exact hdone
      · rw [hthread] at hthread''
        cases hthread''
        rw [hvalid] at hvalid'
        cases hvalid'
    have hdone : (CompletesUnset isfinite events ∨
        (∃ c, ControlEvent.complete (K := K) completionMs = .complete c) ∧
          ReadsUnset isfinite events) ↔ CompletesUnset isfinite events :=
      or_iff_left_of_imp fun h => hreads h.2
    rw [hdone]
    exact and_iff_left rfl
  · obtain ⟨hreads, hq⟩ := h.unset.heldUnset hthread hvalid
    obtain ⟨-, hq'⟩ := h.unset'.heldUnset hthread' hvalid'
    rw [hq, hq']
    constructor
    · rintro ⟨-, heq⟩
      exact Or.inl heq
    · rintro (heq | hnot)
      · exact ⟨Or.inl heq, heq⟩
      · exact absurd (Or.inr ⟨⟨completionMs, rfl⟩, hreads⟩) hnot

/-- The same event in both sessions: the systems stay alike by `forget`, the publications by
`publications_complete`. -/
lemma sessionsAlike_step {isfinite : K → Bool} {q q' : UInt32} {events : List (ControlEvent K)}
    {session session' next next' : ControlSession K} {event : ControlEvent K}
    (h : SessionsAlike isfinite q q' events session session')
    (hstep : session.step isfinite event = some next)
    (hstep' : session'.step isfinite event = some next') :
    SessionsAlike isfinite q q' (events ++ [event]) next next' := by
  obtain ⟨system, hsystem, rfl⟩ := ControlSession.step_eq_some.mp hstep
  obtain ⟨system', hsystem', rfl⟩ := ControlSession.step_eq_some.mp hstep'
  refine ⟨?_, ?_, ?_, ?_⟩
  · rw [ControlSession.record_system]
    exact unsetInv_step h.unset hsystem
  · rw [ControlSession.record_system]
    exact unsetInv_step h.unset' hsystem'
  · rw [ControlSession.record_system, ControlSession.record_system]
    exact forget_eq_of_step h.forget hsystem hsystem'
  · rw [ControlSession.record_publications, ControlSession.record_publications]
    cases event with
    | complete completionMs => exact publications_complete h hsystem hsystem'
    | enter uptimeMs =>
        rw [step_enter hsystem, step_enter hsystem', List.append_left_inj, h.publications]
        simp [completesUnset_concat]
    | submit _ _ | stop | release _ _ | readCommand | leave =>
        rw [List.append_nil, List.append_nil, h.publications]
        simp [completesUnset_concat]

/-! ## Before the first command

The second half of the property is about one session.  A cycle that completes before any command is
accepted has read the unset slot, and publishes what it found there.
-/

/-- As long as no command of the session is accepted, the published sequence number is zero. -/
def ZeroUntilAccepted (isfinite : K → Bool) (started : ControlSystem K)
    (events : List (ControlEvent K)) : Prop :=
  ∀ early later session, events = early ++ later →
    Run (ofPartial (ControlSession.step isfinite)) (ControlSession.start started) early session →
    NoneAccepted isfinite early → ∀ state ∈ session.publications, state.commandSequence = 0

/-- What has been published while no command was accepted. -/
structure EarlyInv (isfinite : K → Bool) (sequence : UInt32) (events : List (ControlEvent K))
    (session : ControlSession K) : Prop where
  unset : UnsetInv isfinite sequence events session.system
  shown : NoneAccepted isfinite events → ∀ state ∈ session.publications,
    state.commandSequence = 0 ∨
      state.commandSequence = sequence ∧ ∃ completionMs, .complete completionMs ∈ events
  completed : NoneAccepted isfinite events → ∀ completionMs, .complete completionMs ∈ events →
    ∃ state ∈ session.publications, state.commandSequence = sequence

/-- While nothing is accepted, every completed cycle held the unset slot. -/
lemma earlyInv_step {isfinite : K → Bool} {sequence : UInt32} {events : List (ControlEvent K)}
    {session session' : ControlSession K} {event : ControlEvent K}
    (h : EarlyInv isfinite sequence events session)
    (hstep : session.step isfinite event = some session') :
    EarlyInv isfinite sequence (events ++ [event]) session' := by
  obtain ⟨system, hsystem, rfl⟩ := ControlSession.step_eq_some.mp hstep
  have hunset : UnsetInv isfinite sequence (events ++ [event])
      (session.record isfinite system event).system := by
    rw [ControlSession.record_system]
    exact unsetInv_step h.unset hsystem
  have hpast : NoneAccepted isfinite (events ++ [event]) → ∀ state ∈ session.publications,
      state.commandSequence = 0 ∨ state.commandSequence = sequence ∧
        ∃ completionMs, .complete completionMs ∈ events ++ [event] := by
    intro hnone state hmem
    rcases h.shown (noneAccepted_append.mp hnone).1 state hmem with hzero | ⟨hseq, c, hc⟩
    · exact Or.inl hzero
    · exact Or.inr ⟨hseq, c, List.mem_append_left _ hc⟩
  refine ⟨hunset, ?_, ?_⟩ <;> rw [ControlSession.record_publications] <;> intro hnone
  · intro state hmem
    rcases List.mem_append.mp hmem with hmem | hmem
    · exact hpast hnone state hmem
    · cases event with
      | enter uptimeMs =>
          rw [step_enter hsystem, List.mem_singleton] at hmem
          exact Or.inl (by rw [hmem]; rfl)
      | complete completionMs =>
          obtain ⟨vars, startMs, command, output, hthread, hsequence⟩ := step_complete hsystem
          rw [List.mem_singleton] at hmem
          cases hvalid : command.valid with
          | true =>
              exact absurd (noneAccepted_append.mp hnone).1 (h.unset.heldAccepted hthread hvalid)
          | false =>
              refine Or.inr ⟨?_, completionMs, by simp⟩
              rw [hmem, hsequence]
              exact (h.unset.heldUnset hthread hvalid).2
      | submit _ _ | stop | release _ _ | readCommand | leave => simp at hmem
  · intro completionMs hmem
    rcases List.mem_append.mp hmem with hmem | hmem
    · obtain ⟨state, hstate, hseq⟩ :=
        h.completed (noneAccepted_append.mp hnone).1 completionMs hmem
      exact ⟨state, List.mem_append_left _ hstate, hseq⟩
    · obtain rfl := List.mem_singleton.mp hmem
      obtain ⟨vars, startMs, command, output, hthread, hsequence⟩ := step_complete hsystem
      refine ⟨system.stateSnapshot, by simp, ?_⟩
      cases hvalid : command.valid with
      | true =>
          exact absurd (noneAccepted_append.mp hnone).1 (h.unset.heldAccepted hthread hvalid)
      | false =>
          rw [hsequence]
          exact (h.unset.heldUnset hthread hvalid).2

lemma earlyInv_run {isfinite : K → Bool} {system started : ControlSystem K}
    {events : List (ControlEvent K)} {session : ControlSession K}
    (hstart : staticControlStart system = some started)
    (hrun : Run (ofPartial (ControlSession.step isfinite)) (ControlSession.start started) events
      session) :
    EarlyInv isfinite system.commandSnapshot.value.sequence events session := by
  refine hrun.labelled_invariant ⟨unsetInv_start hstart, ?_, ?_⟩ earlyInv_step
  · intro _ state hmem
    simp [ControlSession.start] at hmem
  · intro _ completionMs hmem
    simp at hmem

/-- The published number stays zero exactly if it was zero in the slot or no cycle completes early.
-/
lemma zeroUntilAccepted_iff {isfinite : K → Bool} {system started : ControlSystem K}
    {events : List (ControlEvent K)} {session : ControlSession K}
    (hstart : staticControlStart system = some started)
    (hrun : Run (ofPartial (ControlSession.step isfinite)) (ControlSession.start started) events
      session) :
    ZeroUntilAccepted isfinite started events
      ↔ system.commandSnapshot.value.sequence = 0 ∨ ¬ CompletesEarly isfinite events := by
  constructor
  · intro hzero
    rw [or_iff_not_imp_right, not_not]
    rintro ⟨before, after, completionMs, rfl, hnone⟩
    -- the run up to that completion has published the number in the slot
    rw [← List.singleton_append, ← List.append_assoc] at hrun hzero
    obtain ⟨mid, hmid, -⟩ := hrun.split
    have hnone' : NoneAccepted isfinite (before ++ [.complete completionMs]) :=
      noneAccepted_append.mpr ⟨hnone, by simp [noneAccepted_singleton]⟩
    obtain ⟨state, hstate, hseq⟩ :=
      (earlyInv_run hstart hmid).completed hnone' completionMs (by simp)
    rw [← hseq]
    exact hzero _ _ mid rfl hmid hnone' state hstate
  · rintro hcond early later mid rfl hmid hnone state hstate
    rcases (earlyInv_run hstart hmid).shown hnone state hstate with hzero | ⟨hseq, c, hc⟩
    · exact hzero
    · rcases hcond with hzero | hearly
      · rw [hseq, hzero]
      · obtain ⟨before, after, rfl⟩ := List.append_of_mem hc
        exact absurd ⟨before, after ++ later, c, by simp, (noneAccepted_append.mp hnone).1⟩ hearly

/-! ## The sequence number a history leaves behind

The condition of the theorem is on the events of the histories, not on the states that they reach.
-/

lemma leftoverSequence_concat (isfinite : K → Bool) (history : List (LifetimeEvent K))
    (event : LifetimeEvent K) :
    leftoverSequence isfinite (history ++ [event])
      = match event with
        | .control (.submit command receiptMs) =>
            ((submitAccepts isfinite command receiptMs).map (·.sequence)).getD
              (leftoverSequence isfinite history)
        | _ => leftoverSequence isfinite history := by
  simp only [leftoverSequence, List.foldl_append, List.foldl_cons, List.foldl_nil]

/-- Apart from an accepted submission, nothing writes the value of the slot. -/
lemma step_slot_sequence {isfinite : K → Bool} {system system' : ControlSystem K}
    {event : ControlEvent K} (h : system.step isfinite event = some system') :
    system'.commandSnapshot.value.sequence
      = match event with
        | .submit command receiptMs =>
            ((submitAccepts isfinite command receiptMs).map (·.sequence)).getD
              system.commandSnapshot.value.sequence
        | _ => system.commandSnapshot.value.sequence := by
  cases event with
  | submit command receiptMs =>
      cases h
      cases haccepts : submitAccepts isfinite command receiptMs <;>
        simp [staticControlSubmit, haccepts]
  | stop =>
      cases h
      rfl
  | enter _ | release _ _ | readCommand | complete _ | leave =>
      simp only [ControlSystem.step] at h
      split at h <;> cases h
      rfl

/-- The slot holds the number that the history says. -/
lemma leftoverSequence_run {isfinite : K → Bool} {history : List (LifetimeEvent K)}
    {system : ControlSystem K}
    (hrun : Run (ofPartial (ControlSystem.lifetimeStep isfinite)) ControlSystem.boot history
      system) :
    system.commandSnapshot.value.sequence = leftoverSequence isfinite history := by
  induction hrun with
  | start => rfl
  | @snoc earlier system system' event hrun hlast ih =>
      rw [leftoverSequence_concat, ← ih]
      cases event with
      | start =>
          simp only [ofPartial, ControlSystem.lifetimeStep, staticControlStart] at hlast
          split at hlast <;> cases hlast
          rfl
      | control event =>
          rw [step_slot_sequence hlast]
          cases event <;> rfl

/-- **What a restart forgets.**  Take two histories from boot and the same events after the next
successful start.  The two sessions publish the same states, with the sequence number zero until
a command is accepted, exactly when

* the histories left the same sequence number in the slot, or no cycle of the session completes
  that read the slot before a command was accepted; and
* both left zero, or no cycle of the session completes before a command is accepted. -/
theorem restart_forgets_iff (isfinite : K → Bool) (history history' : List (LifetimeEvent K))
    (system system' started started' : ControlSystem K) (events : List (ControlEvent K))
    (session session' : ControlSession K)
    (hhistory : Run (ofPartial (ControlSystem.lifetimeStep isfinite)) ControlSystem.boot history
      system)
    (hhistory' : Run (ofPartial (ControlSystem.lifetimeStep isfinite)) ControlSystem.boot history'
      system')
    (hstart : staticControlStart system = some started)
    (hstart' : staticControlStart system' = some started')
    (hrun : Run (ofPartial (ControlSession.step isfinite)) (ControlSession.start started) events
      session)
    (hrun' : Run (ofPartial (ControlSession.step isfinite)) (ControlSession.start started') events
      session') :
    (session.publications = session'.publications ∧
      ZeroUntilAccepted isfinite started events ∧ ZeroUntilAccepted isfinite started' events) ↔
    (leftoverSequence isfinite history = leftoverSequence isfinite history' ∨
        ¬ CompletesUnset isfinite events) ∧
      (leftoverSequence isfinite history = 0 ∧ leftoverSequence isfinite history' = 0 ∨
        ¬ CompletesEarly isfinite events) := by
  have halike : SessionsAlike isfinite _ _ events session session' :=
    hrun.related hrun' (sessionsAlike_start hstart hstart')
      fun _ _ h hstep hstep' => sessionsAlike_step h hstep hstep'
  rw [halike.publications, zeroUntilAccepted_iff hstart hrun, zeroUntilAccepted_iff hstart' hrun',
    leftoverSequence_run hhistory, leftoverSequence_run hhistory', and_or_right]

/-- One session: a command with the given sequence number is accepted, a skipped release latches a
fault, and the session is stopped. -/
def faultedHistory (sequence : UInt32) : List (LifetimeEvent ℚ) :=
  .start :: [.enter 0, .submit (some { target := 1 / 2, sequence }) 4, .release 2 20, .readCommand,
    .complete 21, .stop, .leave].map .control

/-- One cycle without a command, then one with. -/
def idleThenCommand : List (ControlEvent ℚ) :=
  [.enter 100, .release 1 110, .readCommand, .complete 111,
    .submit (some { target := 1, sequence := 9 }) 115, .release 1 120, .readCommand, .complete 121]

/-- The static variables that history leaves. -/
def faultedSystem (sequence : UInt32) : ControlSystem ℚ :=
  (runLabels (ControlSystem.lifetimeStep fun _ => true) ControlSystem.boot
    (faultedHistory sequence)).getD ControlSystem.boot

def restarted (system : ControlSystem ℚ) : ControlSystem ℚ :=
  (staticControlStart system).getD system

def restartedSession (system : ControlSystem ℚ) (events : List (ControlEvent ℚ)) :
    ControlSession ℚ :=
  (runLabels (ControlSession.step fun _ => true) (ControlSession.start (restarted system))
    events).getD (ControlSession.start system)

/-- A session after a fault, and one from boot, under the same events. -/
theorem restart_forgets_fault :
    (faultedSystem 0).stateSnapshot.status = .fault ∧
      (restartedSession ControlSystem.boot idleThenCommand).publications.map (·.status)
        = [.disabled, .disabled, .active] ∧
      (restartedSession ControlSystem.boot idleThenCommand).publications
        = (restartedSession (faultedSystem 0) idleThenCommand).publications := by
  have hhistory : Run (ofPartial (ControlSystem.lifetimeStep fun _ => true)) ControlSystem.boot
      (faultedHistory 0) (faultedSystem 0) := run_of_runLabels (by decide +kernel)
  have hstart : staticControlStart ControlSystem.boot = some (restarted ControlSystem.boot) := rfl
  have hstart' : staticControlStart (faultedSystem 0) = some (restarted (faultedSystem 0)) := by
    decide +kernel
  have hrun : Run (ofPartial (ControlSession.step fun _ => true))
      (ControlSession.start (restarted ControlSystem.boot)) idleThenCommand
      (restartedSession ControlSystem.boot idleThenCommand) :=
    run_of_runLabels (by decide +kernel)
  have hrun' : Run (ofPartial (ControlSession.step fun _ => true))
      (ControlSession.start (restarted (faultedSystem 0))) idleThenCommand
      (restartedSession (faultedSystem 0) idleThenCommand) :=
    run_of_runLabels (by decide +kernel)
  refine ⟨by decide +kernel, by decide +kernel, ?_⟩
  exact ((restart_forgets_iff (fun _ => true) [] (faultedHistory 0) _ _ _ _ idleThenCommand _ _
    Run.start hhistory hstart hstart' hrun hrun').mpr
    ⟨Or.inl (by decide +kernel), Or.inl (by decide +kernel)⟩).1

/-- After a session whose command had sequence number seven, a fresh session that has accepted
nothing publishes seven. -/
theorem restart_leaks_sequence :
    Run (ofPartial (ControlSystem.lifetimeStep fun _ => true)) ControlSystem.boot
        (faultedHistory 7) (faultedSystem 7) ∧
      staticControlStart ControlSystem.boot = some (restarted ControlSystem.boot) ∧
      staticControlStart (faultedSystem 7) = some (restarted (faultedSystem 7)) ∧
      Run (ofPartial (ControlSession.step fun _ => true))
        (ControlSession.start (restarted ControlSystem.boot)) (idleThenCommand.take 4)
        (restartedSession ControlSystem.boot (idleThenCommand.take 4)) ∧
      Run (ofPartial (ControlSession.step fun _ => true))
        (ControlSession.start (restarted (faultedSystem 7))) (idleThenCommand.take 4)
        (restartedSession (faultedSystem 7) (idleThenCommand.take 4)) ∧
      (restartedSession (faultedSystem 7) (idleThenCommand.take 4)).accepted = [] ∧
      (restartedSession ControlSystem.boot (idleThenCommand.take 4)).publications.map
        (·.commandSequence) = [0, 0] ∧
      (restartedSession (faultedSystem 7) (idleThenCommand.take 4)).publications.map
        (·.commandSequence) = [0, 7] := by
  refine ⟨run_of_runLabels (by decide +kernel), rfl, by decide +kernel,
    run_of_runLabels (by decide +kernel), run_of_runLabels (by decide +kernel),
    by decide +kernel, by decide +kernel, by decide +kernel⟩

end Ros2Zephyr
