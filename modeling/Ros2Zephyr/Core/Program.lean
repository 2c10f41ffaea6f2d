import Mathlib.Logic.Function.Basic

/-!
# Programs over atomic actions

Code that runs next to other code is a tree of atomic actions: each node performs one action on
the shared state and goes on with the action's result.  Between two actions of one program any
other program may act.

* `Prog A R α` — programs over actions `A`, where action `a` answers with a value of `R a`.
* `Prog.Runs` — one program alone, from a first to a last state, with `runs_bind_iff` to cut a
  run at a `do` step.
* `Prog.logged` — the actions with a log of them, for statements about what a run performed.
* `Prog.wp` — the weakest precondition over a private ghost state, from a specification of the
  single actions, with `wp_bind` for the same cut.
* `forall_threads_update`, `pairwise_threads_update` — what a move of one thread leaves of a
  property of all threads, and of any two.
* `Sound` — the specification of the actions keeps a global invariant that owns the ghost states of
  all threads; `Sound.step` is then the rule for one step of one of many interleaved programs.
-/

/-- A program: finished with a value, or an action and what is done with its result. -/
inductive Prog (A : Type) (R : A → Type) (α : Type)
  | ret (value : α)
  | act (action : A) (next : R action → Prog A R α)

namespace Prog

variable {A : Type} {R : A → Type} {α β : Type}

def bind : Prog A R α → (α → Prog A R β) → Prog A R β
  | ret value, f => f value
  | act action next, f => act action fun r => bind (next r) f

instance : Monad (Prog A R) where
  pure := ret
  bind := bind

/-- The program that performs one action and answers with its result. -/
def perform (action : A) : Prog A R (R action) := act action ret

@[simp] lemma pure_eq_ret (value : α) : (pure value : Prog A R α) = ret value := rfl

@[simp] lemma ret_bind (value : α) (f : α → Prog A R β) : (ret value >>= f) = f value := rfl

@[simp] lemma perform_bind (action : A) (f : R action → Prog A R β) :
    (perform action >>= f) = act action f := rfl

@[simp] lemma act_bind (action : A) (next : R action → Prog A R α) (f : α → Prog A R β) :
    (act action next >>= f) = act action fun r => next r >>= f := rfl

section Runs

variable {σ : Type*} (exec : (a : A) → σ → R a → σ → Prop)

/-- `Runs exec p s value s'`: alone from `s`, the program can finish in `s'` with `value`. -/
inductive Runs : Prog A R α → σ → α → σ → Prop
  | ret {value : α} {s : σ} : Runs (ret value) s value s
  | act {action : A} {next : R action → Prog A R α} {s t s' : σ} {r : R action} {value : α} :
      exec action s r t → Runs (next r) t value s' → Runs (act action next) s value s'

variable {exec}

@[simp] lemma runs_ret_iff {value value' : α} {s s' : σ} :
    Runs exec (ret value : Prog A R α) s value' s' ↔ value' = value ∧ s' = s := by
  constructor
  · intro h
    cases h with
    | ret => exact ⟨rfl, rfl⟩
  · rintro ⟨rfl, rfl⟩
    exact Runs.ret

lemma runs_act_iff {action : A} {next : R action → Prog A R α} {s s' : σ} {value : α} :
    Runs exec (act action next) s value s' ↔
      ∃ r t, exec action s r t ∧ Runs exec (next r) t value s' := by
  constructor
  · intro h
    cases h with
    | act hexec hnext => exact ⟨_, _, hexec, hnext⟩
  · rintro ⟨r, t, hexec, hnext⟩
    exact Runs.act hexec hnext

/-- A run that starts with one action. -/
lemma Runs.perform {action : A} {f : R action → Prog A R α} {s t s' : σ} {r : R action}
    {value : α} (hexec : exec action s r t) (hrest : Runs exec (f r) t value s') :
    Runs exec (perform action >>= f) s value s' :=
  Runs.act hexec hrest

/-- A run of a sequence is a run of its first part and then one of the rest. -/
theorem runs_bind_iff {p : Prog A R α} {f : α → Prog A R β} {s s' : σ} {value : β} :
    Runs exec (p >>= f) s value s' ↔
      ∃ a t, Runs exec p s a t ∧ Runs exec (f a) t value s' := by
  induction p generalizing s with
  | ret a =>
      simp only [ret_bind, runs_ret_iff]
      constructor
      · intro h
        exact ⟨a, s, ⟨rfl, rfl⟩, h⟩
      · rintro ⟨_, _, ⟨rfl, rfl⟩, h⟩
        exact h
  | act action next ih =>
      simp only [act_bind, runs_act_iff, ih]
      constructor
      · rintro ⟨r, t, hexec, a, t', hnext, hrest⟩
        exact ⟨a, t', ⟨r, t, hexec, hnext⟩, hrest⟩
      · rintro ⟨a, t', ⟨r, t, hexec, hnext⟩, hrest⟩
        exact ⟨r, t, hexec, a, t', hnext, hrest⟩

/-- The actions with a log of what was performed and answered. -/
def logged (exec : (a : A) → σ → R a → σ → Prop) (a : A) (s : σ × List (Sigma R)) (r : R a)
    (s' : σ × List (Sigma R)) : Prop :=
  exec a s.1 r s'.1 ∧ s'.2 = s.2 ++ [⟨a, r⟩]

/-- Every run can be logged. -/
lemma Runs.exists_logged {p : Prog A R α} {s s' : σ} {value : α} (h : Runs exec p s value s')
    (log : List (Sigma R)) : ∃ log', Runs (logged exec) p (s, log) value (s', log') := by
  induction h generalizing log with
  | ret => exact ⟨log, Runs.ret⟩
  | @act action next s t s' r value hexec _ ih =>
      obtain ⟨log', hrest⟩ := ih (log ++ [⟨action, r⟩])
      exact ⟨log', Runs.act ⟨hexec, rfl⟩ hrest⟩

end Runs

section Wp

variable {G : Type*} (spec : (a : A) → G → (R a → G → Prop) → Prop)

/-- The weakest precondition of a program on its ghost state.  `spec a g Q` says that action `a`
may be performed with ghost `g` and that `Q` holds of its result and of the ghost after it. -/
def wp : Prog A R α → (α → G → Prop) → G → Prop
  | ret value, Q, g => Q value g
  | act action next, Q, g => spec action g fun r g' => wp (next r) Q g'

@[simp] lemma wp_ret (value : α) (Q : α → G → Prop) (g : G) :
    wp spec (ret value : Prog A R α) Q g = Q value g := rfl

@[simp] lemma wp_act (action : A) (next : R action → Prog A R α) (Q : α → G → Prop) (g : G) :
    wp spec (act action next) Q g = spec action g fun r g' => wp spec (next r) Q g' := rfl

/-- The weakest precondition of a sequence is taken part by part. -/
theorem wp_bind (p : Prog A R α) (f : α → Prog A R β) (Q : β → G → Prop) (g : G) :
    wp spec (p >>= f) Q g = wp spec p (fun a g' => wp spec (f a) Q g') g := by
  induction p generalizing g with
  | ret a => rfl
  | act action next ih =>
      simp only [act_bind, wp_act]
      congr 1
      funext r g'
      exact ih r g'

end Wp

end Prog

section Threads

variable {A : Type} {R : A → Type} {α : Type} {σ G T : Type*} [DecidableEq T]
variable {exec : (a : A) → σ → R a → σ → Prop} {spec : (a : A) → G → (R a → G → Prop) → Prop}

/-- One thread moves: what is true of every thread's entry together with its ghost stays true. -/
lemma forall_threads_update {E : Type*} {P : E → G → Prop} {entries : T → E} {ghosts : T → G}
    {t : T} {e : E} {g : G} (h : ∀ t', P (entries t') (ghosts t')) (hnew : P e g) (t' : T) :
    P (Function.update entries t e t') (Function.update ghosts t g t') := by
  by_cases heq : t' = t
  · subst heq
    rw [Function.update_self, Function.update_self]
    exact hnew
  · rw [Function.update_of_ne heq, Function.update_of_ne heq]
    exact h t'

/-- One thread moves: a symmetric relation between the ghosts of any two threads stays if the new
ghost has it to the others. -/
lemma pairwise_threads_update {r : G → G → Prop} {ghosts : T → G} {t : T} {g : G}
    (hsymm : ∀ {a b}, r a b → r b a) (h : ∀ t₁ t₂, t₁ ≠ t₂ → r (ghosts t₁) (ghosts t₂))
    (hnew : ∀ t', t' ≠ t → r g (ghosts t')) (t₁ t₂ : T) (hne : t₁ ≠ t₂) :
    r (Function.update ghosts t g t₁) (Function.update ghosts t g t₂) := by
  by_cases h₁ : t₁ = t
  · subst h₁
    rw [Function.update_self, Function.update_of_ne (Ne.symm hne)]
    exact hnew t₂ (Ne.symm hne)
  · rw [Function.update_of_ne h₁]
    by_cases h₂ : t₂ = t
    · subst h₂
      rw [Function.update_self]
      exact hsymm (hnew t₁ h₁)
    · rw [Function.update_of_ne h₂]
      exact h t₁ t₂ hne

/-- The specification of the actions is sound for an invariant over the shared state and the
ghost states of all threads: a specified action of one thread leads to a ghost of that thread for
which the invariant holds again, with every other thread's ghost untouched. -/
def Sound (exec : (a : A) → σ → R a → σ → Prop) (spec : (a : A) → G → (R a → G → Prop) → Prop)
    (Inv : σ → (T → G) → Prop) : Prop :=
  ∀ ⦃s s' : σ⦄ ⦃ghosts : T → G⦄ ⦃t : T⦄ ⦃a : A⦄ ⦃r : R a⦄ ⦃Q : R a → G → Prop⦄,
    Inv s ghosts → spec a (ghosts t) Q → exec a s r s' →
      ∃ g, Q r g ∧ Inv s' (Function.update ghosts t g)

/-- **One step of one of many programs** keeps the invariant, and the rest of that program meets
its specification with the thread's new ghost. -/
theorem Sound.step {Inv : σ → (T → G) → Prop} (hsound : Sound exec spec Inv) {s s' : σ}
    {ghosts : T → G} {t : T} {a : A} {next : R a → Prog A R α} {r : R a} {Q : α → G → Prop}
    (hinv : Inv s ghosts) (hwp : Prog.wp spec (.act a next) Q (ghosts t)) (hexec : exec a s r s') :
    ∃ g, Prog.wp spec (next r) Q g ∧ Inv s' (Function.update ghosts t g) :=
  hsound hinv hwp hexec

end Threads
