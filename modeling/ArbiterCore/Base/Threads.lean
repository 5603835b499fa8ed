-- SUMMARY: Systems of concurrent threads with crashes, and the rules that lift thread contracts to whole runs.
import ArbiterCore.Base.Prog

/-!
# Systems of threads

A system runs programs in slots (a slot is what a lock serialises). In one step
a slot starts a program, performs one operation of it or ends it; or the
environment moves the state; or the system crashes, which loses every program
and keeps what `crash` keeps of the state.

A proof outline gives every slot a contract and the system an invariant, in the
manner of rely-guarantee reasoning. `Reach.outlined` lifts it to all reachable
configurations.
-/

namespace Conc

/-- A system of threads over the states `S`, with slots `ι`. -/
structure System (Op : Type → Type) (S ι α : Type) where
  machine : Machine Op S
  /-- The programs that may start in a slot. -/
  start : ι → S → Prog Op α → Prop
  /-- The steps of the environment. -/
  env : S → S → Prop
  /-- What is left of the state after a crash. -/
  crash : S → S
  /-- The state after a program has left its slot. -/
  leave : ι → S → S := fun _ s => s

/-- A state with the programs that run on it. -/
structure Config (Op : Type → Type) (S ι α : Type) where
  world : S
  thread : ι → Option (Prog Op α)

variable {Op : Type → Type} {S ι α : Type} [DecidableEq ι]

namespace Config

/-- Replaces the program of slot `i`. -/
def setThread (c : Config Op S ι α) (i : ι) (p : Option (Prog Op α)) : Config Op S ι α :=
  { c with thread := Function.update c.thread i p }

@[simp] theorem setThread_self (c : Config Op S ι α) (i : ι) (p : Option (Prog Op α)) :
    (c.setThread i p).thread i = p := Function.update_self ..

theorem setThread_of_ne {i j : ι} (h : j ≠ i) (c : Config Op S ι α)
    (p : Option (Prog Op α)) : (c.setThread i p).thread j = c.thread j :=
  Function.update_of_ne h ..

/-- No program runs. -/
def idle (s : S) : Config Op S ι α := ⟨s, fun _ => none⟩

end Config

/-- One step of a system. -/
inductive Step (sys : System Op S ι α) : Config Op S ι α → Config Op S ι α → Prop where
  | start {c : Config Op S ι α} (i : ι) (p : Prog Op α) (hi : c.thread i = none)
      (hp : sys.start i c.world p) : Step sys c (c.setThread i (some p))
  | exec {c : Config Op S ι α} {β : Type} (i : ι) (op : Op β) (k : β → Prog Op α) (b : β) (s' : S)
      (hi : c.thread i = some (.exec op k)) (hs : sys.machine.sem op c.world b s') :
      Step sys c ({ c with world := s' }.setThread i (some (k b)))
  | finish {c : Config Op S ι α} (i : ι) (a : α) (hi : c.thread i = some (.ret a)) :
      Step sys c ({ c with world := sys.leave i c.world }.setThread i none)
  | env {c : Config Op S ι α} (s' : S) (hs : sys.env c.world s') :
      Step sys c { c with world := s' }
  | crash {c : Config Op S ι α} : Step sys c (.idle (sys.crash c.world))

/-- The configurations a system reaches from an idle start in a state of `init`. -/
inductive Reach (sys : System Op S ι α) (init : S → Prop) : Config Op S ι α → Prop where
  | init (s : S) (h : init s) : Reach sys init (.idle s)
  | step {c c' : Config Op S ι α} (h : Reach sys init c) (hs : Step sys c c') : Reach sys init c'

/-! ## Proof outlines -/

/-- One contract per slot and an invariant, such that every program that starts
    meets its slot's contract, no step of another slot or of the environment
    breaks a rely, and every step keeps the invariant. -/
structure Outline (sys : System Op S ι α) where
  contract : ι → Contract S
  post : ι → α → S → Prop
  inv : S → Prop
  rely_refl : ∀ i s, (contract i).rely s s
  rely_trans : ∀ i s s' s'', (contract i).rely s s' → (contract i).rely s' s'' →
    (contract i).rely s s''
  post_stable : ∀ i a s s', (contract i).rely s s' → post i a s → post i a s'
  start_wp : ∀ i s p, inv s → sys.start i s p → wp sys.machine (contract i) p (post i) s
  guar_rely : ∀ i j, j ≠ i → ∀ s s', inv s → (contract i).guar s s' → (contract j).rely s s'
  env_rely : ∀ i s s', inv s → sys.env s s' → (contract i).rely s s'
  guar_inv : ∀ i s s', inv s → (contract i).guar s s' → inv s'
  env_inv : ∀ s s', inv s → sys.env s s' → inv s'
  crash_inv : ∀ s, inv s → inv (sys.crash s)
  leave_rely : ∀ i j, j ≠ i → ∀ s, inv s → (contract j).rely s (sys.leave i s)
  leave_inv : ∀ i s, inv s → inv (sys.leave i s)

variable {c : Config Op S ι α}

namespace Outline

variable {sys : System Op S ι α} (O : Outline sys)

/-- The invariant holds, and every running program meets its slot's contract
    from where it stands. -/
structure Outlined (c : Config Op S ι α) : Prop where
  inv : O.inv c.world
  meets : ∀ i p, c.thread i = some p → wp sys.machine (O.contract i) p (O.post i) c.world

variable {O}

omit [DecidableEq ι] in
theorem Outlined.relies (h : O.Outlined c) {i : ι} {p : Prog Op α} {s' : S}
    (hi : c.thread i = some p) (hr : (O.contract i).rely c.world s') :
    wp sys.machine (O.contract i) p (O.post i) s' :=
  (h.meets i p hi).rely (O.rely_trans i) (O.post_stable i) hr

/-- One step keeps the outline. -/
theorem Outlined.step {c' : Config Op S ι α} (h : O.Outlined c) (hs : Step sys c c') :
    O.Outlined c' := by
  cases hs with
  | start i p hi hp =>
    refine ⟨h.inv, fun j q hq => ?_⟩
    by_cases hj : j = i
    · subst hj
      rw [Config.setThread_self] at hq
      cases hq
      exact O.start_wp j _ _ h.inv hp
    · exact h.meets j q (by rwa [Config.setThread_of_ne hj] at hq)
  | exec i op k b s' hi hs =>
    obtain ⟨hg, hk⟩ := h.meets i _ hi _ (O.rely_refl i _) b s' hs
    refine ⟨O.guar_inv i _ _ h.inv hg, fun j q hq => ?_⟩
    by_cases hj : j = i
    · subst hj
      rw [Config.setThread_self] at hq
      cases hq
      exact hk
    · rw [Config.setThread_of_ne hj] at hq
      exact h.relies hq (O.guar_rely i j hj _ _ h.inv hg)
  | finish i a hi =>
    refine ⟨O.leave_inv i _ h.inv, fun j q hq => ?_⟩
    by_cases hj : j = i
    · subst hj
      simp at hq
    · rw [Config.setThread_of_ne hj] at hq
      exact h.relies hq (O.leave_rely i j hj _ h.inv)
  | env s' hs =>
    exact ⟨O.env_inv _ _ h.inv hs, fun j q hq => h.relies hq (O.env_rely j _ _ h.inv hs)⟩
  | crash => exact ⟨O.crash_inv _ h.inv, fun j q hq => by simp [Config.idle] at hq⟩

/-- What a step of an outlined system does to the state. -/
theorem Outlined.moves {c' : Config Op S ι α} (h : O.Outlined c) (hs : Step sys c c') :
    c'.world = c.world ∨ (∃ i, (O.contract i).guar c.world c'.world) ∨
      sys.env c.world c'.world ∨ c'.world = sys.crash c.world ∨
        ∃ i, c'.world = sys.leave i c.world := by
  cases hs with
  | start i p hi hp => exact .inl rfl
  | exec i op k b s' hi hs => exact .inr (.inl ⟨i, (h.meets i _ hi _ (O.rely_refl i _) b s' hs).1⟩)
  | finish i a hi => exact .inr (.inr (.inr (.inr ⟨i, rfl⟩)))
  | env s' hs => exact .inr (.inr (.inl hs))
  | crash => exact .inr (.inr (.inr (.inl rfl)))

/-- What no guarantee, no environment step, no crash and no end of a program breaks
    holds for ever. -/
theorem Outlined.keeps {P : S → Prop} {c' : Config Op S ι α} (h : O.Outlined c)
    (hguar : ∀ i s s', O.inv s → (O.contract i).guar s s' → P s → P s')
    (henv : ∀ s s', O.inv s → sys.env s s' → P s → P s') (hcrash : ∀ s, P s → P (sys.crash s))
    (hleave : ∀ i s, P s → P (sys.leave i s)) (hrun : Relation.ReflTransGen (Step sys) c c')
    (hP : P c.world) : O.Outlined c' ∧ P c'.world := by
  induction hrun with
  | refl => exact ⟨h, hP⟩
  | tail _ hs ih =>
    obtain ⟨ho, hP⟩ := ih
    refine ⟨ho.step hs, ?_⟩
    rcases ho.moves hs with heq | ⟨i, hg⟩ | he | heq | ⟨i, heq⟩
    · exact heq ▸ hP
    · exact hguar i _ _ ho.inv hg hP
    · exact henv _ _ ho.inv he hP
    · exact heq ▸ hcrash _ hP
    · exact heq ▸ hleave i _ hP

end Outline

variable {sys : System Op S ι α} {init : S → Prop}

/-- An outline whose invariant holds initially holds along every run. -/
theorem Reach.outlined (O : Outline sys) (h0 : ∀ s, init s → O.inv s) (h : Reach sys init c) : O.Outlined c := by
  induction h with
  | init s hs => exact ⟨h0 s hs, fun i p hp => by simp [Config.idle] at hp⟩
  | step _ hs ih => exact ih.step hs

/-! ## Concrete executions -/

/-- Starting a program and replaying a list of choices reaches what is left of it. -/
theorem Reach.replay (h : Reach sys init c) {i : ι} {p p' : Prog Op α}
    {cs : List sys.machine.Choice} {s' : S} (hi : c.thread i = some p)
    (hr : sys.machine.replay p cs c.world = some (p', s')) :
    Reach sys init ({ c with world := s' }.setThread i (some p')) := by
  induction cs generalizing c p with
  | nil =>
    simp only [Machine.replay, Option.some.injEq, Prod.mk.injEq] at hr
    obtain ⟨rfl, rfl⟩ := hr
    have : c.setThread i (some p) = c := by
      simp [Config.setThread, ← hi]
    rwa [this]
  | cons ch cs ih =>
    cases p with
    | ret a => simp [Machine.replay] at hr
    | exec op k =>
      simp only [Machine.replay] at hr
      split at hr
      · cases hr
      · rename_i b s₁ hrun
        have hstep := h.step (.exec i op k b s₁ hi ⟨ch, hrun⟩)
        simpa [Config.setThread] using ih hstep (by simp) hr

/-- A program that runs alone to its end leaves an idle system. -/
theorem Reach.runs {s s' : S} {i : ι} {p : Prog Op α} {a : α} {cs : List sys.machine.Choice}
    (h : Reach sys init (.idle s)) (hp : sys.start i s p)
    (hr : sys.machine.replay p cs s = some (.ret a, s')) :
    Reach sys init (.idle (sys.leave i s')) := by
  have hstart := h.step (.start i p rfl hp)
  have hrun := hstart.replay (Config.setThread_self _ i (some p)) hr
  have hend := hrun.step (.finish i a (by simp))
  simpa [Config.setThread, Config.idle] using hend

end Conc
