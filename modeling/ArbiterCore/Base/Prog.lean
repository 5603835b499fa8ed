-- SUMMARY: Programs of atomic operations, machines, and weakest preconditions under interference.
import Mathlib.Logic.Relation
import Mathlib.Tactic.Common

/-!
# Programs of atomic operations

A program is a tree of operations. Each operation is one atomic step of the
system (a durable write, a statement, a message) and the tree branches on its
answer. A `Machine` answers the operations over a state; every answer is picked
by a `Choice`, so that a fixed list of choices replays one execution.

`wp` is the weakest precondition of a program that runs concurrently with
others: between two of its operations the others may move the state along
`rely`, and each of its own operations has to be a `guar` step.
-/

namespace Conc

/-- A program over the operations `Op` that returns a value of type `α`. -/
inductive Prog (Op : Type → Type) (α : Type) : Type 1 where
  | ret (a : α)
  | exec {β : Type} (op : Op β) (k : β → Prog Op α)

namespace Prog

variable {Op : Type → Type} {α β γ : Type}

/-! ## Sequencing -/

protected def bind : Prog Op α → (α → Prog Op β) → Prog Op β
  | .ret a, f => f a
  | .exec op k, f => .exec op fun b => (k b).bind f

instance : Monad (Prog Op) where
  pure := .ret
  bind := .bind

@[simp] theorem ret_bind (a : α) (f : α → Prog Op β) : (Prog.ret a >>= f) = f a := rfl

@[simp] theorem exec_bind {δ : Type} (op : Op δ) (k : δ → Prog Op α) (f : α → Prog Op β) :
    (Prog.exec op k >>= f) = .exec op fun b => k b >>= f := rfl

/-- The program that performs one operation and returns its answer. -/
def perform (op : Op α) : Prog Op α := .exec op .ret

/-- Every operation of the program, whatever the answers, has the property. -/
def All (P : (δ : Type) → Op δ → Prop) : Prog Op α → Prop
  | .ret _ => True
  | .exec op k => P _ op ∧ ∀ b, (k b).All P

theorem All.bind {P : (δ : Type) → Op δ → Prop} {p : Prog Op α} {f : α → Prog Op β}
    (hp : p.All P) (hf : ∀ a, (f a).All P) : (p >>= f).All P := by
  induction p with
  | ret a => exact hf a
  | exec op k ih => exact ⟨hp.1, fun b => ih b (hp.2 b)⟩

/-- On every path at most `n` operations of the program satisfy `P`. -/
def AtMost (P : (δ : Type) → Op δ → Bool) : Prog Op α → Nat → Prop
  | .ret _, _ => True
  | .exec op k, n => if P _ op then ∃ m, n = m + 1 ∧ ∀ b, (k b).AtMost P m else ∀ b, (k b).AtMost P n

theorem AtMost.mono {P : (δ : Type) → Op δ → Bool} {p : Prog Op α} {m n : Nat}
    (h : p.AtMost P m) (hmn : m ≤ n) : p.AtMost P n := by
  induction p generalizing m n with
  | ret a => trivial
  | exec op k ih =>
    unfold AtMost at h ⊢
    split
    · next hop =>
      rw [if_pos hop] at h
      obtain ⟨m', rfl, h⟩ := h
      exact ⟨n - 1, by omega, fun b => ih b (h b) (by omega)⟩
    · next hop =>
      rw [if_neg hop] at h
      exact fun b => ih b (h b) hmn

theorem AtMost.bind {P : (δ : Type) → Op δ → Bool} {p : Prog Op α} {f : α → Prog Op β} {m n : Nat}
    (hp : p.AtMost P m) (hf : ∀ a, (f a).AtMost P n) : (p >>= f).AtMost P (m + n) := by
  induction p generalizing m with
  | ret a => exact (hf a).mono (Nat.le_add_left ..)
  | exec op k ih =>
    simp only [exec_bind, AtMost] at hp ⊢
    split
    · next hop =>
      rw [if_pos hop] at hp
      obtain ⟨m', rfl, hp⟩ := hp
      exact ⟨m' + n, by omega, fun b => ih b (hp b)⟩
    · next hop =>
      rw [if_neg hop] at hp
      exact fun b => ih b (hp b)

end Prog

/-! ## Machines -/

/-- A machine answers operations over the states `S`. `run op c s` is the answer
    and the next state under the choice `c`, and `none` when `c` is no possible
    outcome of `op` in `s`. -/
structure Machine (Op : Type → Type) (S : Type) where
  Choice : Type
  run : {β : Type} → Op β → Choice → S → Option (β × S)

namespace Machine

variable {Op : Type → Type} {S : Type} {α β : Type}

/-- `M.sem op s b s'`: in `s` the operation may answer `b` and leave `s'`. -/
def sem (M : Machine Op S) (op : Op β) (s : S) (b : β) (s' : S) : Prop :=
  ∃ c, M.run op c s = some (b, s')

/-- The machine with a monitor, which sees every operation and its answer. -/
def watch {G : Type} (M : Machine Op S) (see : {β : Type} → Op β → β → G → G) :
    Machine Op (S × G) where
  Choice := M.Choice
  run op c s := (M.run op c s.1).map fun r => (r.1, r.2, see op r.1 s.2)

/-- Replays a program along a list of choices: the program that is left (it
    may have stopped early, as a crashed one has) and the state it reached. -/
def replay (M : Machine Op S) : Prog Op α → List M.Choice → S → Option (Prog Op α × S)
  | p, [], s => some (p, s)
  | .ret _, _ :: _, _ => none
  | .exec op k, c :: cs, s =>
    match M.run op c s with
    | none => none
    | some (b, s') => M.replay (k b) cs s'

theorem watch_sem {G : Type} {M : Machine Op S} {see : {β : Type} → Op β → β → G → G}
    {op : Op β} {s s' : S × G} {b : β} :
    (M.watch see).sem op s b s' ↔ M.sem op s.1 b s'.1 ∧ s'.2 = see op b s.2 := by
  constructor
  · rintro ⟨c, hrun⟩
    obtain ⟨⟨b', w⟩, hr, heq⟩ := Option.map_eq_some_iff.mp hrun
    cases heq
    exact ⟨⟨c, hr⟩, rfl⟩
  · rintro ⟨⟨c, hrun⟩, hsee⟩
    exact ⟨c, Option.map_eq_some_iff.mpr ⟨(b, s'.1), hrun, congrArg (b, s'.1, ·) hsee.symm⟩⟩

end Machine

/-! ## Weakest preconditions -/

/-- What a thread assumes of the steps of the others, and guarantees of its own. -/
structure Contract (S : Type) where
  rely : S → S → Prop
  guar : S → S → Prop

section Wp

variable {Op : Type → Type} {S : Type} {α β : Type} {M : Machine Op S} {C C' : Contract S}
  {Q : α → S → Prop} {s : S}

/-- Weakest precondition of a program under the contract `C`. -/
def wp (M : Machine Op S) (C : Contract S) : Prog Op α → (α → S → Prop) → S → Prop
  | .ret a, Q, s => Q a s
  | .exec op k, Q, s =>
    ∀ s₁, C.rely s s₁ → ∀ b s₂, M.sem op s₁ b s₂ → C.guar s₁ s₂ ∧ wp M C (k b) Q s₂

@[simp] theorem wp_ret {a : α} :
    wp M C (.ret a) Q s ↔ Q a s := Iff.rfl

theorem wp_bind {p : Prog Op α} {f : α → Prog Op β} {Q : β → S → Prop} :
    wp M C (p >>= f) Q s ↔ wp M C p (fun a => wp M C (f a) Q) s := by
  induction p generalizing s with
  | ret a => rfl
  | exec op k ih => simp only [Prog.exec_bind, wp, ih]

theorem wp.mono {p : Prog Op α} {Q' : α → S → Prop} (h : wp M C p Q s)
    (hQ : ∀ a s, Q a s → Q' a s) : wp M C p Q' s := by
  induction p generalizing s with
  | ret a => exact hQ a s h
  | exec op k ih =>
    intro s₁ hr b s₂ hs
    obtain ⟨hg, hk⟩ := h s₁ hr b s₂ hs
    exact ⟨hg, ih b hk⟩

/-- A program whose operations keep an assertion ends in it. -/
theorem wp_of_all {P : (δ : Type) → Op δ → Prop} {p : Prog Op α} {Q : S → Prop} (hall : p.All P)
    (hrely : ∀ s s', C.rely s s' → Q s → Q s')
    (hop : ∀ {δ : Type} (op : Op δ) s b s', P δ op → M.sem op s b s' → Q s → C.guar s s' ∧ Q s')
    (h : Q s) : wp M C p (fun _ => Q) s := by
  induction p generalizing s with
  | ret a => exact h
  | exec op k ih =>
    intro s₁ hr b s₂ hs
    obtain ⟨hg, hQ⟩ := hop op s₁ b s₂ hall.1 hs (hrely s s₁ hr h)
    exact ⟨hg, ih b (hall.2 b) hQ⟩

/-- A thread may rely on less and guarantee more. -/
theorem wp.weaken {p : Prog Op α} (h : wp M C p Q s) (hr : ∀ s s', C'.rely s s' → C.rely s s')
    (hg : ∀ s s', C.guar s s' → C'.guar s s') : wp M C' p Q s := by
  induction p generalizing s with
  | ret a => exact h
  | exec op k ih =>
    intro s₁ hs₁ b s₂ hs
    obtain ⟨hg', hk⟩ := h s₁ (hr _ _ hs₁) b s₂ hs
    exact ⟨hg _ _ hg', ih b hk⟩

/-- The others' steps keep a weakest precondition, if they keep the postcondition. -/
theorem wp.rely {p : Prog Op α} {s' : S} (htrans : ∀ a b c, C.rely a b → C.rely b c → C.rely a c)
    (hQ : ∀ a s s', C.rely s s' → Q a s → Q a s') (h : wp M C p Q s) (hs : C.rely s s') : wp M C p Q s' := by
  cases p with
  | ret a => exact hQ a s s' hs h
  | exec op k => exact fun s₁ hr => h s₁ (htrans _ _ _ hs hr)

/-- Every step of an execution that nobody disturbs is a `guar` step. -/
theorem wp.replay {p p' : Prog Op α} {cs : List M.Choice} {s' : S} (hrefl : ∀ s, C.rely s s)
    (h : wp M C p Q s) (hr : M.replay p cs s = some (p', s')) :
    Relation.ReflTransGen C.guar s s' := by
  induction cs generalizing p s with
  | nil =>
    simp only [Machine.replay, Option.some.injEq, Prod.mk.injEq] at hr
    rw [hr.2]
  | cons c cs ih =>
    cases p with
    | ret a => simp [Machine.replay] at hr
    | exec op k =>
      simp only [Machine.replay] at hr
      split at hr
      · cases hr
      · next b s₁ hrun =>
        obtain ⟨hg, hk⟩ := h s (hrefl s) b s₁ ⟨c, hrun⟩
        exact .head hg (ih hk hr)

/-- Two postconditions of a program hold together. -/
theorem wp.and {p : Prog Op α} {Q' : α → S → Prop} (h : wp M C p Q s) (h' : wp M C p Q' s) :
    wp M C p (fun a s => Q a s ∧ Q' a s) s := by
  induction p generalizing s with
  | ret a => exact ⟨h, h'⟩
  | exec op k ih =>
    intro s₁ hr b s₂ hs
    obtain ⟨hg, hk⟩ := h s₁ hr b s₂ hs
    exact ⟨hg, ih b hk (h' s₁ hr b s₂ hs).2⟩

end Wp

/-! ## Programs that may fail -/

/-- A program that returns a value or an error. -/
abbrev Fallible (ε : Type) (Op : Type → Type) (α : Type) : Type 1 := ExceptT ε (Prog Op) α

section WpE

variable {Op : Type → Type} {S ε : Type} {α β : Type} {M : Machine Op S} {C : Contract S}
  {f : α → Fallible ε Op β} {op : Op (Except ε α)} {p : Fallible ε Op α} {r : Except ε α}

/-- The postcondition that asks `Q` of a value and `E` of an error. -/
def onResult (Q : α → S → Prop) (E : ε → S → Prop) : Except ε α → S → Prop
  | .ok a => Q a
  | .error e => E e

/-- Weakest precondition of a program that may fail. -/
def wpE (M : Machine Op S) (C : Contract S) (p : Fallible ε Op α) (Q : α → S → Prop)
    (E : ε → S → Prop) : S → Prop :=
  wp M C p.run (onResult Q E)

variable {Q Q' : α → S → Prop} {E E' : ε → S → Prop} {s : S}

/-- Performs an operation that cannot fail. -/
def ask (op : Op α) : Fallible ε Op α := ExceptT.lift (Prog.perform op)

/-- Performs an operation whose answer is a value or an error. -/
def call (op : Op (Except ε α)) : Fallible ε Op α := ExceptT.mk (Prog.perform op)

/-- Returns a computed value or error. -/
def fromExcept (r : Except ε α) : Fallible ε Op α := ExceptT.mk (pure r)

/-- Runs `p` and rewrites its error. -/
def mapError (f : ε → ε) (p : Fallible ε Op α) : Fallible ε Op α :=
  ExceptT.mk (p.run >>= fun
    | .ok a => pure (.ok a)
    | .error e => pure (.error (f e)))

/-- Runs `p`; an error of `p` runs `cleanup`, whose own error is dropped, and is
    then returned. -/
def onError (p : Fallible ε Op α) (cleanup : Fallible ε Op Unit) : Fallible ε Op α :=
  ExceptT.mk (p.run >>= fun
    | .ok a => pure (.ok a)
    | .error e => cleanup.run >>= fun _ => pure (.error e))

/-- Runs `p` and drops its error. -/
def ignoreError (p : Fallible ε Op Unit) : Fallible ε Op Unit :=
  ExceptT.mk (p.run >>= fun _ => pure (.ok ()))

/-- Runs `p` and returns its value or error. -/
def attempt (p : Fallible ε Op α) : Fallible ε Op (Except ε α) := ExceptT.lift p.run

/-- The errors among the results of several programs. -/
def errorsOf : List (Except ε α) → List ε := List.filterMap fun
  | .ok _ => none
  | .error e => some e

/-- Every operation of a program that may fail has the property. -/
def Uses (P : (δ : Type) → Op δ → Prop) (p : Fallible ε Op α) : Prop := p.run.All P

section Uses

variable {P : (δ : Type) → Op δ → Prop}

theorem uses_pure {a : α} : Uses P (pure a : Fallible ε Op α) := trivial

theorem uses_throw {e : ε} : Uses P (throw e : Fallible ε Op α) := trivial

theorem uses_fromExcept : Uses P (fromExcept r : Fallible ε Op α) := trivial

theorem uses_call (h : P _ op) : Uses P (call op) := ⟨h, fun _ => trivial⟩

theorem uses_ask {op : Op α} (h : P _ op) : Uses P (ask op : Fallible ε Op α) :=
  ⟨h, fun _ => trivial⟩

theorem uses_bind (hp : Uses P p) (hf : ∀ a, Uses P (f a)) : Uses P (p >>= f) :=
  Prog.All.bind hp fun
    | .ok a => hf a
    | .error _ => trivial

theorem uses_mapError {f : ε → ε} (hp : Uses P p) : Uses P (mapError f p) :=
  Prog.All.bind hp fun
    | .ok _ => trivial
    | .error _ => trivial

theorem uses_step (h : P _ op) (hf : ∀ a, Uses P (f a)) : Uses P (call op >>= f) := uses_bind (uses_call h) hf

theorem uses_mapStep {g : ε → ε} (h : P _ op) (hf : ∀ a, Uses P (f a)) : Uses P (mapError g (call op) >>= f) :=
  uses_bind (uses_mapError (uses_call h)) hf

theorem uses_attempt (hp : Uses P p) : Uses P (attempt p) :=
  Prog.All.bind hp fun _ => trivial

theorem uses_forM {f : α → Fallible ε Op Unit} {l : List α} (h : ∀ a ∈ l, Uses P (f a)) :
    Uses P (l.forM f) := by
  induction l with
  | nil => exact uses_pure
  | cons a l ih => exact uses_bind (h a List.mem_cons_self) fun _ => ih fun b hb => h b (List.mem_cons_of_mem a hb)

theorem uses_mapM' (h : ∀ a, Uses P (f a)) (l : List α) : Uses P (l.mapM' f) := by
  induction l with
  | nil => exact uses_pure
  | cons a l ih => exact uses_bind (h a) fun _ => uses_bind ih fun _ => uses_pure

theorem uses_ignoreError {p : Fallible ε Op Unit} (hp : Uses P p) : Uses P (ignoreError p) :=
  Prog.All.bind hp fun _ => trivial

end Uses

/-- On every path at most `n` operations of a program that may fail satisfy `P`. -/
def Costs (P : (δ : Type) → Op δ → Bool) (p : Fallible ε Op α) (n : Nat) : Prop := p.run.AtMost P n

section Costs

variable {P : (δ : Type) → Op δ → Bool} {m n : Nat}

theorem costs_pure {a : α} : Costs P (pure a : Fallible ε Op α) n := trivial

theorem costs_throw {e : ε} : Costs P (throw e : Fallible ε Op α) n := trivial

theorem costs_fromExcept : Costs P (fromExcept r : Fallible ε Op α) n := trivial

theorem costs_call : Costs P (call op) 1 := by
  unfold Costs call
  show (if P _ op then _ else _)
  split
  · exact ⟨0, rfl, fun _ => trivial⟩
  · exact fun _ => trivial

theorem costs_free (h : P _ op = false) : Costs P (call op) 0 := by
  show (if P _ op then _ else _)
  rw [h]
  exact fun _ => trivial

theorem costs_ask {op : Op α} (h : P _ op = false) : Costs P (ask op : Fallible ε Op α) 0 := by
  show (if P _ op then _ else _)
  rw [h]
  exact fun _ => trivial

theorem costs_bind (hp : Costs P p m) (hf : ∀ a, Costs P (f a) n) : Costs P (p >>= f) (m + n) :=
  Prog.AtMost.bind hp fun
    | .ok a => hf a
    | .error _ => trivial

theorem costs_bind_free (hp : Costs P p 0) (hf : ∀ a, Costs P (f a) n) : Costs P (p >>= f) n :=
  Nat.zero_add n ▸ costs_bind hp hf

theorem costs_mapError {f : ε → ε} (hp : Costs P p n) : Costs P (mapError f p) n :=
  Prog.AtMost.bind (n := 0) hp fun
    | .ok _ => trivial
    | .error _ => trivial

end Costs

@[simp] theorem wpE_pure {a : α} : wpE M C (pure a : Fallible ε Op α) Q E s ↔ Q a s := Iff.rfl

@[simp] theorem wpE_throw {e : ε} : wpE M C (throw e : Fallible ε Op α) Q E s ↔ E e s := Iff.rfl

theorem wpE_fromExcept :
    wpE M C (fromExcept r : Fallible ε Op α) Q E s ↔ onResult Q E r s := Iff.rfl

theorem wpE_bind {Q : β → S → Prop} :
    wpE M C (p >>= f) Q E s ↔ wpE M C p (fun a => wpE M C (f a) Q E) E s := by
  unfold wpE
  refine Iff.trans (wp_bind (p := p.run) (f := ExceptT.bindCont f)) ?_
  constructor <;> refine fun h => h.mono fun r s h => ?_ <;> cases r <;> exact h

theorem wpE_ask {op : Op α} :
    wpE M C (ask op : Fallible ε Op α) Q E s ↔
      ∀ s₁, C.rely s s₁ → ∀ b s₂, M.sem op s₁ b s₂ → C.guar s₁ s₂ ∧ Q b s₂ := Iff.rfl

theorem wpE_call :
    wpE M C (call op) Q E s ↔
      ∀ s₁, C.rely s s₁ → ∀ r s₂, M.sem op s₁ r s₂ → C.guar s₁ s₂ ∧ onResult Q E r s₂ := Iff.rfl

theorem wpE_mapError {f : ε → ε} :
    wpE M C (mapError f p) Q E s ↔ wpE M C p Q (fun e => E (f e)) s := by
  unfold wpE mapError
  refine Iff.trans wp_bind ?_
  constructor <;> refine fun h => h.mono fun r s h => ?_ <;> cases r <;> exact h

theorem wpE_onError {cleanup : Fallible ε Op Unit} :
    wpE M C (onError p cleanup) Q E s ↔
      wpE M C p Q (fun e => wpE M C cleanup (fun _ => E e) (fun _ => E e)) s := by
  unfold wpE onError
  refine Iff.trans wp_bind ?_
  constructor <;> refine fun h => h.mono fun r s h => ?_ <;> cases r
  · exact (wp_bind.mp h).mono fun r s h => by cases r <;> exact h
  · exact h
  · exact wp_bind.mpr (h.mono fun r s h => by cases r <;> exact h)
  · exact h

theorem wpE_ignoreError {p : Fallible ε Op Unit} {Q : Unit → S → Prop} :
    wpE M C (ignoreError p) Q E s ↔ wpE M C p Q (fun _ => Q ()) s := by
  unfold wpE ignoreError
  refine Iff.trans wp_bind ?_
  constructor <;> refine fun h => h.mono fun r s h => ?_ <;> cases r <;> exact h

theorem wpE_attempt {Q : Except ε α → S → Prop} :
    wpE M C (attempt p) Q E s ↔ wpE M C p (fun a => Q (.ok a)) (fun e => Q (.error e)) s := by
  unfold wpE attempt
  refine Iff.trans wp_bind ?_
  constructor <;> refine fun h => h.mono fun r s h => ?_ <;> cases r <;> exact h

theorem wpE.mono (h : wpE M C p Q E s) (hQ : ∀ a s, Q a s → Q' a s) (hE : ∀ e s, E e s → E' e s) : wpE M C p Q' E' s :=
  wp.mono h fun r s hr => by
    cases r with
    | ok a => exact hQ a s hr
    | error e => exact hE e s hr

end WpE

/-! ## Reasoning through a view

A thread often relies on one part of the state only: the others leave its `view`
alone. Preconditions are then statements about the view. -/

section View

variable {Op : Type → Type} {S V ε : Type} {α β : Type} {M : Machine Op S}
  {f : α → Fallible ε Op β} {op : Op (Except ε α)} {p : Fallible ε Op α} {r : Except ε α}
  {view : S → V} {guar : S → S → Prop}

/-- The contract of a thread that relies on its view. -/
def viewContract (view : S → V) (guar : S → S → Prop) : Contract S :=
  ⟨fun s s' => view s' = view s, guar⟩

/-- From every state with the view `v` the program meets its contract, and ends
    with a value and a view in `Q`, or with an error and a view in `E`. -/
def wpV (M : Machine Op S) (view : S → V) (guar : S → S → Prop) (p : Fallible ε Op α)
    (Q : α → V → Prop) (E : V → Prop) (v : V) : Prop :=
  ∀ s, view s = v →
    wpE M (viewContract view guar) p (fun a s => Q a (view s)) (fun _ s => E (view s)) s

variable {Q Q' : α → V → Prop} {E E' : V → Prop} {v : V}

theorem wpV_pure {a : α} (h : Q a v) : wpV M view guar (pure a : Fallible ε Op α) Q E v := by
  rintro s rfl
  exact h

theorem wpV_throw {e : ε} (h : E v) : wpV M view guar (throw e : Fallible ε Op α) Q E v := by
  rintro s rfl
  exact h

theorem wpV_fromExcept (h : ∀ a, r = .ok a → Q a v) (hE : E v) :
    wpV M view guar (fromExcept r : Fallible ε Op α) Q E v := by
  rintro s rfl
  cases r with
  | ok a => exact h a rfl
  | error e => exact hE

theorem wpV_bind {Q : β → V → Prop}
    (h : wpV M view guar p (fun a => wpV M view guar (f a) Q E) E v) :
    wpV M view guar (p >>= f) Q E v := by
  intro s hs
  exact wpE_bind.mpr ((h s hs).mono (fun a s ha => ha s rfl) (fun _ _ h => h))

theorem wpV.mono (h : wpV M view guar p Q E v) (hQ : ∀ a v, Q a v → Q' a v) (hE : ∀ v, E v → E' v) :
    wpV M view guar p Q' E' v :=
  fun s hs => (h s hs).mono (fun a s => hQ a (view s)) (fun _ s => hE (view s))

theorem wpV.bind {Q' : β → V → Prop} (h : wpV M view guar p Q E v)
    (hQ : ∀ a v, Q a v → wpV M view guar (f a) Q' E' v) (hE : ∀ v, E v → E' v) :
    wpV M view guar (p >>= f) Q' E' v :=
  wpV_bind (h.mono hQ hE)

/-- The contract of the program, without its postcondition. -/
theorem wpV.run (h : wpV M view guar p Q E v) (hs : view s = v) :
    wp M (viewContract view guar) p.run (fun _ _ => True) s :=
  wp.mono (h s hs) fun _ _ _ => trivial

theorem wpV_ask {op : Op α}
    (h : ∀ s b s', view s = v → M.sem op s b s' → guar s s' ∧ Q b (view s')) :
    wpV M view guar (ask op : Fallible ε Op α) Q E v :=
  fun _ hs _ hr b _ hop => h _ b _ (hr.trans hs) hop

theorem wpV_call
    (h : ∀ s r s', view s = v → M.sem op s r s' → guar s s' ∧ onResult Q (fun _ => E) r (view s')) :
    wpV M view guar (call op) Q E v := by
  intro s hs s₁ hr r s₂ hop
  obtain ⟨hg, hQ⟩ := h s₁ r s₂ (hr.trans hs) hop
  refine ⟨hg, ?_⟩
  cases r with
  | ok a => exact hQ
  | error e => exact hQ

theorem wpV_mapError {f : ε → ε} (h : wpV M view guar p Q E v) :
    wpV M view guar (mapError f p) Q E v :=
  fun s hs => wpE_mapError.mpr (h s hs)

theorem wpV_onError {cleanup : Fallible ε Op Unit} {E' : V → Prop} (h : wpV M view guar p Q E' v)
    (hc : ∀ v, E' v → wpV M view guar cleanup (fun _ => E) E v) :
    wpV M view guar (onError p cleanup) Q E v :=
  fun s hs => wpE_onError.mpr ((h s hs).mono (fun _ _ h => h) fun _ s he => hc (view s) he s rfl)

theorem wpV_attempt {Q : Except ε α → V → Prop} {E' : V → Prop}
    (h : wpV M view guar p (fun a => Q (.ok a)) E' v) (hE : ∀ e v, E' v → Q (.error e) v) :
    wpV M view guar (attempt p) Q E v :=
  fun s hs => wpE_attempt.mpr ((h s hs).mono (fun _ _ h => h) fun e s he => hE e (view s) he)

theorem wpV_ignoreError {p : Fallible ε Op Unit} {Q : Unit → V → Prop}
    (h : wpV M view guar p Q (Q ()) v) : wpV M view guar (ignoreError p) Q E v :=
  fun s hs => wpE_ignoreError.mpr (h s hs)

end View

/-! ## Reasoning under an invariant

When neither the others nor the thread breaks an invariant, every assertion of a
proof may use it. -/

section Invariant

variable {Op : Type → Type} {S ε : Type} {α β : Type} {M : Machine Op S} {C : Contract S}
  {f : α → Fallible ε Op β} {op : Op (Except ε α)} {p : Fallible ε Op α} {r : Except ε α}
  {I : S → Prop}

/-- Both sides of the contract keep `I`. -/
structure Contract.Keeps (C : Contract S) (I : S → Prop) : Prop where
  rely : ∀ s s', C.rely s s' → I s → I s'
  guar : ∀ s s', C.guar s s' → I s → I s'

/-- From a state of the invariant the program meets its contract, and ends with a
    value and a state in `Q`, or with an error. -/
def wpI (M : Machine Op S) (C : Contract S) (I : S → Prop) (p : Fallible ε Op α)
    (Q : α → S → Prop) (s : S) : Prop :=
  I s → wpE M C p (fun a s => I s ∧ Q a s) (fun _ s => I s) s

variable {Q Q' : α → S → Prop} {s : S}

theorem wpI_pure {a : α} (h : Q a s) : wpI M C I (pure a : Fallible ε Op α) Q s :=
  fun hI => ⟨hI, h⟩

theorem wpI_throw {e : ε} : wpI M C I (throw e : Fallible ε Op α) Q s := fun hI => hI

theorem wpI_fromExcept (h : ∀ a, r = .ok a → Q a s) :
    wpI M C I (fromExcept r : Fallible ε Op α) Q s := by
  intro hI
  cases r with
  | ok a => exact ⟨hI, h a rfl⟩
  | error e => exact hI

theorem wpI_bind {Q : β → S → Prop} (h : wpI M C I p (fun a => wpI M C I (f a) Q) s) : wpI M C I (p >>= f) Q s :=
  fun hI => wpE_bind.mpr ((h hI).mono (fun _ _ ha => ha.2 ha.1) (fun _ _ h => h))

theorem wpI.mono (h : wpI M C I p Q s) (hQ : ∀ a s, I s → Q a s → Q' a s) : wpI M C I p Q' s :=
  fun hI => (h hI).mono (fun a s ha => ⟨ha.1, hQ a s ha.1 ha.2⟩) (fun _ _ h => h)

theorem wpI.bind {Q' : β → S → Prop} (h : wpI M C I p Q s)
    (hQ : ∀ a s, I s → Q a s → wpI M C I (f a) Q' s) : wpI M C I (p >>= f) Q' s :=
  wpI_bind (h.mono hQ)

theorem wpI_ask (K : C.Keeps I) {op : Op α}
    (h : ∀ s₁, C.rely s s₁ → I s₁ → ∀ b s₂, M.sem op s₁ b s₂ → C.guar s₁ s₂ ∧ Q b s₂) :
    wpI M C I (ask op : Fallible ε Op α) Q s := by
  intro hI s₁ hr b s₂ hop
  have hI₁ := K.rely s s₁ hr hI
  obtain ⟨hg, hQ⟩ := h s₁ hr hI₁ b s₂ hop
  exact ⟨hg, K.guar s₁ s₂ hg hI₁, hQ⟩

theorem wpI_call (K : C.Keeps I)
    (h : ∀ s₁, C.rely s s₁ → I s₁ → ∀ r s₂, M.sem op s₁ r s₂ → C.guar s₁ s₂ ∧ ∀ a, r = .ok a → Q a s₂) :
    wpI M C I (call op) Q s := by
  intro hI s₁ hr r s₂ hop
  have hI₁ := K.rely s s₁ hr hI
  obtain ⟨hg, hQ⟩ := h s₁ hr hI₁ r s₂ hop
  have hI₂ := K.guar s₁ s₂ hg hI₁
  refine ⟨hg, ?_⟩
  cases r with
  | ok a => exact ⟨hI₂, hQ a rfl⟩
  | error e => exact hI₂

theorem wpI_mapError {f : ε → ε} (h : wpI M C I p Q s) : wpI M C I (mapError f p) Q s :=
  fun hI => wpE_mapError.mpr (h hI)

theorem wpI_attempt {Q : Except ε α → S → Prop} (h : wpI M C I p (fun a => Q (.ok a)) s)
    (hE : ∀ e s, I s → Q (.error e) s) : wpI M C I (attempt p) Q s :=
  fun hI => wpE_attempt.mpr ((h hI).mono (fun _ _ h => h) (fun e s h => ⟨h, hE e s h⟩))

/-- A thread may rely on less and guarantee more. -/
theorem wpI.weaken {C' : Contract S} (h : wpI M C I p Q s)
    (hr : ∀ s s', C'.rely s s' → C.rely s s') (hg : ∀ s s', C.guar s s' → C'.guar s s') :
    wpI M C' I p Q s :=
  fun hI => wp.weaken (h hI) hr hg

/-- Part of the invariant may be used for one program only. -/
theorem wpI.and {X : S → Prop} (h : wpI M C (fun s => I s ∧ X s) p Q s) (hX : X s) :
    wpI M C I p (fun a s => Q a s ∧ X s) s :=
  fun hI => (h ⟨hI, hX⟩).mono (fun _ _ h => ⟨h.1.1, h.2, h.1.2⟩) (fun _ _ h => h.1)

end Invariant

/-! ## Programs over part of a state -/

section Embed

variable {Op Op' : Type → Type} {S S' ε : Type} {α : Type}

/-- The program with its operations renamed. -/
def Prog.embed (f : {δ : Type} → Op δ → Op' δ) : Prog Op α → Prog Op' α
  | .ret a => .ret a
  | .exec op k => .exec (f op) fun b => (k b).embed f

/-- The program with its operations renamed, when it may fail. -/
def embed (f : {δ : Type} → Op δ → Op' δ) (p : Fallible ε Op α) : Fallible ε Op' α :=
  ExceptT.mk (p.run.embed f)

/-- A program over the part `proj` of a state meets its contract in the whole, if
    the renamed operations act on that part as the operations do. -/
theorem wp_embed {M : Machine Op S} {M' : Machine Op' S'} {C : Contract S} {C' : Contract S'}
    {f : {δ : Type} → Op δ → Op' δ} (proj : S' → S) {p : Prog Op α} {s : S'}
    (hrely : ∀ s s', C'.rely s s' → C.rely (proj s) (proj s'))
    (hsem : ∀ {δ : Type} (op : Op δ) s b s', M'.sem (f op) s b s' →
      M.sem op (proj s) b (proj s') ∧ (C.guar (proj s) (proj s') → C'.guar s s'))
    (h : wp M C p Q (proj s)) : wp M' C' (p.embed f) (fun a s => Q a (proj s)) s := by
  induction p generalizing s with
  | ret a => exact h
  | exec op k ih =>
    intro s₁ hr b s₂ hs
    obtain ⟨hop, hguar⟩ := hsem op s₁ b s₂ hs
    obtain ⟨hg, hk⟩ := h (proj s₁) (hrely s s₁ hr) b (proj s₂) hop
    exact ⟨hguar hg, ih b hk⟩

end Embed

end Conc
