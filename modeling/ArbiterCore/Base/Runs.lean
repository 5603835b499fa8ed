-- SUMMARY: Runs of one program among others, and how a weakest precondition follows them.
import ArbiterCore.Base.Prog

/-!
# Runs of one program

A program runs while others move the state along `rely`. A weakest precondition holds
of what is left of the program after every such run.
-/

namespace Conc

variable {Op : Type → Type} {S V ε α : Type} {M : Machine Op S} {C : Contract S}

/-- The program `p` in the state `s` runs to what is left of it, while the others move
    the state along `rely`. -/
inductive Runs (M : Machine Op S) (rely : S → S → Prop) (p : Prog Op α) (s : S) :
    Prog Op α → S → Prop where
  | refl : Runs M rely p s p s
  | others {p' : Prog Op α} {s₁ s₂ : S} (h : Runs M rely p s p' s₁) (hr : rely s₁ s₂) :
      Runs M rely p s p' s₂
  | step {β : Type} {op : Op β} {k : β → Prog Op α} {b : β} {s₁ s₂ : S}
      (h : Runs M rely p s (.exec op k) s₁) (hs : M.sem op s₁ b s₂) : Runs M rely p s (k b) s₂

theorem wp.runs {p p' : Prog Op α} {Q : α → S → Prop} {s s' : S} (hrefl : ∀ s, C.rely s s)
    (htrans : ∀ a b c, C.rely a b → C.rely b c → C.rely a c)
    (hQ : ∀ a s s', C.rely s s' → Q a s → Q a s') (h : wp M C p Q s)
    (hrun : Runs M C.rely p s p' s') : wp M C p' Q s' := by
  induction hrun with
  | refl => exact h
  | others _ hr ih => exact ih.rely htrans hQ hr
  | step _ hs ih => exact (ih _ (hrefl _) _ _ hs).2

/-- What the others' steps and the program's own steps keep, a run keeps. -/
theorem wp.runs_keep {p p' : Prog Op α} {s s' : S} {R : S → S → Prop} (hrefl : ∀ s, C.rely s s)
    (htrans : ∀ a b c, C.rely a b → C.rely b c → C.rely a c)
    (h : wp M C p (fun _ _ => True) s) (hrun : Runs M C.rely p s p' s') (hR : R s s)
    (hrely : ∀ a b, R s a → C.rely a b → R s b) (hguar : ∀ a b, R s a → C.guar a b → R s b) :
    R s s' := by
  induction hrun with
  | refl => exact hR
  | others _ hr ih => exact hrely _ _ ih hr
  | step hprev hs ih =>
    have hwp := h.runs hrefl htrans (fun _ _ _ _ => id) hprev
    exact hguar _ _ ih (hwp _ (hrefl _) _ _ hs).1

theorem Runs.weaken {rely rely' : S → S → Prop} {p p' : Prog Op α} {s s' : S}
    (h : Runs M rely p s p' s') (hr : ∀ s s', rely s s' → rely' s s') : Runs M rely' p s p' s' := by
  induction h with
  | refl => exact .refl
  | others _ hstep ih => exact ih.others (hr _ _ hstep)
  | step _ hs ih => exact ih.step hs

/-- A replayed list of choices continues a run. -/
theorem Runs.replay {rely : S → S → Prop} {p p₁ p₂ : Prog Op α} {s s₁ s₂ : S} {l : List M.Choice}
    (h : Runs M rely p s p₁ s₁) (hr : M.replay p₁ l s₁ = some (p₂, s₂)) :
    Runs M rely p s p₂ s₂ := by
  induction l generalizing p₁ s₁ with
  | nil =>
    simp only [Machine.replay, Option.some.injEq, Prod.mk.injEq] at hr
    obtain ⟨rfl, rfl⟩ := hr
    exact h
  | cons c l ih =>
    cases p₁ with
    | ret a => simp [Machine.replay] at hr
    | exec op k =>
      simp only [Machine.replay] at hr
      split at hr
      · cases hr
      · next b s' hrun => exact ih (h.step ⟨c, hrun⟩) hr

/-! ## Through a view -/

section View

variable {view : S → V} {guar : S → S → Prop} {P : (δ : Type) → Op δ → Prop}
  {Q : α → V → Prop} {E : V → Prop} {v : V}

theorem wpV.runs {p : Fallible ε Op α} {p' : Prog Op (Except ε α)} {s s' : S}
    (h : wpV M view guar p Q E (view s))
    (hrun : Runs M (fun s s' => view s' = view s) p.run s p' s') :
    wp M (viewContract view guar) p'
      (onResult (fun a s => Q a (view s)) (fun _ s => E (view s))) s' := by
  refine wp.runs (C := viewContract view guar) (fun _ => rfl) (fun _ _ _ h h' => h'.trans h) ?_
    (h s rfl) hrun
  intro a s s' hr hQ
  have hview : view s' = view s := hr
  cases a with
  | ok a =>
    change Q a (view s')
    rw [hview]
    exact hQ
  | error e =>
    change E (view s')
    rw [hview]
    exact hQ

end View

end Conc
