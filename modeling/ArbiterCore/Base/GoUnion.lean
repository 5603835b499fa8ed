-- SUMMARY: Go structs whose fields are all pointers and of which one should be set.
import Mathlib.Data.List.Nodup
import Mathlib.Data.List.Count

/-!
# Unions

A union in Go is a struct of pointers of which exactly one is to be set. It is a
function from the field names to the optional payloads, so that counting and
visiting the fields need no case for each of them.
-/

/-- A struct with a pointer to a `P f` for each field `f`. -/
abbrev GoUnion (F : Type) (P : F → Type) := (f : F) → Option (P f)

namespace GoUnion

variable {F : Type} {P : F → Type}

/-- The number of fields that are set. -/
def count (fields : List F) (u : GoUnion F P) : Nat := fields.countP fun f => (u f).isSome

variable [DecidableEq F]

/-- The union with one field set. -/
def only (f : F) (x : P f) : GoUnion F P := fun g => if h : f = g then some (h ▸ x) else none

@[simp] theorem only_self (f : F) (x : P f) : only f x f = some x := by
  simp [only]

@[simp] theorem only_ne {f g : F} (x : P f) (h : f ≠ g) : only f x g = none := by
  simp [only, h]

theorem eq_only {u : GoUnion F P} {f : F} {x : P f} (hf : u f = some x)
    (hother : ∀ g, g ≠ f → u g = none) : u = only f x := by
  funext g
  by_cases h : f = g
  · subst h
    rw [hf, only_self]
  · rw [only_ne x h, hother g (Ne.symm h)]

variable {fields : List F}

/-- Exactly one field is set. -/
theorem count_eq_one_iff (hall : ∀ f, f ∈ fields) (hnodup : fields.Nodup) {u : GoUnion F P} :
    u.count fields = 1 ↔ ∃ f x, u = only f x := by
  constructor
  · intro h
    rw [count, List.countP_eq_length_filter, List.length_eq_one_iff] at h
    obtain ⟨f, hf⟩ := h
    have hset : ∀ g, (u g).isSome = true ↔ g = f := fun g => by
      have hmem : g ∈ fields.filter (fun f => (u f).isSome) ↔ g = f := by simp [hf]
      rw [← hmem, List.mem_filter]
      exact ⟨fun h => ⟨hall g, h⟩, And.right⟩
    obtain ⟨x, hx⟩ := Option.isSome_iff_exists.mp ((hset f).mpr rfl)
    exact ⟨f, x, eq_only hx fun g hg => by simpa using mt (hset g).mp hg⟩
  · rintro ⟨f, x, rfl⟩
    have hset : (fun g => (only f x g).isSome) = (· == f) := by
      funext g
      by_cases h : f = g
      · subst h
        simp
      · simp [h, beq_eq_false_iff_ne.mpr (Ne.symm h)]
    rw [count, hset]
    exact List.count_eq_one_of_mem hnodup (hall f)

end GoUnion
