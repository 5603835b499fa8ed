-- SUMMARY: Lists as multisets: taking elements out, picking occurrences and matching two lists one to one.
import ArbiterCore.Base.GoMap
import Mathlib.Data.List.Perm.Subperm
import Mathlib.Data.List.Nodup
import Mathlib.Tactic.Common

/-!
# Bags

The loops with which the sources compare multisets: a count per value that is taken
down, and a list of unmatched values that shrinks.
-/

namespace Bag

variable {α β γ : Type} [DecidableEq α]

/-- Takes every element of the second list out of the first one; `none` when an
    element is not there any more. -/
def takeAll : List α → List α → Option (List α)
  | left, [] => some left
  | left, a :: l => if a ∈ left then takeAll (left.erase a) l else none

theorem takeAll_perm {left l rest : List α} (h : takeAll left l = some rest) :
    left.Perm (l ++ rest) := by
  induction l generalizing left with
  | nil =>
    cases h
    exact .rfl
  | cons a l ih =>
    simp only [takeAll] at h
    split at h
    · next ha => exact (List.perm_cons_erase ha).trans ((ih h).cons a)
    · cases h

theorem takeAll_isSome {left l : List α} : (takeAll left l).isSome ↔ l.Subperm left := by
  induction l generalizing left with
  | nil => simp [takeAll, List.nil_subperm]
  | cons a l ih =>
    simp only [takeAll]
    split
    · next ha =>
      rw [ih, ← List.subperm_cons a]
      exact ⟨fun h => h.trans (List.perm_cons_erase ha).symm.subperm,
        fun h => h.trans (List.perm_cons_erase ha).subperm⟩
    · next ha => simpa using fun h => ha (h.subset List.mem_cons_self)

/-- The elements that `left` still counts, in the order of the list. -/
def pickBy (key : β → α) : List β → List α → List β
  | [], _ => []
  | b :: bs, left =>
    if key b ∈ left then b :: pickBy key bs (left.erase (key b)) else pickBy key bs left

theorem pickBy_sublist (key : β → α) (bs : List β) (left : List α) :
    (pickBy key bs left).Sublist bs := by
  induction bs generalizing left with
  | nil => exact .slnil
  | cons b bs ih =>
    simp only [pickBy]
    split
    · exact (ih _).cons_cons b
    · exact (ih _).cons b

theorem pickBy_subperm (key : β → α) (bs : List β) (left : List α) :
    ((pickBy key bs left).map key).Subperm left := by
  induction bs generalizing left with
  | nil => exact List.nil_subperm
  | cons b bs ih =>
    simp only [pickBy]
    split
    · next hb =>
      rw [List.map_cons]
      exact ((List.subperm_cons _).mpr (ih _)).trans (List.perm_cons_erase hb).symm.subperm
    · exact ih left

theorem pickBy_perm {key : β → α} {bs : List β} {left : List α} (h : left.Subperm (bs.map key)) :
    ((pickBy key bs left).map key).Perm left := by
  induction bs generalizing left with
  | nil =>
    rw [List.map_nil, List.subperm_nil] at h
    simp [pickBy, h]
  | cons b bs ih =>
    simp only [pickBy]
    split
    · next hb =>
      have hrest : (left.erase (key b)).Subperm (bs.map key) := by
        simpa using h.erase (key b)
      exact ((ih hrest).cons _).trans (List.perm_cons_erase hb).symm
    · next hb =>
      refine ih (List.subperm_ext_iff.mpr fun x hx => ?_)
      have hne : key b ≠ x := fun heq => hb (heq ▸ hx)
      simpa [List.count_cons_of_ne hne] using List.subperm_ext_iff.mp h x hx

/-- The elements that `pickBy` passes over. -/
def leaveBy (key : β → α) : List β → List α → List β
  | [], _ => []
  | b :: bs, left =>
    if key b ∈ left then leaveBy key bs (left.erase (key b)) else b :: leaveBy key bs left

theorem leaveBy_sublist (key : β → α) (bs : List β) (left : List α) :
    (leaveBy key bs left).Sublist bs := by
  induction bs generalizing left with
  | nil => exact .slnil
  | cons b bs ih =>
    simp only [leaveBy]
    split
    · exact (ih _).cons b
    · exact (ih _).cons_cons b

theorem pickBy_append_leaveBy (key : β → α) (bs : List β) (left : List α) :
    (pickBy key bs left ++ leaveBy key bs left).Perm bs := by
  induction bs generalizing left with
  | nil => exact .nil
  | cons b bs ih =>
    simp only [pickBy, leaveBy]
    split
    · exact (ih _).cons b
    · exact List.perm_middle.trans ((ih _).cons b)

variable {same : β → α → Bool}

/-- Under distinct keys the search for a key finds the only element that has it. -/
theorem find?_of_nodup {key : β → α} {bs : List β} {b : β} {k : α} (h : (bs.map key).Nodup)
    (hb : b ∈ bs) (hk : key b = k) : bs.find? (fun x => decide (key x = k)) = some b := by
  have hsome : (bs.find? (fun x => decide (key x = k))).isSome :=
    List.find?_isSome.mpr ⟨b, hb, by simpa using hk⟩
  obtain ⟨b', hb'⟩ := Option.isSome_iff_exists.mp hsome
  have hk' : key b' = k := by simpa using List.find?_some hb'
  rw [hb', List.inj_on_of_nodup_map h (List.mem_of_find?_eq_some hb') hb (hk'.trans hk.symm)]

/-! ## Counting maps -/

/-- The map holds how often each value occurs in the list. -/
def Counts (m : GoMap α Nat) (l : List α) : Prop := ∀ k, m.getD k 0 = l.count k

theorem Counts.empty : Counts (α := α) .empty [] := fun k => by simp

variable {m : GoMap α Nat} {l : List α} {k : α}

theorem Counts.add (h : Counts m l) (k : α) : Counts (m.insert k (m.getD k 0 + 1)) (k :: l) := by
  intro k'
  by_cases hk : k' = k
  · subst hk
    simp [h k']
  · rw [GoMap.getD_insert_of_ne hk, h k', List.count_cons_of_ne (Ne.symm hk)]

theorem Counts.take (h : Counts m l) (k : α) :
    Counts (m.insert k (m.getD k 0 - 1)) (l.erase k) := by
  intro k'
  by_cases hk : k' = k
  · subst hk
    simp [h k']
  · rw [GoMap.getD_insert_of_ne hk, h k', List.count_erase_of_ne hk]

theorem Counts.pos_iff (h : Counts m l) : 0 < m.getD k 0 ↔ k ∈ l := by
  rw [h k, List.count_pos_iff]

end Bag
