-- SUMMARY: A sorted list read in windows behind a cursor that wraps around.
import Mathlib.Data.List.Sort
import Mathlib.Order.Basic

/-!
# Scans behind a cursor

A sorted list is read in windows of at most `limit` elements. A window starts behind the
cursor. A full window moves the cursor to its last element, and any other one, which has
seen the end of the list, resets it. From every cursor the windows reach every element.
-/

namespace CursorScan

variable {α : Type} [LinearOrder α]

/-- The elements behind the cursor. -/
def behind (l : List α) : Option α → List α
  | none => l
  | some c => l.filter (c < ·)

def window (l : List α) (limit : Nat) (c : Option α) : List α := (behind l c).take limit

/-- The cursor after a window. -/
def next (limit : Nat) (w : List α) : Option α :=
  if w.length < limit ∨ w = [] then none else w.getLast?

/-- The cursor after `k` windows. -/
def cursorAt (l : List α) (limit : Nat) : Option α → Nat → Option α
  | c, 0 => c
  | c, k + 1 => cursorAt l limit (next limit (window l limit c)) k

theorem cursorAt_add (l : List α) (limit : Nat) (c : Option α) (j k : Nat) :
    cursorAt l limit c (j + k) = cursorAt l limit (cursorAt l limit c j) k := by
  induction j generalizing c with
  | zero => rw [Nat.zero_add, cursorAt]
  | succ j ih =>
    rw [Nat.succ_add]
    exact ih _

variable {l : List α} {limit : Nat} {c : Option α} {x : α}

theorem pairwise_behind (hl : l.Pairwise (· < ·)) (c : Option α) : (behind l c).Pairwise (· < ·) := by
  cases c with
  | none => exact hl
  | some c => exact hl.filter _

theorem mem_of_mem_window (hx : x ∈ window l limit c) : x ∈ l := by
  have hbehind := List.mem_of_mem_take hx
  cases c with
  | none => exact hbehind
  | some c => exact List.mem_of_mem_filter hbehind

/-- Behind an element `x` that is behind the cursor lies what follows `x`. -/
theorem behind_of_split (hl : l.Pairwise (· < ·)) {m₁ m₂ : List α}
    (h : behind l c = m₁ ++ x :: m₂) : behind l (some x) = m₂ := by
  have hsorted := pairwise_behind hl c
  rw [h, List.pairwise_append] at hsorted
  obtain ⟨-, hright, hcross⟩ := hsorted
  -- nothing of `l` in front of the cursor is behind `x`
  have hfilter : behind l (some x) = (behind l c).filter (x < ·) := by
    cases c with
    | none => rfl
    | some c =>
      have hcx : c < x := by
        have hx : x ∈ behind l (some c) := by simp [h]
        simpa using (List.mem_filter.mp hx).2
      simp only [behind, List.filter_filter]
      refine List.filter_congr fun y _ => ?_
      by_cases hxy : x < y
      · simp [hxy, hcx.trans hxy]
      · simp [hxy]
  have hfront : m₁.filter (x < ·) = [] := by
    refine List.filter_eq_nil_iff.mpr fun y hy => ?_
    have hyx := hcross y hy x (List.mem_cons_self ..)
    simpa using hyx.le
  have hback : m₂.filter (x < ·) = m₂ := by
    refine List.filter_eq_self.mpr fun y hy => ?_
    simpa using (List.pairwise_cons.mp hright).1 y hy
  rw [hfilter, h, List.filter_append, hfront, List.filter_cons]
  simp [hback]

/-- A full window is skipped. -/
theorem behind_next (hl : l.Pairwise (· < ·)) (hlimit : 0 < limit)
    (hfull : limit ≤ (behind l c).length) :
    behind l (next limit (window l limit c)) = (behind l c).drop limit := by
  have hlength : (window l limit c).length = limit := by
    rw [window, List.length_take]
    omega
  have hne : window l limit c ≠ [] := fun hnil => by
    rw [hnil] at hlength
    exact hlimit.ne hlength
  obtain ⟨m, x, hsplit⟩ : ∃ m x, window l limit c = m ++ [x] :=
    ⟨_, _, (List.dropLast_append_getLast hne).symm⟩
  have hnext : next limit (window l limit c) = some x := by
    rw [next, if_neg (by simp [hlength, hne]), hsplit, List.getLast?_concat]
  rw [hnext]
  have hbehind : behind l c = m ++ x :: (behind l c).drop limit := by
    rw [← List.singleton_append, ← List.append_assoc, ← hsplit, window, List.take_append_drop]
  exact behind_of_split hl hbehind

theorem next_eq_none (hend : (behind l c).length < limit) : next limit (window l limit c) = none := by
  refine if_pos (.inl ?_)
  rw [window, List.length_take]
  omega

/-- The cursor is reset before all elements behind it have been seen twice. -/
theorem exists_reset (hl : l.Pairwise (· < ·)) (hlimit : 0 < limit) (c : Option α) :
    ∃ k ≤ (behind l c).length / limit + 1, cursorAt l limit c k = none := by
  -- every full window leaves `limit` fewer elements behind the cursor
  induction hm : (behind l c).length using Nat.strong_induction_on generalizing c with
  | _ m ih =>
    by_cases hend : m < limit
    · exact ⟨1, Nat.le_add_left .., next_eq_none (hm ▸ hend)⟩
    have hfull : limit ≤ (behind l c).length := by omega
    have hdrop := congrArg List.length (behind_next hl hlimit hfull)
    rw [List.length_drop, hm] at hdrop
    obtain ⟨k, hk, hnone⟩ := ih (m - limit) (by omega) _ hdrop
    refine ⟨k + 1, ?_, hnone⟩
    rw [Nat.div_eq_sub_div hlimit (by omega)]
    omega

/-- An element behind the cursor is in the window that its position says. -/
theorem mem_window_of_behind (hl : l.Pairwise (· < ·)) (hlimit : 0 < limit) {r : Nat}
    (hx : (behind l c)[r]? = some x) : x ∈ window l limit (cursorAt l limit c (r / limit)) := by
  induction r using Nat.strong_induction_on generalizing c with
  | _ r ih =>
    by_cases hr : r < limit
    · rw [Nat.div_eq_of_lt hr]
      refine List.mem_of_getElem? (i := r) ?_
      rw [cursorAt, window, List.getElem?_take_of_lt hr, hx]
    · have hlt : r < (behind l c).length := (List.getElem?_eq_some_iff.mp hx).1
      have hdrop := behind_next hl hlimit (c := c) (by omega)
      rw [Nat.div_eq_sub_div hlimit (by omega)]
      refine ih (r - limit) (by omega) ?_
      rw [hdrop, List.getElem?_drop, Nat.add_sub_cancel' (by omega), hx]

/-- From every cursor, the windows of two rounds reach every element. -/
theorem exists_mem_window (hl : l.Pairwise (· < ·)) (hlimit : 0 < limit) (c : Option α) (hx : x ∈ l) :
    ∃ k < 2 * (l.length / limit + 1), x ∈ window l limit (cursorAt l limit c k) := by
  obtain ⟨j, hj, hreset⟩ := exists_reset hl hlimit c
  obtain ⟨r, hr, rfl⟩ := List.mem_iff_getElem.mp hx
  refine ⟨j + r / limit, ?_, ?_⟩
  · have hbehind : (behind l c).length ≤ l.length := by
      cases c with
      | none => exact le_rfl
      | some c => exact List.length_filter_le ..
    have hfirst := Nat.div_le_div_right (c := limit) hbehind
    have hsecond := Nat.div_le_div_right (c := limit) hr.le
    omega
  · rw [cursorAt_add, hreset]
    exact mem_window_of_behind hl hlimit (List.getElem?_eq_getElem hr)

end CursorScan
