-- SUMMARY: Sorting and compacting of lists, as the sources do it with Go's slices package.
import Mathlib.Data.List.Sort
import Mathlib.Order.Lattice

/-!
# Sorted lists

`slices.Sort` followed by `slices.Compact` gives the strictly ascending list of
the members. A strictly ascending list is determined by its members.
-/

namespace GoSlice

variable {α : Type}

/-- A list of texts as `%v` prints it. -/
def text (l : List String) : String := "[" ++ " ".intercalate l ++ "]"

variable {l : List α}

section Compact

variable [DecidableEq α]

/-- `slices.Compact`: one element for every run of equal ones. -/
def compact : List α → List α
  | a :: b :: l => if a = b then compact (b :: l) else a :: compact (b :: l)
  | l => l

theorem mem_compact {x : α} : x ∈ compact l ↔ x ∈ l := by
  fun_induction compact l with
  | case1 b l ih =>
    rw [ih]
    simp
  | case2 a b l hab ih => rw [List.mem_cons, ih, List.mem_cons (l := b :: l)]
  | case3 l h => rfl

end Compact

variable [LinearOrder α]

theorem compact_sorted (h : l.Pairwise (· ≤ ·)) : (compact l).Pairwise (· < ·) := by
  fun_induction compact l with
  | case1 b l ih => exact ih (List.pairwise_cons.mp h).2
  | case2 a b l hab ih =>
    obtain ⟨hle, hrest⟩ := List.pairwise_cons.mp h
    refine List.pairwise_cons.mpr ⟨fun x hx => ?_, ih hrest⟩
    -- the members after `b` are at least `b`, and `b` is above `a`
    have hb : b ≤ x := by
      rcases List.mem_cons.mp (mem_compact.mp hx) with rfl | hx
      · exact le_rfl
      · exact (List.pairwise_cons.mp hrest).1 x hx
    exact lt_of_lt_of_le (lt_of_le_of_ne (hle b List.mem_cons_self) hab) hb
  | case3 l hl =>
    match l with
    | [] => exact .nil
    | [a] => simp
    | a :: b :: l => exact absurd rfl (hl a b l)

theorem compact_eq_self (h : l.Pairwise (· < ·)) : compact l = l := by
  fun_induction compact l with
  | case1 b l ih => exact absurd ((List.pairwise_cons.mp h).1 b List.mem_cons_self) (lt_irrefl b)
  | case2 a b l hab ih => rw [ih (List.pairwise_cons.mp h).2]
  | case3 l hl => rfl

/-- The sorted list of the members of `l`, without duplicates. -/
def sortCompact (l : List α) : List α := compact (l.insertionSort (· ≤ ·))

@[simp] theorem mem_sortCompact {x : α} : x ∈ sortCompact l ↔ x ∈ l := by
  rw [sortCompact, mem_compact, List.mem_insertionSort]

theorem sortCompact_sorted (l : List α) : (sortCompact l).Pairwise (· < ·) :=
  compact_sorted (List.pairwise_insertionSort _ l)

theorem sortCompact_eq_self (h : l.Pairwise (· < ·)) : sortCompact l = l := by
  rw [sortCompact, (h.imp le_of_lt).insertionSort_eq, compact_eq_self h]

/-! ## Nil slices -/

/-- A Go slice: `none` is nil, which is told apart from an empty slice. -/
abbrev Slice (α : Type) := Option (List α)

namespace Slice

variable {α β : Type}

def elems (s : Slice α) : List α := s.getD []

/-- The slice that appending to nil gives. -/
def ofList : List α → Slice α
  | [] => none
  | a :: l => some (a :: l)

def nilIfEmpty (s : Slice α) : Slice α := ofList s.elems

@[simp] theorem elems_none : Slice.elems (none : Slice α) = [] := rfl

@[simp] theorem elems_some (l : List α) : Slice.elems (some l) = l := rfl

@[simp] theorem elems_ofList (l : List α) : (ofList l).elems = l := by
  cases l <;> rfl

@[simp] theorem elems_nilIfEmpty (s : Slice α) : s.nilIfEmpty.elems = s.elems := elems_ofList _

@[simp] theorem ofList_elems (s : Slice α) : ofList s.elems = s.nilIfEmpty := rfl

@[simp] theorem nilIfEmpty_ofList (l : List α) : (ofList l).nilIfEmpty = ofList l := by
  simp [nilIfEmpty]

@[simp] theorem nilIfEmpty_idem (s : Slice α) : s.nilIfEmpty.nilIfEmpty = s.nilIfEmpty :=
  nilIfEmpty_ofList _

theorem nilIfEmpty_eq_self {s : Slice α} : s.nilIfEmpty = s ↔ s ≠ some [] := by
  rcases s with _ | _ | ⟨a, l⟩ <;> simp [nilIfEmpty, elems, ofList]

end Slice

end GoSlice
