-- SUMMARY: Finite maps with the operations the sources use on Go maps.
import Mathlib.Data.List.AList
import Mathlib.Data.List.Sort

/-!
# Finite maps

A Go map is an association list with distinct keys: indexing with a default,
assignment, deletion (of one key, or of all keys that satisfy a test), iteration
over keys and values. The order of the entries has no meaning; whatever the
sources sort is sorted here as well.
-/

/-- A finite map from `κ` to `ν`. -/
structure GoMap (κ ν : Type) where
  alist : AList fun _ : κ => ν

namespace GoMap

variable {κ ν : Type} [DecidableEq κ]

instance [DecidableEq ν] : DecidableEq (GoMap κ ν) := fun m m' =>
  decidable_of_iff (m.alist = m'.alist) (by cases m; cases m'; simp)

def empty : GoMap κ ν := ⟨∅⟩

/-- The value of a key, if the map has it. -/
def lookup (m : GoMap κ ν) (k : κ) : Option ν := m.alist.lookup k

/-- `m[k]`, with the zero value `d` for a missing key. -/
def getD (m : GoMap κ ν) (k : κ) (d : ν) : ν := (m.lookup k).getD d

/-- `m[k] = v`. -/
def insert (m : GoMap κ ν) (k : κ) (v : ν) : GoMap κ ν := ⟨m.alist.insert k v⟩

/-- `delete(m, k)`. -/
def erase (m : GoMap κ ν) (k : κ) : GoMap κ ν := ⟨m.alist.erase k⟩

omit [DecidableEq κ] in
def keys (m : GoMap κ ν) : List κ := m.alist.keys

/-- Deletes every key that satisfies `p`. -/
def eraseWhere (m : GoMap κ ν) (p : κ → Bool) : GoMap κ ν :=
  (m.keys.filter p).foldl erase m

/-- The entries, in the order of the list. -/
def toList (m : GoMap κ ν) : List (κ × ν) := m.alist.entries.map fun e => (e.1, e.2)

/-! ## Lookups -/

@[simp] theorem lookup_empty (k : κ) : (empty : GoMap κ ν).lookup k = none := AList.lookup_empty k

@[grind =] theorem lookup_insert (m : GoMap κ ν) (k k' : κ) (v : ν) :
    (m.insert k v).lookup k' = if k' = k then some v else m.lookup k' := by
  split
  · next h => rw [h]; exact AList.lookup_insert m.alist
  · next h => exact AList.lookup_insert_ne h

@[simp] theorem lookup_insert_self (m : GoMap κ ν) (k : κ) (v : ν) :
    (m.insert k v).lookup k = some v := by
  rw [lookup_insert, if_pos rfl]

variable {k : κ}

theorem lookup_insert_of_ne {k' : κ} (h : k' ≠ k) (m : GoMap κ ν) (v : ν) :
    (m.insert k v).lookup k' = m.lookup k' := by
  rw [lookup_insert, if_neg h]

@[grind =] theorem lookup_erase (m : GoMap κ ν) (k k' : κ) :
    (m.erase k).lookup k' = if k' = k then none else m.lookup k' := by
  split
  · next h => rw [h]; exact AList.lookup_erase k m.alist
  · next h => exact AList.lookup_erase_ne h

theorem lookup_erase_of_ne {k' : κ} (h : k' ≠ k) (m : GoMap κ ν) :
    (m.erase k).lookup k' = m.lookup k' := by
  rw [lookup_erase, if_neg h]

variable {m : GoMap κ ν}

theorem mem_keys : k ∈ m.keys ↔ ∃ v, m.lookup k = some v := by
  rw [← Option.isSome_iff_exists]
  exact AList.lookup_isSome.symm

theorem lookup_foldl_erase (m : GoMap κ ν) (ks : List κ) (k : κ) :
    (ks.foldl erase m).lookup k = if k ∈ ks then none else m.lookup k := by
  induction ks generalizing m with
  | nil => simp
  | cons k' ks ih =>
    rw [List.foldl_cons, ih, lookup_erase]
    by_cases hk : k = k' <;> simp [hk]

@[grind =] theorem lookup_eraseWhere (m : GoMap κ ν) (p : κ → Bool) (k : κ) :
    (m.eraseWhere p).lookup k = if p k then none else m.lookup k := by
  rw [eraseWhere, lookup_foldl_erase]
  by_cases hp : p k
  · cases hk : m.lookup k <;> simp [hp, mem_keys, hk]
  · simp [hp]

section Fill

variable {α : Type} {f : α → κ} {g : α → ν} {l : List α}

/-- A map that was filled in a loop has the last value of each key. -/
theorem lookup_foldl_insert_eq (l : List α) : (l.foldl (fun m a => m.insert (f a) (g a)) m).lookup k =
    ((l.reverse.find? (f · = k)).map g).or (m.lookup k) := by
  induction l generalizing m with
  | nil => rfl
  | cons a l ih =>
    rw [List.foldl_cons, ih, lookup_insert, List.reverse_cons, List.find?_append]
    cases l.reverse.find? (f · = k) with
    | some b => rfl
    | none => by_cases ha : k = f a <;> simp [ha, Ne.symm]

theorem lookup_foldl_insert {v : ν} (h : (l.foldl (fun m a => m.insert (f a) (g a)) m).lookup k = some v) :
    m.lookup k = some v ∨ ∃ a ∈ l, f a = k ∧ g a = v := by
  rw [lookup_foldl_insert_eq] at h
  rcases Option.or_eq_some_iff.mp h with h | ⟨-, h⟩
  · obtain ⟨a, ha, hv⟩ := Option.map_eq_some_iff.mp h
    exact .inr ⟨a, by simpa using List.mem_of_find?_eq_some ha, by simpa using List.find?_some ha, hv⟩
  · exact .inl h

/-- A loop that fills a map leaves a value for every key it met. -/
theorem lookup_foldl_insert_isSome (h : ∃ a ∈ l, f a = k) :
    ∃ v, (l.foldl (fun m a => m.insert (f a) (g a)) m).lookup k = some v := by
  rw [lookup_foldl_insert_eq, ← Option.isSome_iff_exists]
  simpa using .inl h

/-- Under distinct keys such a loop leaves the value of each. -/
theorem lookup_foldl_insert_of_nodup {a : α} (hkeys : (l.map f).Nodup) (ha : a ∈ l) :
    (l.foldl (fun m a => m.insert (f a) (g a)) m).lookup (f a) = some (g a) := by
  obtain ⟨b, hb⟩ : ∃ b, l.reverse.find? (f · = f a) = some b :=
    Option.isSome_iff_exists.mp (by simpa using ⟨a, ha, rfl⟩)
  obtain rfl : b = a := List.inj_on_of_nodup_map hkeys (by simpa using List.mem_of_find?_eq_some hb) ha
    (by simpa using List.find?_some hb)
  rw [lookup_foldl_insert_eq, hb]
  rfl

end Fill

/-- The elements of a list under their keys; the last one of a key counts. -/
def index (f : ν → κ) (l : List ν) : GoMap κ ν := l.foldl (fun m a => m.insert (f a) a) empty

variable {f : ν → κ} {l : List ν} {v : ν}

theorem mem_of_lookup_index (h : (index f l).lookup k = some v) : v ∈ l ∧ f v = k := by
  rcases lookup_foldl_insert (g := id) h with hempty | ⟨_, hmem, hkey, rfl⟩
  · simp at hempty
  · exact ⟨hmem, hkey⟩

theorem lookup_index (hkeys : (l.map f).Nodup) (hv : v ∈ l) (hk : f v = k) : (index f l).lookup k = some v := by
  obtain ⟨v', hv'⟩ := lookup_foldl_insert_isSome (g := id) (m := empty) ⟨v, hv, hk⟩
  obtain ⟨hmem, hkey⟩ := mem_of_lookup_index hv'
  exact hv'.trans (congrArg some (List.inj_on_of_nodup_map hkeys hmem hv (hkey.trans hk.symm)))

/-- Keys are distinct and new exactly when each is new after those before it. -/
theorem fresh_cons {α : Type} {f : α → κ} {a : α} {l : List α} (v : ν) :
    ((∀ b ∈ a :: l, m.lookup (f b) = none) ∧ ((a :: l).map f).Nodup) ↔
      m.lookup (f a) = none ∧ (∀ b ∈ l, (m.insert (f a) v).lookup (f b) = none) ∧ (l.map f).Nodup := by
  have hlater : ∀ b, (m.insert (f a) v).lookup (f b) = none ↔ f b ≠ f a ∧ m.lookup (f b) = none := by
    intro b
    rw [lookup_insert]
    split
    · next heq => simp [heq]
    · next hne => simp [hne]
  simp only [hlater, List.forall_mem_cons, List.map_cons, List.nodup_cons, List.mem_map, not_exists, not_and,
    forall_and]
  tauto

theorem mem_toList {v : ν} : (k, v) ∈ m.toList ↔ m.lookup k = some v := by
  rw [← Option.mem_def, lookup, AList.mem_lookup_iff]
  simp only [toList, List.mem_map, Prod.mk.injEq]
  constructor
  · rintro ⟨⟨a, b⟩, hm, rfl, rfl⟩
    exact hm
  · intro h
    exact ⟨⟨k, v⟩, h, rfl, rfl⟩

omit [DecidableEq κ] in
theorem toList_keys_nodup (m : GoMap κ ν) : (m.toList.map (·.1)).Nodup := by
  have h : (m.alist.entries.map Sigma.fst).Nodup := m.alist.nodupKeys
  rwa [toList, List.map_map]

/-! ## Indexing with a default -/

theorem getD_of_lookup_some {v : ν} (h : m.lookup k = some v) (d : ν) : m.getD k d = v := by
  rw [getD, h, Option.getD_some]

theorem getD_of_not_mem_keys (h : k ∉ m.keys) (d : ν) : m.getD k d = d := by
  cases hk : m.lookup k with
  | none => rw [getD, hk, Option.getD_none]
  | some v => exact absurd (mem_keys.mpr ⟨v, hk⟩) h

@[simp] theorem getD_empty (k : κ) (d : ν) : (empty : GoMap κ ν).getD k d = d := by
  simp [getD]

@[grind =] theorem getD_insert (m : GoMap κ ν) (k k' : κ) (v d : ν) :
    (m.insert k v).getD k' d = if k' = k then v else m.getD k' d := by
  simp only [getD, lookup_insert]
  split <;> rfl

@[simp] theorem getD_insert_self (m : GoMap κ ν) (k : κ) (v d : ν) :
    (m.insert k v).getD k d = v := by
  simp [getD]

theorem getD_insert_of_ne {k' : κ} (h : k' ≠ k) (m : GoMap κ ν) (v d : ν) :
    (m.insert k v).getD k' d = m.getD k' d := by
  rw [getD, getD, lookup_insert_of_ne h]

end GoMap
