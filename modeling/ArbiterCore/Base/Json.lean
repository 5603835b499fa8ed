-- SUMMARY: JSON values as encoding/json builds them from Go structs, and what such a value determines.
import ArbiterCore.Base.GoSlice
import ArbiterCore.Base.Text
import Mathlib.Logic.Encodable.Basic
import Mathlib.Logic.Equiv.List
import Mathlib.Data.Int.Order.Basic

/-!
# JSON values

A struct becomes an object whose fields come in the order of their declaration.
A field with `omitempty` is left out when it is empty. Two structs of one type
with the same object have the same fields, up to nil and empty in the lists that
are left out.
-/

inductive Json where
  | null
  | bool (b : Bool)
  | num (n : Int)
  | str (s : String)
  | arr (xs : List Json)
  | obj (fields : List (String × Json))

namespace Json

open GoSlice (Slice)

/-! ## Values as lists of numbers -/

/-- A text as a number. -/
def code (s : String) : Nat := Encodable.encode (s.toList.map Char.toNat)

theorem code_inj {s t : String} (h : code s = code t) : s = t := by
  have hchars := List.map_injective_iff.mpr (fun _ _ => Char.toNat_inj.mp) (Encodable.encode_injective h)
  exact String.toList_inj.mp hchars

mutual

/-- A value as a list of numbers that shows where it ends. -/
def tokens : Json → List Nat
  | .null => [0]
  | .bool b => [1, if b then 1 else 0]
  | .num n => [2, Encodable.encode n]
  | .str s => [3, code s]
  | .arr xs => 4 :: tokensAll xs
  | .obj fields => 5 :: tokensFields fields

def tokensAll : List Json → List Nat
  | [] => [0]
  | x :: xs => 1 :: (tokens x ++ tokensAll xs)

def tokensFields : List (String × Json) → List Nat
  | [] => [0]
  | (name, x) :: fields => 1 :: code name :: (tokens x ++ tokensFields fields)

end

mutual

theorem tokens_append_inj : ∀ {x y : Json} {r r' : List Nat},
    tokens x ++ r = tokens y ++ r' → x = y ∧ r = r'
  | .null, y, _, _, h => by cases y <;> simp_all [tokens]
  | .bool b, y, _, _, h => by
    cases y with
    | bool b' => cases b <;> cases b' <;> simp_all [tokens]
    | _ => simp [tokens] at h
  | .num n, y, _, _, h => by
    cases y with
    | num n' => simpa [tokens] using h
    | _ => simp [tokens] at h
  | .str s, y, _, _, h => by
    cases y with
    | str s' =>
      simp only [tokens, List.cons_append, List.nil_append, List.cons.injEq, true_and] at h
      exact ⟨congrArg str (code_inj h.1), h.2⟩
    | _ => simp [tokens] at h
  | .arr xs, y, _, _, h => by
    cases y with
    | arr ys =>
      simp only [tokens, List.cons_append, List.cons.injEq, true_and] at h
      obtain ⟨rfl, hr⟩ := tokensAll_append_inj h
      exact ⟨rfl, hr⟩
    | _ => simp [tokens] at h
  | .obj fields, y, _, _, h => by
    cases y with
    | obj fields' =>
      simp only [tokens, List.cons_append, List.cons.injEq, true_and] at h
      obtain ⟨rfl, hr⟩ := tokensFields_append_inj h
      exact ⟨rfl, hr⟩
    | _ => simp [tokens] at h

theorem tokensAll_append_inj : ∀ {xs ys : List Json} {r r' : List Nat},
    tokensAll xs ++ r = tokensAll ys ++ r' → xs = ys ∧ r = r'
  | [], [], _, _, h => by simpa [tokensAll] using h
  | [], _ :: _, _, _, h => by simp [tokensAll] at h
  | _ :: _, [], _, _, h => by simp [tokensAll] at h
  | x :: xs, y :: ys, _, _, h => by
    simp only [tokensAll, List.cons_append, List.append_assoc, List.cons.injEq, true_and] at h
    obtain ⟨rfl, hrest⟩ := tokens_append_inj h
    obtain ⟨rfl, hr⟩ := tokensAll_append_inj hrest
    exact ⟨rfl, hr⟩

theorem tokensFields_append_inj : ∀ {xs ys : List (String × Json)} {r r' : List Nat},
    tokensFields xs ++ r = tokensFields ys ++ r' → xs = ys ∧ r = r'
  | [], [], _, _, h => by simpa [tokensFields] using h
  | [], (_, _) :: _, _, _, h => by simp [tokensFields] at h
  | (_, _) :: _, [], _, _, h => by simp [tokensFields] at h
  | (name, x) :: xs, (name', y) :: ys, _, _, h => by
    simp only [tokensFields, List.cons_append, List.append_assoc, List.cons.injEq, true_and] at h
    obtain ⟨rfl, hrest⟩ := tokens_append_inj h.2
    obtain ⟨rfl, hr⟩ := tokensFields_append_inj hrest
    rw [code_inj h.1]
    exact ⟨rfl, hr⟩

end

theorem tokens_inj {x y : Json} (h : tokens x = tokens y) : x = y := by
  have happend : tokens x ++ [] = tokens y ++ [] := by rw [h]
  exact (tokens_append_inj happend).1

instance : DecidableEq Json := fun x y => decidable_of_iff (tokens x = tokens y) ⟨tokens_inj, congrArg tokens⟩

theorem str_inj : Function.Injective str := fun _ _ => str.inj

/-- An unsigned number. -/
def number (n : UInt64) : Json := .num n.toNat

theorem number_inj : Function.Injective number := by
  intro m n h
  exact UInt64.toNat_inj.mp (Int.ofNat.inj (num.inj h))

/-! ## Fields of structs -/

/-- A field of a struct; without a value it is left out. -/
structure Field where
  name : String
  value : Option Json

namespace Field

variable {α : Type} (name : String)

def text (s : String) : Field := ⟨name, some (.str s)⟩

def omitText (s : String) : Field := ⟨name, if s = "" then none else some (.str s)⟩

def uint64 (n : UInt64) : Field := ⟨name, some (number n)⟩

def omitUint64 (n : UInt64) : Field := ⟨name, if n = 0 then none else some (number n)⟩

def uint32 (n : UInt32) : Field := ⟨name, some (.num n.toNat)⟩

def omitUint32 (n : UInt32) : Field := ⟨name, if n = 0 then none else some (.num n.toNat)⟩

def int64 (n : Int64) : Field := ⟨name, some (.num n.toInt)⟩

def flag (b : Bool) : Field := ⟨name, some (.bool b)⟩

def omitFlag (b : Bool) : Field := ⟨name, if b then some (.bool b) else none⟩

/-- A nested struct. -/
def nested (j : Json) : Field := ⟨name, some j⟩

/-- A pointer with `omitempty`. -/
def omitPtr (enc : α → Json) (p : Option α) : Field := ⟨name, p.map enc⟩

/-- Nil is null. -/
def list (enc : α → Json) (s : Slice α) : Field :=
  ⟨name, some (s.elim .null fun l => .arr (l.map enc))⟩

def omitList (enc : α → Json) (s : Slice α) : Field :=
  ⟨name, if s.elems = [] then none else some (.arr (s.elems.map enc))⟩

/-- Bytes are a base64 text; nil is null. -/
def bytes (b : Slice UInt8) : Field :=
  ⟨name, some (b.elim .null fun l => .str (.ofList (Text.base64 l)))⟩

variable {name}

@[simp] theorem text_inj {s t : String} : text name s = text name t ↔ s = t := by
  simp [text]

@[simp] theorem omitText_inj {s t : String} : omitText name s = omitText name t ↔ s = t := by
  unfold omitText
  split <;> split <;> simp_all [eq_comm]

@[simp] theorem uint64_inj {m n : UInt64} : uint64 name m = uint64 name n ↔ m = n := by
  simp [uint64, number_inj.eq_iff]

@[simp] theorem omitUint64_inj {m n : UInt64} : omitUint64 name m = omitUint64 name n ↔ m = n := by
  unfold omitUint64
  split <;> split <;> simp_all [eq_comm, number_inj.eq_iff]

@[simp] theorem uint32_inj {m n : UInt32} : uint32 name m = uint32 name n ↔ m = n := by
  simp [uint32, UInt32.toNat_inj]

@[simp] theorem omitUint32_inj {m n : UInt32} : omitUint32 name m = omitUint32 name n ↔ m = n := by
  unfold omitUint32
  split <;> split <;> simp_all [eq_comm, UInt32.toNat_inj]

@[simp] theorem flag_inj {a b : Bool} : flag name a = flag name b ↔ a = b := by
  simp [flag]

@[simp] theorem omitFlag_inj {a b : Bool} : omitFlag name a = omitFlag name b ↔ a = b := by
  cases a <;> cases b <;> simp [omitFlag]

@[simp] theorem nested_inj {j j' : Json} : nested name j = nested name j' ↔ j = j' := by
  simp [nested]

@[simp] theorem bytes_inj {b b' : Slice UInt8} : bytes name b = bytes name b' ↔ b = b' := by
  refine ⟨fun h => ?_, congrArg _⟩
  rcases b with _ | b <;> rcases b' with _ | b' <;> simp [bytes] at h
  · rfl
  · have hchars : Text.base64 b = Text.base64 b' := by simpa using congrArg String.toList h
    rw [Text.base64_inj hchars]

/-- Lists with the same value have the same elements, as far as the values of
    these determine them. -/
theorem list_determines {β : Type} {enc : α → Json} {f : α → β} (henc : ∀ a b, enc a = enc b → f a = f b)
    {s t : Slice α} (h : list name enc s = list name enc t) : s.map (List.map f) = t.map (List.map f) := by
  have hmap : ∀ {l l' : List α}, l.map enc = l'.map enc → l.map f = l'.map f := by
    intro l l' h
    induction l generalizing l' with
    | nil => simp_all
    | cons a l ih =>
      obtain ⟨a', l', rfl, ha, hl⟩ := List.map_eq_cons_iff.mp h.symm
      rw [List.map_cons, List.map_cons, henc a a' ha.symm, ih hl.symm]
  rcases s with _ | l <;> rcases t with _ | l' <;> simp [list] at h ⊢
  exact hmap h

variable {enc : α → Json} (henc : Function.Injective enc)

include henc

theorem omitPtr_inj {p q : Option α} : omitPtr name enc p = omitPtr name enc q ↔ p = q := by
  simp [omitPtr, (Option.map_injective henc).eq_iff]

theorem list_inj {s t : Slice α} : list name enc s = list name enc t ↔ s = t := by
  refine ⟨fun h => ?_, congrArg _⟩
  rcases s with _ | l <;> rcases t with _ | l' <;>
    simp [list, (List.map_injective_iff.mpr henc).eq_iff] at h ⊢
  exact h

/-- Nil and empty are left out alike. -/
theorem omitList_inj {s t : Slice α} :
    omitList name enc s = omitList name enc t ↔ s.nilIfEmpty = t.nilIfEmpty := by
  have helems : s.nilIfEmpty = t.nilIfEmpty ↔ s.elems = t.elems :=
    ⟨fun h => by simpa using congrArg Slice.elems h, congrArg Slice.ofList⟩
  rw [helems]
  by_cases hs : s.elems = [] <;> by_cases ht : t.elems = []
  · simp [omitList, hs, ht]
  · simp [omitList, hs, ht, Ne.symm ht]
  · simp [omitList, hs, ht]
  · simp [omitList, hs, ht, (List.map_injective_iff.mpr henc).eq_iff]

end Field

/-! ## Structs -/

/-- The object of a struct with these fields. -/
def object (fields : List Field) : Json := .obj (fields.filterMap fun f => f.value.map (f.name, ·))

/-- A name that no field has is not in the object. -/
theorem notMem_fields {name : String} {j : Json} {rest : List Field} (h : name ∉ rest.map Field.name) :
    (name, j) ∉ rest.filterMap fun f => f.value.map (f.name, ·) := by
  simp only [List.mem_filterMap, Option.map_eq_some_iff, Prod.mk.injEq, not_exists, not_and]
  rintro f hf v - rfl
  exact absurd (List.mem_map_of_mem hf) h

theorem fields_inj : ∀ {fs gs : List Field}, object fs = object gs →
    fs.map Field.name = gs.map Field.name → (fs.map Field.name).Nodup → fs = gs
  | [], [], _, _, _ => rfl
  | ⟨name, v⟩ :: fs, ⟨name', w⟩ :: gs, h, hnames, hnodup => by
    simp only [List.map_cons, List.cons.injEq] at hnames
    obtain ⟨rfl, hnames⟩ := hnames
    obtain ⟨hfresh, hrest⟩ := List.nodup_cons.mp hnodup
    have hfresh' : name ∉ gs.map Field.name := hnames ▸ hfresh
    simp only [object, obj.injEq, List.filterMap_cons] at h
    -- a field left out on one side only would have to come later on the other
    rcases v with _ | j <;> rcases w with _ | j' <;>
      simp only [Option.map_none, Option.map_some] at h
    · rw [fields_inj (congrArg obj h) hnames hrest]
    · exact absurd (h ▸ List.mem_cons_self) (notMem_fields hfresh)
    · exact absurd (h ▸ List.mem_cons_self) (notMem_fields hfresh')
    · obtain ⟨hj, htail⟩ := List.cons.inj h
      obtain ⟨-, rfl⟩ := Prod.mk.inj hj
      rw [fields_inj (congrArg obj htail) hnames hrest]

/-- Two structs of one type with the same object have the same fields. The names
    of the fields are distinct, which is a matter of computation. -/
theorem object_inj {fs gs : List Field} (h : object fs = object gs)
    (hnames : fs.map Field.name = gs.map Field.name) (hnodup : decide (fs.map Field.name).Nodup = true) :
    fs = gs :=
  fields_inj h hnames (of_decide_eq_true hnodup)

end Json
