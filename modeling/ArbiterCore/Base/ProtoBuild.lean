-- SUMMARY: Typed protobuf messages built from their fields, and their getters.
import ArbiterCore.Base.GoSlice
import ArbiterCore.Base.ProtoMerge

/-!
# Building and reading messages

A message is built from pieces, one for each field that the code sets. As in
proto3 a zero value does not occur. A getter returns the zero value of a field
that does not occur, and nil for a list or bytes without elements. The pieces of
a builder are known without their values, so that whether a built message
conforms to its type is decided once for each builder.
-/

namespace Proto

open GoSlice (Slice)

variable {M : Type}

/-- A message of the type `ty`. -/
structure PB (ty : M) where
  occs : Msg
  deriving DecidableEq

/-- A message type whose fields all have zero values. -/
def PB.zero {ty : M} : PB ty := ⟨.nil⟩

/-! ## Numbers -/

def ofBool (b : Bool) : UInt64 := if b then 1 else 0

/-- An enum is sign-extended. -/
def ofEnum (e : Int32) : UInt64 := e.toInt64.toUInt64

def toEnum (n : UInt64) : Int32 := n.toUInt32.toInt32

@[simp] theorem ofBool_ne_zero (b : Bool) : (ofBool b != 0) = b := by
  cases b <;> rfl

@[simp] theorem toEnum_ofEnum (e : Int32) : toEnum (ofEnum e) = e := by
  apply Int32.toBitVec_inj.mp
  simp only [toEnum, ofEnum, UInt32.toBitVec_toInt32, UInt64.toBitVec_toUInt32, Int64.toBitVec_toUInt64,
    Int32.toBitVec_toInt64]
  ext i hi
  simp [BitVec.getLsbD_signExtend, hi]
  omega

/-! ## Pieces -/

/-- One field of a message that is being built. -/
inductive Piece (M : Type) where
  | text (name : String) (s : String)
  | bytes (name : String) (b : Slice UInt8)
  | uint64 (name : String) (n : UInt64)
  | optUint64 (name : String) (n : Option UInt64)
  | uints (name : String) (l : Slice UInt64)
  | texts (name : String) (l : Slice String)
  | msg {sub : M} (name : String) (m : PB sub)
  | optMsg {sub : M} (name : String) (m : Option (PB sub))
  | msgs {sub : M} (name : String) (l : Slice (PB sub))

namespace Piece

abbrev uint32 (name : String) (n : UInt32) : Piece M := .uint64 name n.toUInt64

abbrev bool (name : String) (b : Bool) : Piece M := .uint64 name (ofBool b)

abbrev enum (name : String) (e : Int32) : Piece M := .uint64 name (ofEnum e)

abbrev enums (name : String) (l : Slice Int32) : Piece M := .uints name (l.map (·.map ofEnum))

def name : Piece M → String
  | .text n _ | .bytes n _ | .uint64 n _ | .optUint64 n _ | .uints n _ | .texts n _ | .msg n _
  | .optMsg n _ | .msgs n _ => n

/-- The values of the occurrences that are no messages. -/
def values : Piece M → List Scalar
  | .text _ s => if s = "" then [] else [.text s]
  | .bytes _ b => if b.elems = [] then [] else [.bytes b.elems]
  | .uint64 _ n => if n = 0 then [] else [.num n]
  | .optUint64 _ n => n.toList.map .num
  | .uints _ l => if l.elems = [] then [] else [.nums l.elems]
  | .texts _ l => l.elems.map .text
  | .msg .. | .optMsg .. | .msgs .. => []

/-- The contents of the occurrences that are messages. -/
def contents : Piece M → List Msg
  | .msg _ m => [m.occs]
  | .optMsg _ m => m.toList.map (·.occs)
  | .msgs _ l => l.elems.map (·.occs)
  | _ => []

/-- The occurrences of a field, before those of the rest. -/
def occs (p : Piece M) (rest : Msg) : Msg :=
  p.values.foldr (.leaf p.name) (p.contents.foldr (.node p.name) rest)

end Piece

def occsOf : List (Piece M) → Msg
  | [] => .nil
  | p :: ps => p.occs (occsOf ps)

def build {ty : M} (ps : List (Piece M)) : PB ty := ⟨occsOf ps⟩

@[simp] theorem build_occs {ty : M} (ps : List (Piece M)) : (build ps : PB ty).occs = occsOf ps := rfl

/-! ## Getters -/

namespace Msg

/-- The values of a field. -/
def scalars (name : String) : Msg → List Scalar
  | .nil => []
  | .leaf n v rest => if n = name then v :: rest.scalars name else rest.scalars name
  | .node _ _ rest => rest.scalars name

/-- The messages of a field. -/
def nodes (name : String) : Msg → List Msg
  | .nil => []
  | .leaf _ _ rest => rest.nodes name
  | .node n c rest => if n = name then c :: rest.nodes name else rest.nodes name

/-- The first message with the name of its field. -/
def arm : Msg → Option (String × Msg)
  | .nil => none
  | .leaf _ _ rest => rest.arm
  | .node n c _ => some (n, c)

end Msg

def asText : List Scalar → String
  | .text s :: _ => s
  | _ => ""

def asUint64 : List Scalar → Option UInt64
  | .num n :: _ => some n
  | _ => none

def asBytes : List Scalar → Slice UInt8
  | .bytes b :: _ => .ofList b
  | _ => none

def asTexts : List Scalar → List String
  | [] => []
  | .text s :: l => s :: asTexts l
  | _ :: l => asTexts l

/-- A list of numbers, packed or not. -/
def asUints : List Scalar → List UInt64
  | [] => []
  | .num n :: l => n :: asUints l
  | .nums ns :: l => ns ++ asUints l
  | _ :: l => asUints l

def asMsgs {sub : M} (l : List Msg) : Slice (PB sub) := .ofList (l.map PB.mk)

def asMsg {sub : M} (l : List Msg) : Option (PB sub) := l.head?.map PB.mk

namespace PB

variable {ty : M} (m : PB ty) (name : String)

def text : String := asText (m.occs.scalars name)

def bytes : Slice UInt8 := asBytes (m.occs.scalars name)

def optUint64 : Option UInt64 := asUint64 (m.occs.scalars name)

def uint64 : UInt64 := (m.optUint64 name).getD 0

def uint32 : UInt32 := (m.uint64 name).toUInt32

def bool : Bool := m.uint64 name != 0

def enum : Int32 := toEnum (m.uint64 name)

def texts : Slice String := .ofList (asTexts (m.occs.scalars name))

def uints : Slice UInt64 := .ofList (asUints (m.occs.scalars name))

def enums : Slice Int32 := (m.uints name).map (·.map toEnum)

def msgs {sub : M} : Slice (PB sub) := asMsgs (m.occs.nodes name)

def optMsg {sub : M} : Option (PB sub) := asMsg (m.occs.nodes name)

/-- The member that is set, if all fields are members of one oneof. -/
def arm : Option (String × Msg) := m.occs.arm

/-- The message of a field; an absent one reads as the zero message. -/
def msg {sub : M} : PB sub := (m.optMsg name).getD zero

end PB

/-! ## Reading what was built -/

theorem scalars_foldr_leaf (n name : String) (vs : List Scalar) (rest : Msg) :
    (vs.foldr (Msg.leaf n) rest).scalars name =
      (if n = name then vs else []) ++ rest.scalars name := by
  induction vs with
  | nil => simp
  | cons v vs ih => by_cases h : n = name <;> simp_all [Msg.scalars]

theorem scalars_foldr_node (n name : String) (cs : List Msg) (rest : Msg) :
    (cs.foldr (Msg.node n) rest).scalars name = rest.scalars name := by
  induction cs with
  | nil => rfl
  | cons c cs ih => simpa [Msg.scalars] using ih

theorem nodes_foldr_leaf (n name : String) (vs : List Scalar) (rest : Msg) :
    (vs.foldr (Msg.leaf n) rest).nodes name = rest.nodes name := by
  induction vs with
  | nil => rfl
  | cons v vs ih => simpa [Msg.nodes] using ih

theorem nodes_foldr_node (n name : String) (cs : List Msg) (rest : Msg) :
    (cs.foldr (Msg.node n) rest).nodes name = (if n = name then cs else []) ++ rest.nodes name := by
  induction cs with
  | nil => simp
  | cons c cs ih => by_cases h : n = name <;> simp_all [Msg.nodes]

variable {ty : M} {ps : List (Piece M)}

@[simp] theorem scalars_nil (name : String) : (occsOf ([] : List (Piece M))).scalars name = [] := rfl

@[simp] theorem nodes_nil (name : String) : (occsOf ([] : List (Piece M))).nodes name = [] := rfl

@[simp] theorem scalars_cons (p : Piece M) (name : String) : (occsOf (p :: ps)).scalars name =
    (if p.name = name then p.values else []) ++ (occsOf ps).scalars name := by
  rw [occsOf, Piece.occs, scalars_foldr_leaf, scalars_foldr_node]

@[simp] theorem nodes_cons (p : Piece M) (name : String) : (occsOf (p :: ps)).nodes name =
    (if p.name = name then p.contents else []) ++ (occsOf ps).nodes name := by
  rw [occsOf, Piece.occs, nodes_foldr_leaf, nodes_foldr_node]

@[simp] theorem asText_values (s : String) : asText (if s = "" then [] else [.text s]) = s := by
  split
  · next h => simp [asText, h]
  · rfl

@[simp] theorem asUint64_values (n : UInt64) :
    (asUint64 (if n = 0 then [] else [.num n])).getD 0 = n := by
  split
  · next h => simp [asUint64, h]
  · rfl

@[simp] theorem asUint64_toList (n : Option UInt64) : asUint64 (n.toList.map .num) = n := by
  cases n <;> rfl

@[simp] theorem asBytes_values (b : Slice UInt8) :
    asBytes (if b.elems = [] then [] else [.bytes b.elems]) = b.nilIfEmpty := by
  split
  · next h => simp [asBytes, Slice.nilIfEmpty, h, Slice.ofList]
  · rfl

@[simp] theorem asTexts_values (l : List String) : asTexts (l.map .text) = l := by
  induction l with
  | nil => rfl
  | cons s l ih => simp [asTexts, ih]

@[simp] theorem asUints_values (l : List UInt64) : asUints (if l = [] then [] else [.nums l]) = l := by
  split
  · next h => simp [asUints, h]
  · simp [asUints]

@[simp] theorem enums_elems (l : Slice Int32) :
    Option.map (List.map toEnum) (Slice.nilIfEmpty (Option.map (List.map ofEnum) l)) =
      l.nilIfEmpty := by
  rcases l with _ | _ | ⟨e, l⟩ <;>
    simp [Slice.nilIfEmpty, Slice.elems, Slice.ofList, Function.comp_def]

@[simp] theorem asMsgs_contents {sub : M} (l : Slice (PB sub)) :
    asMsgs (l.elems.map PB.occs) = l.nilIfEmpty := by
  simp [asMsgs, Function.comp_def]

@[simp] theorem asMsg_singleton {sub : M} (m : PB sub) : asMsg [m.occs] = some m := rfl

@[simp] theorem asMsg_toList {sub : M} (m : Option (PB sub)) : asMsg (m.toList.map PB.occs) = m := by
  cases m <;> rfl

/-! ## Conforming builders -/

/-- The name, the kind and the cardinality of a field. -/
abbrev Spec (M : Type) := String × Kind M × Bool

/-- A message that is set conforms to its type. -/
def OptConforms (S : Schema M) {sub : M} (m : Option (PB sub)) : Prop := ∀ x ∈ m, Conforms S sub x.occs

def FieldDescriptor.spec (f : FieldDescriptor M) : Spec M := (f.name, f.kind, f.list)

variable {f : FieldDescriptor M}

namespace Piece

def spec : Piece M → Spec M
  | .text n _ => (n, .text, false)
  | .bytes n _ => (n, .bytes, false)
  | .uint64 n _ | .optUint64 n _ => (n, .num .varint, false)
  | .uints n _ => (n, .num .varint, true)
  | .texts n _ => (n, .text, true)
  | @msg _ sub n _ | @optMsg _ sub n _ => (n, .message sub, false)
  | @msgs _ sub n _ => (n, .message sub, true)

/-- The messages of the piece conform to their type. -/
@[simp] def Nested (S : Schema M) : Piece M → Prop
  | @msg _ sub _ m => Conforms S sub m.occs
  | .optMsg _ m => OptConforms S m
  | @msgs _ sub _ l => ∀ x ∈ l.elems, Conforms S sub x.occs
  | _ => True

@[simp] theorem spec_fst (p : Piece M) : p.spec.1 = p.name := by
  cases p <;> rfl

/-- A singular piece occurs at most once. -/
theorem length_occs {p : Piece M} (h : p.spec.2.2 = false) :
    p.values.length + p.contents.length ≤ 1 := by
  cases p with
  | text n s => simp only [values, contents]; split <;> simp
  | bytes n b => simp only [values, contents]; split <;> simp
  | uint64 n v => simp only [values, contents]; split <;> simp
  | optUint64 n v => cases v <;> simp [values, contents]
  | msg n m => simp [values, contents]
  | optMsg n m => cases m <;> simp [values, contents]
  | uints n l => cases h
  | texts n l => cases h
  | msgs n l => cases h

/-- The values are ones of the field. -/
theorem holds {p : Piece M} (h : f.spec = p.spec) : ∀ v ∈ p.values, f.Holds v := by
  intro v hv
  have hkind : f.kind = p.spec.2.1 := congrArg (·.2.1) h
  have hlist : f.list = p.spec.2.2 := congrArg (·.2.2) h
  cases p with
  | text n s =>
    simp only [values] at hv
    split at hv
    · cases hv
    · obtain rfl := List.mem_singleton.mp hv
      exact hkind
  | bytes n b =>
    simp only [values] at hv
    split at hv
    · cases hv
    · obtain rfl := List.mem_singleton.mp hv
      exact hkind
  | uint64 n x =>
    simp only [values] at hv
    split at hv
    · cases hv
    · obtain rfl := List.mem_singleton.mp hv
      exact ⟨.varint, hkind, trivial⟩
  | optUint64 n x =>
    obtain ⟨y, -, rfl⟩ := List.mem_map.mp hv
    exact ⟨.varint, hkind, trivial⟩
  | uints n l =>
    simp only [values] at hv
    split at hv
    · cases hv
    · obtain rfl := List.mem_singleton.mp hv
      exact ⟨.varint, hkind, hlist, fun _ _ => trivial⟩
  | texts n l =>
    obtain ⟨y, -, rfl⟩ := List.mem_map.mp hv
    exact hkind
  | msg n m => cases hv
  | optMsg n m => cases hv
  | msgs n l => cases hv

/-- The messages are ones of the field. -/
theorem conforms_contents {S : Schema M} {p : Piece M} (h : f.spec = p.spec) (hp : p.Nested S) :
    ∀ c ∈ p.contents, ∃ sub, f.kind = .message sub ∧ Conforms S sub c := by
  intro c hc
  have hkind : f.kind = p.spec.2.1 := congrArg (·.2.1) h
  cases p with
  | @msg sub n m =>
    obtain rfl := List.mem_singleton.mp hc
    exact ⟨sub, hkind, hp⟩
  | @optMsg sub n m =>
    obtain ⟨x, hx, rfl⟩ := List.mem_map.mp hc
    exact ⟨sub, hkind, hp x (by simpa using hx)⟩
  | @msgs sub n l =>
    obtain ⟨x, hx, rfl⟩ := List.mem_map.mp hc
    exact ⟨sub, hkind, hp x hx⟩
  | text n s | bytes n b | uint64 n x | optUint64 n x | uints n l | texts n l => cases hc

end Piece

theorem names_foldr_leaf (n : String) (vs : List Scalar) (rest : Msg) :
    (vs.foldr (Msg.leaf n) rest).names = List.replicate vs.length n ++ rest.names := by
  induction vs with
  | nil => rfl
  | cons v vs ih => simp [Msg.names, ih, List.replicate_succ]

theorem names_foldr_node (n : String) (cs : List Msg) (rest : Msg) :
    (cs.foldr (Msg.node n) rest).names = List.replicate cs.length n ++ rest.names := by
  induction cs with
  | nil => rfl
  | cons c cs ih => simp [Msg.names, ih, List.replicate_succ]

theorem names_occsOf {n : String} : ∀ {ps : List (Piece M)}, n ∈ (occsOf ps).names → n ∈ ps.map (·.name)
  | [], h => by cases h
  | p :: ps, h => by
    rw [occsOf, Piece.occs, names_foldr_leaf, names_foldr_node, List.mem_append, List.mem_append] at h
    rcases h with h | h | h
    · rw [List.eq_of_mem_replicate h]
      exact List.mem_cons_self
    · rw [List.eq_of_mem_replicate h]
      exact List.mem_cons_self
    · exact .tail _ (names_occsOf h)

variable {S : Schema M}

theorem conforms_foldr_node {n : String} (hfind : S.find ty n = some f) {rest : Msg}
    (hrest : Conforms S ty rest) : ∀ {cs : List Msg},
    (∀ c ∈ cs, ∃ sub, f.kind = .message sub ∧ Conforms S sub c) →
    (f.list = true ∨ cs.length ≤ 1 ∧ n ∉ rest.names) → Conforms S ty (cs.foldr (Msg.node n) rest)
  | [], _, _ => hrest
  | c :: cs, hcs, honce => by
    obtain ⟨sub, hsub, hc⟩ := hcs c List.mem_cons_self
    refine ⟨⟨f, sub, hfind, hsub, hc, ?_⟩, conforms_foldr_node hfind hrest
      (fun x hx => hcs x (.tail _ hx)) ?_⟩
    · rcases honce with h | ⟨hlen, hn⟩
      · exact .inl h
      · obtain rfl : cs = [] := by simpa using hlen
        exact .inr hn
    · exact honce.imp id fun h => ⟨by have := h.1; simp only [List.length_cons] at this; omega, h.2⟩

theorem conforms_foldr_leaf {n : String} (hfind : S.find ty n = some f) {rest : Msg}
    (hrest : Conforms S ty rest) : ∀ {vs : List Scalar}, (∀ v ∈ vs, f.Holds v) →
    (f.list = true ∨ vs.length ≤ 1 ∧ (vs = [] ∨ n ∉ rest.names)) →
    Conforms S ty (vs.foldr (Msg.leaf n) rest)
  | [], _, _ => hrest
  | v :: vs, hvs, honce => by
    refine ⟨⟨f, hfind, hvs v List.mem_cons_self, ?_⟩, conforms_foldr_leaf hfind hrest
      (fun x hx => hvs x (.tail _ hx)) ?_⟩
    · rcases honce with h | ⟨hlen, hn⟩
      · exact .inl h
      · obtain rfl : vs = [] := by simpa using hlen
        exact .inr (hn.resolve_left (by simp))
    · rcases honce with h | ⟨hlen, -⟩
      · exact .inl h
      · obtain rfl : vs = [] := by simpa using hlen
        exact .inr ⟨by simp, .inl rfl⟩

/-- A message built from fields of its type, in their order, conforms to the type. -/
theorem build_conforms [DecidableEq M] (hS : S.Valid)
    (hspec : (ps.map Piece.spec).isSublist ((S.fields ty).map (·.spec)) = true)
    (hnested : ∀ p ∈ ps, p.Nested S) : Conforms S ty (occsOf ps) := by
  have hsub := List.isSublist_iff_sublist.mp hspec
  have hnodup : (ps.map (·.name)).Nodup := by
    have h := hsub.map Prod.fst
    simp only [List.map_map] at h
    have hnames : ((S.fields ty).map (Prod.fst ∘ FieldDescriptor.spec)).Nodup := hS.names ty
    simpa [Function.comp_def] using h.nodup hnames
  have hfield : ∀ p ∈ ps, ∃ f ∈ S.fields ty, f.spec = p.spec := by
    intro p hp
    exact List.mem_map.mp (hsub.subset (List.mem_map_of_mem hp))
  clear hsub hspec
  induction ps with
  | nil => trivial
  | cons p ps ih =>
    obtain ⟨f, hf, hspec⟩ := hfield p List.mem_cons_self
    obtain ⟨hnotin, hnodup⟩ := List.nodup_cons.mp hnodup
    have hrest := ih (fun q hq => hnested q (.tail _ hq)) hnodup fun q hq => hfield q (.tail _ hq)
    have hname : f.name = p.name := by
      rw [← p.spec_fst, ← hspec]
      rfl
    have hfind : S.find ty p.name = some f := hname ▸ hS.find_of_mem hf
    have hfresh : p.name ∉ (occsOf ps).names := fun h => hnotin (names_occsOf h)
    have hlist : f.list = p.spec.2.2 := congrArg (·.2.2) hspec
    -- a singular piece has one value or one message, and its name does not occur in the rest
    have honce : f.list = true ∨ p.values.length + p.contents.length ≤ 1 := by
      cases h : p.spec.2.2 with
      | false => exact .inr (p.length_occs h)
      | true => exact .inl (hlist.trans h)
    refine conforms_foldr_leaf hfind (conforms_foldr_node hfind hrest
      (p.conforms_contents hspec (hnested p List.mem_cons_self)) ?_) (p.holds hspec) ?_
    · exact honce.imp id fun h => ⟨by omega, hfresh⟩
    refine honce.imp id fun h => ⟨by omega, ?_⟩
    by_cases hv : p.values = []
    · exact .inl hv
    · have hpos := List.length_pos_iff.mpr hv
      have hc : p.contents = [] := List.length_eq_zero_iff.mp (by omega)
      exact .inr (by simpa [hc] using hfresh)

-- reading a built message back is evaluation
attribute [simp] Piece.name Piece.values Piece.contents PB.text PB.bytes PB.optUint64 PB.uint64 PB.uint32
  PB.bool PB.enum PB.texts PB.uints PB.enums PB.msgs PB.optMsg PB.msg

end Proto
