-- SUMMARY: Protobuf messages as sequences of field occurrences: schemas, encoding and parsing.
import Mathlib.Data.List.Nodup
import ArbiterCore.Base.ProtoWire

/-!
# Protobuf messages

A message is the sequence of its field occurrences. `marshal` writes the
occurrences in order, and `parse` gives every occurrence that the bytes spell,
unknown fields included. `merge` is what decoding makes of them: a later
occurrence of a singular field replaces the earlier one, messages are merged,
and a member of a oneof displaces the others. A message is `Strict` if merging
leaves it as it is. Of google.golang.org/protobuf this is the documented rule of
parsing, which also accepts fields in any order and keeps those it does not know. The
order in which it writes fields is not documented; here it is that of the sequence,
which the builders give as the fields are declared.
-/

namespace Proto

/-! ## Schemas -/

/-- The encodings of numbers. -/
inductive NumKind where
  | varint
  | fixed32
  | fixed64
  deriving DecidableEq

inductive Kind (M : Type) where
  | num (k : NumKind)
  | text
  | bytes
  | message (sub : M)
  deriving DecidableEq

structure FieldDescriptor (M : Type) where
  name : String
  kind : Kind M
  list : Bool
  /-- The oneof that the field is a member of. -/
  oneof : Option String
  deriving DecidableEq

/-- The fields of every message type. -/
structure Schema (M : Type) where
  fields : M → List (FieldDescriptor M)
  number : M → String → Nat
  fullName : M → String

namespace Schema

variable {M : Type} (S : Schema M)

def find (ty : M) (name : String) : Option (FieldDescriptor M) := (S.fields ty).find? (·.name = name)

def findNumber (ty : M) (number : Nat) : Option (FieldDescriptor M) :=
  (S.fields ty).find? (S.number ty ·.name = number)

/-- Field names and numbers determine the field, the numbers are in range, and no list is
    the member of a oneof. -/
structure Valid : Prop where
  names : ∀ ty, ((S.fields ty).map (·.name)).Nodup
  numbers : ∀ ty, ∀ f ∈ S.fields ty, ∀ g ∈ S.fields ty,
    S.number ty f.name = S.number ty g.name → f.name = g.name
  range : ∀ ty, ∀ f ∈ S.fields ty, 1 ≤ S.number ty f.name ∧ S.number ty f.name < 2 ^ 29
  oneofs : ∀ ty, ∀ f ∈ S.fields ty, f.oneof.isSome = true → f.list = false

variable {S} {ty : M} {f : FieldDescriptor M} {name : String} {number : Nat}

theorem mem_of_find (h : S.find ty name = some f) : f ∈ S.fields ty ∧ f.name = name := by
  refine ⟨List.mem_of_find?_eq_some h, ?_⟩
  simpa using List.find?_some h

theorem mem_of_findNumber (h : S.findNumber ty number = some f) :
    f ∈ S.fields ty ∧ S.number ty f.name = number := by
  refine ⟨List.mem_of_find?_eq_some h, ?_⟩
  simpa using List.find?_some h

theorem Valid.eq_of_name (hS : S.Valid) {g : FieldDescriptor M} (hf : f ∈ S.fields ty) (hg : g ∈ S.fields ty)
    (h : f.name = g.name) : f = g :=
  List.inj_on_of_nodup_map (hS.names ty) hf hg h

theorem Valid.find_of_mem (hS : S.Valid) (hf : f ∈ S.fields ty) : S.find ty f.name = some f := by
  obtain ⟨g, hg⟩ : ∃ g, S.find ty f.name = some g := by
    rw [← Option.isSome_iff_exists]
    simpa [find] using ⟨f, hf, rfl⟩
  obtain ⟨hmem, hname⟩ := mem_of_find hg
  rw [hg, hS.eq_of_name hmem hf hname]

theorem Valid.findNumber_of_mem (hS : S.Valid) (hf : f ∈ S.fields ty) :
    S.findNumber ty (S.number ty f.name) = some f := by
  obtain ⟨g, hg⟩ : ∃ g, S.findNumber ty (S.number ty f.name) = some g := by
    rw [← Option.isSome_iff_exists]
    simpa [findNumber] using ⟨f, hf, rfl⟩
  obtain ⟨hmem, hnumber⟩ := mem_of_findNumber hg
  rw [hg, hS.eq_of_name hmem hf (hS.numbers ty g hmem f hf hnumber)]

end Schema

/-! ## Numbers -/

namespace NumKind

def wireType : NumKind → WireType
  | .varint => .varint
  | .fixed32 => .fixed32
  | .fixed64 => .fixed64

def payload : NumKind → UInt64 → Payload
  | .varint, n => .varint n
  | .fixed32, n => .fixed32 n.toUInt32
  | .fixed64, n => .fixed64 n

/-- The number of a payload of the kind's own wire type. -/
def value : NumKind → Payload → Option UInt64
  | .varint, .varint n => some n
  | .fixed32, .fixed32 n => some n.toUInt64
  | .fixed64, .fixed64 n => some n
  | _, _ => none

def Fits : NumKind → UInt64 → Prop
  | .fixed32, n => n.toNat < 2 ^ 32
  | _, _ => True

def pack (k : NumKind) (l : List UInt64) : Bytes := l.flatMap fun n => (k.payload n).encode

/-- The numbers of a packed list; `fuel` is the number of bytes. -/
def unpack (k : NumKind) : Nat → Bytes → Option (List UInt64)
  | _, [] => some []
  | 0, _ :: _ => none
  | fuel + 1, b :: bs =>
    match consumeFieldValue k.wireType (b :: bs) with
    | none => none
    | some (p, rest) =>
      match k.value p, unpack k fuel rest with
      | some n, some l => some (n :: l)
      | _, _ => none

@[simp] theorem wireType_payload (k : NumKind) (n : UInt64) : (k.payload n).wireType = k.wireType := by
  cases k <;> rfl

theorem value_payload {k : NumKind} {n : UInt64} (h : k.Fits n) : k.value (k.payload n) = some n := by
  cases k with
  | varint | fixed64 => rfl
  | fixed32 =>
    have hn : n.toNat < 2 ^ 32 := h
    simp only [payload, value, Option.some.injEq]
    apply UInt64.toNat_inj.mp
    simp only [UInt32.toNat_toUInt64, UInt64.toNat_toUInt32]
    omega

theorem encode_payload_length (k : NumKind) (n : UInt64) : 0 < (k.payload n).encode.length := by
  cases k with
  | varint => exact encodeVarint_length_pos _
  | fixed32 | fixed64 => simp [payload, Payload.encode]

theorem unpack_pack {k : NumKind} : ∀ {l : List UInt64} {fuel : Nat}, (∀ n ∈ l, k.Fits n) →
    (k.pack l).length ≤ fuel → (k.pack l).length < 2 ^ 64 → k.unpack fuel (k.pack l) = some l
  | [], fuel, _, _, _ => by
    cases fuel <;> rfl
  | n :: l, fuel, hfits, hfuel, hlen => by
    have hpack : k.pack (n :: l) = (k.payload n).encode ++ k.pack l := rfl
    have hpos := k.encode_payload_length n
    rw [hpack, List.length_append] at hfuel hlen
    obtain ⟨fuel, rfl⟩ : ∃ fuel', fuel = fuel' + 1 := ⟨fuel - 1, by omega⟩
    have hread := consumeFieldValue_encode (k.payload n) (k.pack l) (by omega)
    rw [wireType_payload, ← hpack] at hread
    have ih : k.unpack fuel (k.pack l) = some l :=
      unpack_pack (fun x hx => hfits x (.tail _ hx)) (by omega) (by omega)
    obtain ⟨b, bs, hb⟩ : ∃ b bs, k.pack (n :: l) = b :: bs := by
      apply List.exists_cons_of_ne_nil
      rw [hpack]
      exact List.append_ne_nil_of_left_ne_nil (List.length_pos_iff.mp hpos) _
    rw [hb] at hread ⊢
    simp [unpack, hread, value_payload (hfits n List.mem_cons_self), ih]

end NumKind

/-! ## Messages -/

/-- The value of an occurrence that is no message. -/
inductive Scalar where
  | num (n : UInt64)
  /-- A packed list. -/
  | nums (l : List UInt64)
  | text (s : String)
  | bytes (b : Bytes)
  /-- A field that the message type does not have, or not with this wire type. -/
  | unknown (number : Nat) (p : Payload)
  deriving DecidableEq

/-- The occurrences of a message, in order. -/
inductive Msg where
  | nil
  | leaf (name : String) (v : Scalar) (rest : Msg)
  | node (name : String) (content rest : Msg)
  deriving DecidableEq

namespace Msg

def append : Msg → Msg → Msg
  | .nil, m => m
  | .leaf n v rest, m => .leaf n v (rest.append m)
  | .node n c rest, m => .node n c (rest.append m)

instance : Append Msg := ⟨append⟩

@[simp] theorem nil_append (m : Msg) : Msg.nil ++ m = m := rfl

@[simp] theorem leaf_append (n : String) (v : Scalar) (rest m : Msg) :
    Msg.leaf n v rest ++ m = .leaf n v (rest ++ m) := rfl

@[simp] theorem node_append (n : String) (c rest m : Msg) :
    Msg.node n c rest ++ m = .node n c (rest ++ m) := rfl

@[simp] theorem append_nil : ∀ m : Msg, m ++ Msg.nil = m
  | .nil => rfl
  | .leaf n v rest => by rw [leaf_append, append_nil rest]
  | .node n c rest => by rw [node_append, append_nil rest]

theorem append_assoc : ∀ a b c : Msg, a ++ b ++ c = a ++ (b ++ c)
  | .nil, b, c => rfl
  | .leaf n v rest, b, c => by simp [append_assoc rest b c]
  | .node n m rest, b, c => by simp [append_assoc rest b c]

/-- The names of the occurrences, in order. -/
def names : Msg → List String
  | .nil => []
  | .leaf n _ rest => n :: rest.names
  | .node n _ rest => n :: rest.names

@[simp] theorem names_append : ∀ a b : Msg, (a ++ b).names = a.names ++ b.names
  | .nil, b => rfl
  | .leaf n v rest, b => by simp [names, names_append rest b]
  | .node n c rest, b => by simp [names, names_append rest b]

end Msg

variable {M : Type}

/-! ## Encoding -/

/-- The payload of a value in a field of the kind. -/
def Scalar.payload (kind : Kind M) : Scalar → Payload
  | .num n =>
    match kind with
    | .num k => k.payload n
    | _ => .varint n
  | .nums l =>
    match kind with
    | .num k => .bytes (k.pack l)
    | _ => .bytes []
  | .text s => .bytes (utf8 s)
  | .bytes b => .bytes b
  | .unknown _ p => p

/-- The kind of a field. -/
def Schema.kind (S : Schema M) (ty : M) (name : String) : Kind M :=
  match S.find ty name with
  | some f => f.kind
  | none => .bytes

def encodeField (number : Nat) (p : Payload) : Bytes := encodeTag number p.wireType ++ p.encode

def marshal (S : Schema M) : M → Msg → Bytes
  | _, .nil => []
  | ty, .leaf n v rest => encodeField (S.number ty n) (v.payload (S.kind ty n)) ++ marshal S ty rest
  | ty, .node n c rest =>
    let content :=
      match S.kind ty n with
      | .message sub => marshal S sub c
      | _ => []
    encodeField (S.number ty n) (.bytes content) ++ marshal S ty rest

/-! ## Parsing -/

/-- The value that a payload is in a field, `none` if it is malformed. -/
def FieldDescriptor.read (f : FieldDescriptor M) (number : Nat) (p : Payload) : Option Scalar :=
  match f.kind, p with
  | .text, .bytes b => (textOf b).map .text
  | .bytes, .bytes b => some (.bytes b)
  | .num k, p =>
    match k.value p, p with
    | some n, _ => some (.num n)
    | none, .bytes b => if f.list then (k.unpack b.length b).map .nums else some (.unknown number p)
    | none, p => some (.unknown number p)
  | _, p => some (.unknown number p)

/-- All occurrences that the bytes spell; `fuel` is the number of bytes. -/
def parse (S : Schema M) : Nat → M → Bytes → Option Msg
  | _, _, [] => some .nil
  | 0, _, _ :: _ => none
  | fuel + 1, ty, b :: bs =>
    match consumeTag (b :: bs) with
    | none => none
    | some (number, t, rest) =>
      match consumeFieldValue t rest with
      | none => none
      | some (p, rest) =>
        match S.findNumber ty number with
        | none => (parse S fuel ty rest).map (.leaf "" (.unknown number p))
        | some f =>
          match f.kind, p with
          | .message sub, .bytes c =>
            match parse S fuel sub c, parse S fuel ty rest with
            | some content, some tail => some (.node f.name content tail)
            | _, _ => none
          | _, p =>
            match f.read number p, parse S fuel ty rest with
            | some v, some tail => some (.leaf f.name v tail)
            | _, _ => none

/-! ## Conforming messages -/

/-- The value is one of the field. -/
def FieldDescriptor.Holds (f : FieldDescriptor M) : Scalar → Prop
  | .num n => ∃ k, f.kind = .num k ∧ k.Fits n
  | .nums l => ∃ k, f.kind = .num k ∧ f.list = true ∧ ∀ n ∈ l, k.Fits n
  | .text _ => f.kind = .text
  | .bytes _ => f.kind = .bytes
  | .unknown _ _ => False

/-- Every occurrence is one of the message type, at every depth, and only lists
    have several. -/
def Conforms (S : Schema M) : M → Msg → Prop
  | _, .nil => True
  | ty, .leaf n v rest =>
    (∃ f, S.find ty n = some f ∧ f.Holds v ∧ (f.list = true ∨ n ∉ rest.names)) ∧ Conforms S ty rest
  | ty, .node n c rest =>
    (∃ f sub, S.find ty n = some f ∧ f.kind = .message sub ∧ Conforms S sub c ∧
      (f.list = true ∨ n ∉ rest.names)) ∧ Conforms S ty rest

/-- The occurrences of a conforming message are those of fields. -/
theorem Conforms.field {S : Schema M} {ty : M} : ∀ {m : Msg}, Conforms S ty m → ∀ name ∈ m.names,
    ∃ f ∈ S.fields ty, f.name = name
  | .leaf n v rest, h, name, hname => by
    obtain ⟨⟨f, hfind, -, -⟩, hrest⟩ := h
    rcases List.mem_cons.mp hname with rfl | hname
    · exact ⟨f, Schema.mem_of_find hfind⟩
    · exact Conforms.field hrest name hname
  | .node n c rest, h, name, hname => by
    obtain ⟨⟨f, sub, hfind, -, -, -⟩, hrest⟩ := h
    rcases List.mem_cons.mp hname with rfl | hname
    · exact ⟨f, Schema.mem_of_find hfind⟩
    · exact Conforms.field hrest name hname

section RoundTrip

variable {S : Schema M}

theorem encodeField_length (number : Nat) (p : Payload) : 0 < (encodeField number p).length := by
  have := encodeVarint_length_pos (number * 8 + p.wireType.bits)
  simp only [encodeField, encodeTag, List.length_append]
  omega

theorem length_lt_encodeField (number : Nat) (b : Bytes) :
    b.length < (encodeField number (.bytes b)).length := by
  have := encodeVarint_length_pos b.length
  simp only [encodeField, Payload.encode, List.length_append]
  omega

theorem encodeField_ne_nil (number : Nat) (p : Payload) (rest : Bytes) :
    ∃ b bs, encodeField number p ++ rest = b :: bs := by
  apply List.exists_cons_of_ne_nil
  intro h
  have hlen := encodeField_length number p
  have := congrArg List.length h
  simp only [List.length_append, List.length_nil] at this
  omega

/-- Reading a field back. -/
theorem consume_encodeField {number : Nat} {p : Payload} {l : Bytes} (h1 : 1 ≤ number)
    (h2 : number < 2 ^ 29) (hlen : (encodeField number p).length < 2 ^ 64) :
    ∃ rest', consumeTag (encodeField number p ++ l) = some (number, p.wireType, rest') ∧
      consumeFieldValue p.wireType rest' = some (p, l) := by
  refine ⟨p.encode ++ l, ?_, ?_⟩
  · rw [encodeField, List.append_assoc]
    exact consumeTag_encodeTag p.wireType _ h1 h2
  · apply consumeFieldValue_encode
    simp only [encodeField, List.length_append] at hlen
    omega

/-- A value of the field is read back from its payload. -/
theorem FieldDescriptor.Holds.read {f : FieldDescriptor M} {v : Scalar} (h : f.Holds v) (number : Nat)
    (hlen : (v.payload f.kind).encode.length < 2 ^ 64) :
    f.read number (v.payload f.kind) = some v := by
  cases v with
  | num n =>
    obtain ⟨k, hk, hfits⟩ := h
    simp [Scalar.payload, FieldDescriptor.read, hk, NumKind.value_payload hfits]
  | nums l =>
    obtain ⟨k, hk, hlist, hfits⟩ := h
    have hvalue : k.value (.bytes (k.pack l)) = none := by cases k <;> rfl
    have hpack : (k.pack l).length < 2 ^ 64 := by
      simp only [Scalar.payload, hk, Payload.encode, List.length_append] at hlen
      omega
    simp [Scalar.payload, FieldDescriptor.read, hk, hvalue, hlist, NumKind.unpack_pack hfits le_rfl hpack]
  | text s =>
    have hk : f.kind = .text := h
    simp [Scalar.payload, FieldDescriptor.read, hk]
  | bytes b =>
    have hk : f.kind = .bytes := h
    simp [Scalar.payload, FieldDescriptor.read, hk]
  | unknown number' p => exact absurd h id

/-- A scalar field is no message field. -/
theorem FieldDescriptor.Holds.kind_ne {f : FieldDescriptor M} {v : Scalar} (h : f.Holds v) (sub : M) :
    f.kind ≠ .message sub := by
  cases v with
  | num n =>
    obtain ⟨k, hk, -⟩ := h
    simp [hk]
  | nums l =>
    obtain ⟨k, hk, -⟩ := h
    simp [hk]
  | text s =>
    have hk : f.kind = .text := h
    simp [hk]
  | bytes b =>
    have hk : f.kind = .bytes := h
    simp [hk]
  | unknown number p => exact absurd h id

/-- Parsing gives the occurrences that were written. -/
theorem parse_marshal (hS : S.Valid) : ∀ {m : Msg} {ty : M} {fuel : Nat}, Conforms S ty m →
    (marshal S ty m).length < 2 ^ 64 → (marshal S ty m).length ≤ fuel →
    parse S fuel ty (marshal S ty m) = some m
  | .nil, ty, fuel, _, _, _ => by
    cases fuel <;> rfl
  | .leaf n v rest, ty, fuel, hc, hlen, hfuel => by
    obtain ⟨⟨f, hfind, hholds, -⟩, hrest⟩ := hc
    obtain ⟨hmem, rfl⟩ := Schema.mem_of_find hfind
    have hkind : S.kind ty f.name = f.kind := by simp [Schema.kind, hfind]
    have hm : marshal S ty (.leaf f.name v rest) =
        encodeField (S.number ty f.name) (v.payload f.kind) ++ marshal S ty rest := by
      rw [marshal, hkind]
    rw [hm, List.length_append] at hlen hfuel
    have hpos := encodeField_length (S.number ty f.name) (v.payload f.kind)
    obtain ⟨fuel, rfl⟩ : ∃ fuel', fuel = fuel' + 1 := ⟨fuel - 1, by omega⟩
    obtain ⟨h1, h2⟩ := hS.range ty f hmem
    obtain ⟨rest', htag, hvalue⟩ := consume_encodeField (p := v.payload f.kind)
      (l := marshal S ty rest) h1 h2 (by omega)
    have hread := hholds.read (S.number ty f.name) (by
      simp only [encodeField, List.length_append] at hlen
      omega)
    have ih : parse S fuel ty (marshal S ty rest) = some rest :=
      parse_marshal hS hrest (by omega) (by omega)
    obtain ⟨b, bs, hb⟩ := encodeField_ne_nil (S.number ty f.name) (v.payload f.kind) (marshal S ty rest)
    rw [hb] at htag
    rw [hm, hb]
    simp only [parse, htag, hvalue, hS.findNumber_of_mem hmem, ih]
    split
    · next sub c hk _ => exact absurd hk (hholds.kind_ne sub)
    · simp only [hread]
  | .node n c rest, ty, fuel, hc, hlen, hfuel => by
    obtain ⟨⟨f, sub, hfind, hsub, hcontent, -⟩, hrest⟩ := hc
    obtain ⟨hmem, rfl⟩ := Schema.mem_of_find hfind
    have hkind : S.kind ty f.name = .message sub := by simp [Schema.kind, hfind, hsub]
    have hm : marshal S ty (.node f.name c rest) =
        encodeField (S.number ty f.name) (.bytes (marshal S sub c)) ++ marshal S ty rest := by
      simp only [marshal, hkind]
    rw [hm, List.length_append] at hlen hfuel
    have hpos := encodeField_length (S.number ty f.name) (.bytes (marshal S sub c))
    have hinner := length_lt_encodeField (S.number ty f.name) (marshal S sub c)
    obtain ⟨fuel, rfl⟩ : ∃ fuel', fuel = fuel' + 1 := ⟨fuel - 1, by omega⟩
    obtain ⟨h1, h2⟩ := hS.range ty f hmem
    obtain ⟨rest', htag, hvalue⟩ := consume_encodeField (p := .bytes (marshal S sub c))
      (l := marshal S ty rest) h1 h2 (by omega)
    have ihc : parse S fuel sub (marshal S sub c) = some c :=
      parse_marshal hS hcontent (by omega) (by omega)
    have ih : parse S fuel ty (marshal S ty rest) = some rest :=
      parse_marshal hS hrest (by omega) (by omega)
    obtain ⟨b, bs, hb⟩ :=
      encodeField_ne_nil (S.number ty f.name) (.bytes (marshal S sub c)) (marshal S ty rest)
    rw [hb] at htag
    rw [hm, hb]
    simp only [parse, htag, hvalue, hS.findNumber_of_mem hmem, hsub, ihc, ih]

end RoundTrip

end Proto
