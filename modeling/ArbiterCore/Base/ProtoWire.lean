-- SUMMARY: The protobuf wire format: varints, tags and field values, and what reading them back gives.
import Mathlib.Data.List.Basic
import Mathlib.Tactic.Ring
import ArbiterCore.Base.Text

/-!
# Protobuf wire format

The primitives of the wire format, as google.golang.org/protobuf documents and
implements it: a varint has at most ten bytes and 64 bits. Every `consume` function reads one item from
the front of the bytes, and returns the item and the bytes after it. Each of
them has a lemma that it reads back what the encoder wrote.
-/

namespace Proto

abbrev Bytes := List UInt8

/-! ## Varints -/

/-- Seven bits per byte, lowest first, for numbers that need at most `k` bytes. -/
def varintBytes : Nat → Nat → Bytes
  | 0, _ => []
  | k + 1, n =>
    if n < 128 then [UInt8.ofNat n] else UInt8.ofNat (n % 128 + 128) :: varintBytes k (n / 128)

/-- A varint of at most ten bytes. -/
def encodeVarint (n : Nat) : Bytes := varintBytes 10 n

/-- Reads a varint of at most `k` bytes, whose last byte may use one bit only. -/
def readVarint : Nat → Bytes → Option (Nat × Bytes)
  | 0, _ => none
  | _ + 1, [] => none
  | k + 1, b :: rest =>
    if b.toNat < 128 then
      if k = 0 ∧ 1 < b.toNat then none else some (b.toNat, rest)
    else
      match readVarint k rest with
      | some (n, rest) => some (b.toNat - 128 + 128 * n, rest)
      | none => none

def consumeVarint (b : Bytes) : Option (Nat × Bytes) := readVarint 10 b

theorem readVarint_varintBytes : ∀ (k n : Nat) (rest : Bytes), 0 < k → n < 2 ^ (7 * k - 6) →
    readVarint k (varintBytes k n ++ rest) = some (n, rest)
  | 0, _, _, hk, _ => absurd hk (lt_irrefl 0)
  | k + 1, n, rest, _, hn => by
    rw [varintBytes]
    split
    · next hsmall =>
      have hbyte : (UInt8.ofNat n).toNat = n := UInt8.toNat_ofNat_of_lt' (by simp [UInt8.size]; omega)
      have hlast : ¬ (k = 0 ∧ 1 < n) := by
        rintro ⟨rfl, h1⟩
        omega
      simp [readVarint, hbyte, hsmall, hlast]
    · next hbig =>
      -- a number of one byte only has less than two values
      have hk : 0 < k := by
        rcases Nat.eq_zero_or_pos k with rfl | hk
        · omega
        · exact hk
      have hbyte : (UInt8.ofNat (n % 128 + 128)).toNat = n % 128 + 128 :=
        UInt8.toNat_ofNat_of_lt' (by simp [UInt8.size]; omega)
      have hrest : n / 128 < 2 ^ (7 * k - 6) := by
        have hpow : 2 ^ (7 * (k + 1) - 6) = 2 ^ (7 * k - 6) * 128 := by
          rw [show 7 * (k + 1) - 6 = (7 * k - 6) + 7 by omega, Nat.pow_add]
        omega
      have ih := readVarint_varintBytes k (n / 128) rest hk hrest
      have hcont : ¬ n % 128 + 128 < 128 := by omega
      simp only [List.cons_append, readVarint, hbyte, hcont, if_false, ih]
      simp
      omega

theorem consumeVarint_encodeVarint {n : Nat} (h : n < 2 ^ 64) (rest : Bytes) :
    consumeVarint (encodeVarint n ++ rest) = some (n, rest) :=
  readVarint_varintBytes 10 n rest (by omega) (by simpa using h)

theorem varintBytes_ne_nil {k : Nat} (hk : 0 < k) (n : Nat) : varintBytes k n ≠ [] := by
  obtain ⟨k, rfl⟩ := Nat.exists_eq_succ_of_ne_zero hk.ne'
  rw [varintBytes]
  split <;> simp

theorem encodeVarint_length_pos (n : Nat) : 0 < (encodeVarint n).length :=
  List.length_pos_iff.mpr (varintBytes_ne_nil (by omega) n)

/-! ## Numbers of fixed width -/

/-- `k` bytes, lowest first. -/
def leBytes : Nat → Nat → Bytes
  | 0, _ => []
  | k + 1, n => UInt8.ofNat (n % 256) :: leBytes k (n / 256)

def leNat : Bytes → Nat
  | [] => 0
  | b :: bs => b.toNat + 256 * leNat bs

@[simp] theorem length_leBytes : ∀ k n, (leBytes k n).length = k
  | 0, _ => rfl
  | k + 1, n => by rw [leBytes, List.length_cons, length_leBytes k]

theorem leNat_leBytes : ∀ (k n : Nat), n < 256 ^ k → leNat (leBytes k n) = n
  | 0, n, h => by
    have : n = 0 := by simpa using h
    exact this.symm
  | k + 1, n, h => by
    have hbyte : (UInt8.ofNat (n % 256)).toNat = n % 256 :=
      UInt8.toNat_ofNat_of_lt' (by simp [UInt8.size]; omega)
    have hrest : n / 256 < 256 ^ k := by
      rw [Nat.pow_succ] at h
      exact Nat.div_lt_of_lt_mul (by rwa [Nat.mul_comm])
    rw [leBytes, leNat, hbyte, leNat_leBytes k _ hrest]
    omega

/-! ## Fields -/

inductive WireType where
  | varint
  | fixed64
  | bytes
  | startGroup
  | endGroup
  | fixed32
  | reserved
  deriving DecidableEq

def WireType.ofBits : Nat → WireType
  | 0 => .varint
  | 1 => .fixed64
  | 2 => .bytes
  | 3 => .startGroup
  | 4 => .endGroup
  | 5 => .fixed32
  | _ => .reserved

def WireType.bits : WireType → Nat
  | .varint => 0
  | .fixed64 => 1
  | .bytes => 2
  | .startGroup => 3
  | .endGroup => 4
  | .fixed32 => 5
  | .reserved => 7

@[simp] theorem WireType.ofBits_bits (t : WireType) : ofBits t.bits = t := by
  cases t <;> rfl

theorem WireType.bits_lt (t : WireType) : t.bits < 8 := by
  cases t <;> decide

def encodeTag (number : Nat) (t : WireType) : Bytes := encodeVarint (number * 8 + t.bits)

/-- The number and the wire type of the next field. -/
def consumeTag (b : Bytes) : Option (Nat × WireType × Bytes) :=
  match consumeVarint b with
  | some (v, rest) =>
    if 2 ^ 31 ≤ v / 8 ∨ v / 8 < 1 then none else some (v / 8, .ofBits (v % 8), rest)
  | none => none

theorem consumeTag_encodeTag {number : Nat} (t : WireType) (rest : Bytes) (h1 : 1 ≤ number)
    (h2 : number < 2 ^ 29) : consumeTag (encodeTag number t ++ rest) = some (number, t, rest) := by
  have ht := t.bits_lt
  have hdiv : (number * 8 + t.bits) / 8 = number := by omega
  have hmod : (number * 8 + t.bits) % 8 = t.bits := by omega
  have hrange : ¬ (2 ^ 31 ≤ number ∨ number < 1) := by omega
  rw [consumeTag, encodeTag, consumeVarint_encodeVarint (by omega)]
  simp only [hdiv, hmod, hrange, if_false, WireType.ofBits_bits]

/-- The value of a field as its wire type delimits it. -/
inductive Payload where
  | varint (n : UInt64)
  | fixed32 (n : UInt32)
  | fixed64 (n : UInt64)
  | bytes (b : Bytes)
  deriving DecidableEq

/-- Reads the value of a field. Groups are no values here. -/
def consumeFieldValue (t : WireType) (b : Bytes) : Option (Payload × Bytes) :=
  match t with
  | .varint =>
    match consumeVarint b with
    | some (n, rest) => some (.varint (.ofNat n), rest)
    | none => none
  | .fixed32 => if b.length < 4 then none else some (.fixed32 (.ofNat (leNat (b.take 4))), b.drop 4)
  | .fixed64 => if b.length < 8 then none else some (.fixed64 (.ofNat (leNat (b.take 8))), b.drop 8)
  | .bytes =>
    match consumeVarint b with
    | some (n, rest) => if rest.length < n then none else some (.bytes (rest.take n), rest.drop n)
    | none => none
  | .startGroup | .endGroup | .reserved => none

def Payload.wireType : Payload → WireType
  | .varint _ => .varint
  | .fixed32 _ => .fixed32
  | .fixed64 _ => .fixed64
  | .bytes _ => .bytes

def Payload.encode : Payload → Bytes
  | .varint n => encodeVarint n.toNat
  | .fixed32 n => leBytes 4 n.toNat
  | .fixed64 n => leBytes 8 n.toNat
  | .bytes b => encodeVarint b.length ++ b

theorem consumeFieldValue_encode (p : Payload) (rest : Bytes) (h : p.encode.length < 2 ^ 64) :
    consumeFieldValue p.wireType (p.encode ++ rest) = some (p, rest) := by
  cases p with
  | varint n =>
    simp [Payload.wireType, Payload.encode, consumeFieldValue,
      consumeVarint_encodeVarint n.toNat_lt]
  | fixed32 n =>
    have hn : n.toNat < 256 ^ 4 := n.toNat_lt
    simp [Payload.wireType, Payload.encode, consumeFieldValue, List.take_left', List.drop_left',
      leNat_leBytes 4 _ hn]
  | fixed64 n =>
    have hn : n.toNat < 256 ^ 8 := n.toNat_lt
    simp [Payload.wireType, Payload.encode, consumeFieldValue, List.take_left', List.drop_left',
      leNat_leBytes 8 _ hn]
  | bytes b =>
    have hb : b.length < 2 ^ 64 := by
      simp only [Payload.encode, List.length_append] at h
      omega
    simp [Payload.wireType, Payload.encode, consumeFieldValue, consumeVarint_encodeVarint hb]

theorem consumeFieldValue_wireType {t : WireType} {b rest : Bytes} {p : Payload}
    (h : consumeFieldValue t b = some (p, rest)) : p.wireType = t := by
  cases t with
  | varint | bytes =>
    simp only [consumeFieldValue] at h
    split at h
    · first
        | (cases h; rfl)
        | (split at h
           · cases h
           · cases h
             rfl)
    · cases h
  | fixed32 | fixed64 =>
    simp only [consumeFieldValue] at h
    split at h
    · cases h
    · cases h
      rfl
  | startGroup | endGroup | reserved => cases h

/-! ## Texts -/

/-- The bytes of a text. -/
def utf8 (s : String) : Bytes := s.toByteArray.data.toList

/-- The text of the bytes, if they are valid UTF-8. -/
def textOf (b : Bytes) : Option String := String.fromUTF8? ⟨b.toArray⟩

@[simp] theorem textOf_utf8 (s : String) : textOf (utf8 s) = some s := by
  have hbytes : (⟨(utf8 s).toArray⟩ : ByteArray) = s.toByteArray := by
    simp [utf8]
  rw [textOf, hbytes, String.fromUTF8?, dif_pos s.isValidUTF8]
  rfl

end Proto
