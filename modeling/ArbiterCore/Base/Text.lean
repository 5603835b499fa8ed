-- SUMMARY: Texts: kinds of characters, segments, decimal numbers, bytes and base64.
import Mathlib.Data.List.Basic
import Mathlib.Tactic.NormNum

/-!
# Texts

A text that joins segments by a separator determines its first segment as long
as that segment is free of the separator. Decimal numbers are free of every
separator that is no digit, and determine their value. Bytes are determined by
their hex digits, and by their base64 form.
-/

namespace Text

/-! ## Characters -/

/-- unicode.IsSpace -/
def isSpace (c : Char) : Bool :=
  let n := c.toNat
  (0x09 ≤ n && n ≤ 0x0d) || n == 0x20 || n == 0x85 || n == 0xa0 || n == 0x1680 ||
    (0x2000 ≤ n && n ≤ 0x200a) || n == 0x2028 || n == 0x2029 || n == 0x202f || n == 0x205f || n == 0x3000

/-- unicode.IsControl -/
def isControl (c : Char) : Bool := c.toNat < 0x20 || (0x7f ≤ c.toNat && c.toNat < 0xa0)

def isHexDigit (c : Char) : Bool := c.isDigit || ('a' ≤ c && c ≤ 'f') || ('A' ≤ c && c ≤ 'F')

/-- strings.TrimSpace leaves nothing. -/
def isBlank (s : String) : Bool := s.toList.all isSpace

/-- The tables of package unicode, an external one: the small letter of a character,
    and the character that stands for all those that `SimpleFold` relates to it. -/
class Unicode where
  toLower : Char → Char
  toFold : Char → Char
  toLower_ascii : ∀ c, c.toNat < 128 → toLower c = c.toLower
  toFold_ascii : ∀ c, c.toNat < 128 → toFold c = c.toLower
  toLower_colon : ∀ c, toLower c = ':' → c = ':'

section Case

variable [Unicode]

/-- strings.ToLower -/
def lower (s : String) : String := String.ofList (s.toList.map Unicode.toLower)

/-- The text that stands for those that are equal to `s` without case. -/
def fold (s : String) : String := String.ofList (s.toList.map Unicode.toFold)

/-- strings.EqualFold -/
def equalFold (a b : String) : Bool := fold a = fold b

/-- An ASCII text without capital letters. -/
def IsSmall (s : String) : Prop := ∀ c ∈ s.toList, c.toNat < 128 ∧ c.toLower = c

instance (s : String) : Decidable (IsSmall s) := List.decidableBAll _ _

theorem IsSmall.fold_eq {s : String} (h : IsSmall s) : fold s = s := by
  have hchars : ∀ c ∈ s.toList, Unicode.toFold c = c :=
    fun c hc => (Unicode.toFold_ascii c (h c hc).1).trans (h c hc).2
  rw [fold, List.map_congr_left hchars, List.map_id', String.ofList_toList]

theorem lower_colon {s : String} (h : ':' ∉ s.toList) : ':' ∉ (lower s).toList := by
  simp only [lower, String.toList_ofList, List.mem_map, not_exists, not_and]
  intro c hc hlower
  exact h (Unicode.toLower_colon c hlower ▸ hc)

end Case

namespace Unicode

/-- Tables on which lowering can be evaluated: characters outside ASCII have no case. -/
scoped instance ascii : Unicode where
  toLower := Char.toLower
  toFold := Char.toLower
  toLower_ascii _ _ := rfl
  toFold_ascii _ _ := rfl
  toLower_colon c h := by
    delta Char.toLower at h
    split at h
    · next hcap =>
      have hval := congrArg (fun c : Char => c.val.toNat) h
      obtain ⟨hlo, hhi⟩ := hcap
      simp [UInt32.le_iff_toNat_le] at hval hlo hhi
      omega
    · exact h

end Unicode

/-- `%q` of a text that needs no escapes. -/
def quoted (s : String) : String := "\"" ++ s ++ "\""

/-- `0x` and forty lowercase hex digits. -/
def isAddress (s : String) : Bool :=
  match s.toList with
  | '0' :: 'x' :: digits => digits.length == 40 && digits.all fun c => c.isDigit || ('a' ≤ c && c ≤ 'f')
  | _ => false

/-! ## Segments -/

variable {α : Type}

/-- The first occurrence of the separator ends the first segment. -/
theorem append_sep_inj {sep : α} : ∀ {s s' t t' : List α}, sep ∉ s → sep ∉ s' →
    s ++ sep :: t = s' ++ sep :: t' → s = s' ∧ t = t'
  | [], [], _, _, _, _, h => ⟨rfl, by simpa using h⟩
  | [], a :: s', _, _, _, hs', h => by
    obtain ⟨rfl, -⟩ := List.cons.inj h
    exact absurd List.mem_cons_self hs'
  | a :: s, [], _, _, hs, _, h => by
    obtain ⟨rfl, -⟩ := List.cons.inj h
    exact absurd List.mem_cons_self hs
  | a :: s, b :: s', t, t', hs, hs', h => by
    obtain ⟨rfl, hrest⟩ := List.cons.inj h
    obtain ⟨rfl, rfl⟩ := append_sep_inj (fun m => hs (.tail _ m)) (fun m => hs' (.tail _ m)) hrest
    exact ⟨rfl, rfl⟩

/-! ## Decimal numbers -/

@[simp] theorem toList_toString (n : Nat) : (toString n).toList = Nat.toDigits 10 n := by
  simp [Nat.toString_eq_repr, Nat.toList_repr]

theorem toString_inj {m n : Nat} (h : toString m = toString n) : m = n := by
  have hdigits : Nat.toDigits 10 m = Nat.toDigits 10 n := by
    simpa using congrArg String.toList h
  have hvalue := congrArg (fun digits => Nat.ofDigitChars 10 digits 0) hdigits
  simpa only [Nat.ofDigitChars_ten_toDigits] using hvalue

theorem notMem_toString {c : Char} (h : c.isDigit = false) (n : Nat) : c ∉ (toString n).toList := by
  intro hmem
  rw [toList_toString] at hmem
  have hdigit := Nat.isDigit_of_mem_toDigits (by omega) (by omega) hmem
  exact absurd hdigit (by simp [h])

/-! ## Bytes -/

theorem toList_loop (bs : ByteArray) (i : Nat) (r : List UInt8) :
    ByteArray.toList.loop bs i r = r.reverse ++ bs.data.toList.drop i := by
  fun_induction ByteArray.toList.loop bs i r with
  | case1 i r hi ih =>
    have hget : bs.get! i = bs.data.toList[i] := by
      simp [ByteArray.get!, getElem!_pos, hi]
    rw [ih, List.reverse_cons, List.append_assoc, List.singleton_append, hget,
      ← List.drop_eq_getElem_cons]
  | case2 i r hi =>
    have hlen : bs.data.toList.length ≤ i := by simpa using hi
    rw [List.drop_eq_nil_of_le hlen, List.append_nil]

/-- A text is determined by its bytes. -/
theorem utf8_inj {s t : String} (h : s.toUTF8.toList = t.toUTF8.toList) : s = t := by
  have hdata : ∀ bs : ByteArray, bs.toList = bs.data.toList := fun bs => toList_loop bs 0 []
  rw [hdata, hdata, Array.toList_inj] at h
  exact String.toByteArray_inj.mp (ByteArray.ext h)

/-- The two hex digits of every byte determine the bytes. -/
theorem hex_inj {digits : UInt8 → List Char} (hlen : ∀ b, (digits b).length = 2)
    (hinj : ∀ b b', digits b = digits b' → b = b') : ∀ {bs bs' : List UInt8},
    bs.flatMap digits = bs'.flatMap digits → bs = bs'
  | [], [], _ => rfl
  | [], b :: bs, h => by
    have hlength := congrArg List.length h
    simp only [List.flatMap_nil, List.flatMap_cons, List.length_append, hlen, List.length_nil] at hlength
    omega
  | b :: bs, [], h => by
    have hlength := congrArg List.length h
    simp only [List.flatMap_nil, List.flatMap_cons, List.length_append, hlen, List.length_nil] at hlength
    omega
  | b :: bs, b' :: bs', h => by
    simp only [List.flatMap_cons] at h
    obtain ⟨hb, hbs⟩ := List.append_inj h ((hlen b).trans (hlen b').symm)
    rw [hinj b b' hb, hex_inj hlen hinj hbs]

/-! ## Base64 -/

/-- The digits of base64.StdEncoding. -/
def base64Digits : List Char :=
  "ABCDEFGHIJKLMNOPQRSTUVWXYZabcdefghijklmnopqrstuvwxyz0123456789+/".toList

/-- The groups of six bits of the bytes, four for three bytes; 64 stands for padding. -/
def sextets : List UInt8 → List Nat
  | [] => []
  | [a] => [a.toNat / 4, a.toNat % 4 * 16, 64, 64]
  | [a, b] => [a.toNat / 4, a.toNat % 4 * 16 + b.toNat / 16, b.toNat % 16 * 4, 64]
  | a :: b :: c :: rest => a.toNat / 4 :: (a.toNat % 4 * 16 + b.toNat / 16) ::
      (b.toNat % 16 * 4 + c.toNat / 64) :: c.toNat % 64 :: sextets rest

/-- base64.StdEncoding: a digit for each group of six bits, padded at the end. -/
def base64 (bs : List UInt8) : List Char := (sextets bs).map (base64Digits.getD · '=')

theorem lt_of_mem_sextets {bs : List UInt8} {n : Nat} (hn : n ∈ sextets bs) : n < 65 := by
  fun_induction sextets bs with grind [UInt8.toNat_lt]

theorem sextets_inj {bs bs' : List UInt8} (h : sextets bs = sextets bs') : bs = bs' := by
  have hbyte : ∀ a a' : UInt8, a.toNat = a'.toNat → a = a' := fun _ _ => UInt8.toNat_inj.mp
  -- the place of the padding tells how many bytes are left
  fun_induction sextets bs generalizing bs' with
    rcases bs' with _ | ⟨a', _ | ⟨b', _ | ⟨c', rest'⟩⟩⟩ <;> simp only [sextets] at h <;>
      grind [UInt8.toNat_lt]

theorem base64_inj {bs bs' : List UInt8} (h : base64 bs = base64 bs') : bs = bs' := by
  have hdigit : ∀ n < 65, base64Digits.idxOf (base64Digits.getD n '=') = n := by decide +kernel
  have hback : ∀ bs, (base64 bs).map base64Digits.idxOf = sextets bs := by
    intro bs
    rw [base64, List.map_map]
    exact (List.map_congr_left fun n hn => hdigit n (lt_of_mem_sextets hn)).trans (List.map_id _)
  exact sextets_inj (by rw [← hback, h, hback])

end Text
