-- SUMMARY: Which statement ids share a flat form, and with it an intake record and row ids (types.go).
import ArbiterCore.SNode.Intake

/-!
# Flat statement ids

The flat form of an id of the legacy lane has three segments, that of an id with
a client lane four. The nonce is free text, so that a legacy id whose nonce
spells a sequence and a nonce may be read as an id with a lane: its sequence is
then taken for a lane of sixteen decimal digits.
-/

namespace ArbiterCore

/-! ## Coordinates -/

/-- One statement for each account, lane and sequence. -/
structure StatementCoord where
  account : String
  lane : String
  clientSeq : Nat
  deriving DecidableEq

def StatementID.coord [Unicode] (id : StatementID) : StatementCoord :=
  ⟨lower id.clientAccount, id.clientLane, id.clientSeq⟩

def clientLaneHexLen : Nat := 16

/-- Exactly 16 lowercase hex characters. -/
def validClientLane (lane : String) : Bool :=
  lane.utf8ByteSize = clientLaneHexLen &&
    lane.toList.all fun c => '0' ≤ c && c ≤ '9' || 'a' ≤ c && c ≤ 'f'

/-- The ids of statements: an account without a colon, and the legacy lane or a
    client lane. -/
structure StatementID.Admissible (id : StatementID) : Prop where
  account : ':' ∉ id.clientAccount.toList
  lane : id.clientLane = "" ∨ validClientLane id.clientLane = true

instance (id : StatementID) : Decidable id.Admissible :=
  decidable_of_iff (':' ∉ id.clientAccount.toList ∧
    (id.clientLane = "" ∨ validClientLane id.clientLane = true))
    ⟨fun h => ⟨h.1, h.2⟩, fun h => ⟨h.account, h.lane⟩⟩

section

variable [Unicode]

/-- The statements agree in account (up to case), lane, sequence and nonce. -/
def StatementID.Same (a b : StatementID) : Prop :=
  a.coord = b.coord ∧ a.clientNonce = b.clientNonce

instance (a b : StatementID) : Decidable (a.Same b) := inferInstanceAs (Decidable (_ ∧ _))

/-- The legacy id `a` reads as the id `b`: its sequence as the lane, and the
    sequence and nonce of `b` as its nonce. -/
structure StatementID.ReadsAs (a b : StatementID) : Prop where
  account : lower a.clientAccount = lower b.clientAccount
  legacy : a.clientLane = ""
  lane : b.clientLane = toString a.clientSeq
  nonce : a.clientNonce = toString b.clientSeq ++ ":" ++ b.clientNonce

end

/-! ## Segments -/

theorem validClientLane_colon {lane : String} (h : validClientLane lane = true) :
    ':' ∉ lane.toList := by
  intro hmem
  simp only [validClientLane, Bool.and_eq_true, List.all_eq_true] at h
  exact absurd (h.2 ':' hmem) (by decide)

theorem colon_notMem_toString (n : Nat) : ':' ∉ (toString n).toList :=
  Text.notMem_toString (by decide) n

namespace StatementID

open Text (lower_colon)

variable [Unicode]

theorem flat_legacy {id : StatementID} (h : id.clientLane = "") : id.flat.toList =
    (lower id.clientAccount).toList ++ ':' :: ((toString id.clientSeq).toList ++
      ':' :: id.clientNonce.toList) := by
  simp [flat, h]

theorem flat_laned {id : StatementID} (h : id.clientLane ≠ "") : id.flat.toList =
    (lower id.clientAccount).toList ++ ':' :: (id.clientLane.toList ++
      ':' :: ((toString id.clientSeq).toList ++ ':' :: id.clientNonce.toList)) := by
  simp [flat, h]

variable {a b : StatementID}

theorem ReadsAs.flat_eq (h : a.ReadsAs b) : a.flat = b.flat := by
  have hlane : b.clientLane ≠ "" := by
    rw [h.lane]
    intro hempty
    have hdigits := congrArg String.toList hempty
    simp at hdigits
  apply String.toList_inj.mp
  rw [flat_legacy h.legacy, flat_laned hlane, h.account, h.nonce, h.lane]
  simp

theorem ReadsAs.not_same (h : a.ReadsAs b) : ¬ a.Same b := by
  rintro ⟨hcoord, -⟩
  have hlane : a.clientLane = b.clientLane := congrArg StatementCoord.lane hcoord
  have hdigits := congrArg String.toList (hlane.symm.trans h.legacy)
  rw [h.lane] at hdigits
  simp at hdigits

/-- A legacy form that equals a form with a lane reads as it. -/
theorem readsAs_of_flat (ha : a.Admissible) (hb : b.Admissible) (hla : a.clientLane = "")
    (hlb : b.clientLane ≠ "") (h : a.flat = b.flat) : a.ReadsAs b := by
  have hlist := congrArg String.toList h
  rw [flat_legacy hla, flat_laned hlb] at hlist
  obtain ⟨haccount, hrest⟩ :=
    Text.append_sep_inj (lower_colon ha.account) (lower_colon hb.account) hlist
  have hvalid := hb.lane.resolve_left hlb
  obtain ⟨hlane, hnonce⟩ :=
    Text.append_sep_inj (colon_notMem_toString _) (validClientLane_colon hvalid) hrest
  refine ⟨String.toList_inj.mp haccount, hla, (String.toList_inj.mp hlane).symm, ?_⟩
  apply String.toList_inj.mp
  simpa using hnonce

/-- Two forms of the same kind are equal only for the same statement. -/
theorem same_of_flat (ha : a.Admissible) (hb : b.Admissible)
    (hkind : a.clientLane = "" ↔ b.clientLane = "") (h : a.flat = b.flat) : a.Same b := by
  have hlist := congrArg String.toList h
  by_cases hla : a.clientLane = ""
  · have hlb := hkind.mp hla
    rw [flat_legacy hla, flat_legacy hlb] at hlist
    obtain ⟨haccount, hrest⟩ :=
      Text.append_sep_inj (lower_colon ha.account) (lower_colon hb.account) hlist
    obtain ⟨hseq, hnonce⟩ :=
      Text.append_sep_inj (colon_notMem_toString _) (colon_notMem_toString _) hrest
    refine ⟨?_, String.toList_inj.mp hnonce⟩
    rw [coord, coord, String.toList_inj.mp haccount, hla, hlb,
      Text.toString_inj (String.toList_inj.mp hseq)]
  · have hlb := fun hlb => hla (hkind.mpr hlb)
    rw [flat_laned hla, flat_laned hlb] at hlist
    obtain ⟨haccount, hrest⟩ :=
      Text.append_sep_inj (lower_colon ha.account) (lower_colon hb.account) hlist
    obtain ⟨hlane, hrest⟩ := Text.append_sep_inj
      (validClientLane_colon (ha.lane.resolve_left hla))
      (validClientLane_colon (hb.lane.resolve_left hlb)) hrest
    obtain ⟨hseq, hnonce⟩ :=
      Text.append_sep_inj (colon_notMem_toString _) (colon_notMem_toString _) hrest
    refine ⟨?_, String.toList_inj.mp hnonce⟩
    rw [coord, coord, String.toList_inj.mp haccount, String.toList_inj.mp hlane,
      Text.toString_inj (String.toList_inj.mp hseq)]

theorem Same.flat_eq (h : a.Same b) : a.flat = b.flat := by
  obtain ⟨hcoord, hnonce⟩ := h
  simp only [coord, StatementCoord.mk.injEq] at hcoord
  obtain ⟨haccount, hlane, hseq⟩ := hcoord
  simp [flat, haccount, hlane, hseq, hnonce]

/-- Equal flat forms belong to one statement, or one of them reads as the other. -/
theorem flat_eq_iff (ha : a.Admissible) (hb : b.Admissible) :
    a.flat = b.flat ↔ a.Same b ∨ a.ReadsAs b ∨ b.ReadsAs a := by
  constructor
  · intro h
    by_cases hla : a.clientLane = "" <;> by_cases hlb : b.clientLane = ""
    · exact .inl (same_of_flat ha hb (by simp [hla, hlb]) h)
    · exact .inr (.inl (readsAs_of_flat ha hb hla hlb h))
    · exact .inr (.inr (readsAs_of_flat hb ha hlb hla h.symm))
    · exact .inl (same_of_flat ha hb (by simp [hla, hlb]) h)
  · rintro (h | h | h)
    · exact h.flat_eq
    · exact h.flat_eq
    · exact h.flat_eq.symm

end StatementID

/-! ## Records and rows -/

/-- The two digits of a byte. -/
theorem toDigits_byte (b : UInt8) : Nat.toDigits 16 (b.toNat / 16) ++ Nat.toDigits 16 (b.toNat % 16) =
    [Nat.digitChar (b.toNat / 16), Nat.digitChar (b.toNat % 16)] := by
  have hb := b.toNat_lt
  rw [Nat.toDigits_of_lt_base (by omega), Nat.toDigits_of_lt_base (by omega)]
  rfl

theorem digitChar_inj {m n : Nat} (hm : m < 16) (hn : n < 16) (h : Nat.digitChar m = Nat.digitChar n) :
    m = n := by
  have hall : ∀ m n : Fin 16, Nat.digitChar m = Nat.digitChar n → m = n := by decide
  exact congrArg Fin.val (hall ⟨m, hm⟩ ⟨n, hn⟩ h)

/-- The record's file name determines the flat id. -/
theorem recordName_inj {s t : String} (h : recordName s = recordName t) : s = t := by
  have hdigits := congrArg String.toList h
  simp only [recordName, String.toList_append, String.toList_ofList, toDigits_byte] at hdigits
  apply Text.utf8_inj
  refine Text.hex_inj (fun b => rfl) (fun b b' hb => ?_) (List.append_cancel_right hdigits)
  have hlt := b.toNat_lt
  have hlt' := b'.toNat_lt
  simp only [List.cons.injEq, and_true] at hb
  have hhigh := digitChar_inj (by omega) (by omega) hb.1
  have hlow := digitChar_inj (by omega) (by omega) hb.2
  apply UInt8.toNat_inj.mp
  omega

section

variable [HouseGate]

/-- The statements have a record or a row id in common. -/
def SharesState (r : Role) (a b : StatementID) : Prop :=
  recordName a.flat = recordName b.flat ∨
    ∃ table table' n n', ¬ List.Disjoint (derivedRowIDs r table a.flat n)
      (derivedRowIDs r table' b.flat n')

theorem sharesState_iff (r : Role) (a b : StatementID) : SharesState r a b ↔ a.flat = b.flat := by
  constructor
  · rintro (hrecord | ⟨table, table', n, n', hrows⟩)
    · exact recordName_inj hrecord
    · simp only [List.Disjoint, derivedRowIDs, List.mem_map, not_forall] at hrows
      obtain ⟨id, ⟨i, -, rfl⟩, ⟨j, -, hid⟩, -⟩ := hrows
      exact (HouseGate.rowID_injective _ _ _ _ _ _ _ _ hid).2.2.1.symm
  · intro h
    exact .inl (congrArg recordName h)

/-- Flat ids separate two statements, and their records and rows with them, if and
    only if neither id reads as the other. -/
theorem flat_separates_iff (r : Role) {a b : StatementID} (ha : a.Admissible) (hb : b.Admissible) :
    (¬ a.ReadsAs b ∧ ¬ b.ReadsAs a) ↔
      (a.flat = b.flat → a.Same b) ∧ (¬ a.Same b → ¬ SharesState r a b) := by
  rw [sharesState_iff]
  constructor
  · rintro ⟨hab, hba⟩
    have hsame : a.flat = b.flat → a.Same b := by
      intro h
      rcases (StatementID.flat_eq_iff ha hb).mp h with h | h | h
      · exact h
      · exact absurd h hab
      · exact absurd h hba
    exact ⟨hsame, mt hsame⟩
  · rintro ⟨hsame, -⟩
    refine ⟨fun h => h.not_same (hsame h.flat_eq), fun h => ?_⟩
    obtain ⟨hcoord, hnonce⟩ := hsame h.flat_eq.symm
    exact h.not_same ⟨hcoord.symm, hnonce.symm⟩

end

namespace SmallNode

/-- A statement of the legacy lane. -/
def legacyID : StatementID := ⟨"0xA", 1234567890123456, "5:x", ""⟩

/-- A statement of the lane `1234567890123456`. -/
def lanedID : StatementID := ⟨"0xA", 5, "x", "1234567890123456"⟩

def requestOf (id : StatementID) : PrepareRequest :=
  { request "a" with envelope := { (request "a").envelope with statementID := id } }

/-- The part that the INSERT of a statement writes. -/
def landedFor (name : String) (id : StatementID) : StoredPart :=
  ⟨name, "all", "", "f", "", 1, letI := gate; statementRows role "t" id.flat ["A"]⟩

end SmallNode

open SmallNode in
/-- The ids of two sequences of one lane are apart. -/
theorem flat_separates_iff_seqs : letI := gate
    (⟨"0xA", 5, "x", "00000000000000ff"⟩ : StatementID).Admissible ∧
    (⟨"0xa", 6, "x", "00000000000000ff"⟩ : StatementID).Admissible ∧
    ¬ SharesState role ⟨"0xA", 5, "x", "00000000000000ff"⟩ ⟨"0xa", 6, "x", "00000000000000ff"⟩ := by
  let _ := gate
  have hx : (⟨"0xA", 5, "x", "00000000000000ff"⟩ : StatementID).Admissible := by decide +kernel
  have hy : (⟨"0xa", 6, "x", "00000000000000ff"⟩ : StatementID).Admissible := by decide +kernel
  refine ⟨hx, hy, ((flat_separates_iff role hx hy).mp ⟨?_, ?_⟩).2 (by decide +kernel)⟩
  · intro h
    exact absurd h.legacy (by decide)
  · intro h
    exact absurd h.legacy (by decide)

open SmallNode in
/-- A legacy statement and a statement with a lane share their flat id. Intake accepts
    the first and then refuses the second as a changed repetition of it. -/
theorem flat_shared_across_lanes : letI := gate
    legacyID.Admissible ∧ lanedID.Admissible ∧ legacyID.flat = lanedID.flat ∧
    ¬ legacyID.Same lanedID ∧ SharesState role legacyID lanedID ∧
    ∃ result w e w', (machine role atomicWrites).replay
        (prepareLocalStatement role (requestOf legacyID) payload).run
          (prepareAnswers [landedFor "u1" legacyID]) (world .empty) = some (.ret (.ok result), w) ∧
      (machine role atomicWrites).replay
        (prepareLocalStatement role (requestOf lanedID) payload).run (List.replicate 2 .ok) w =
          some (.ret (.error e), w') ∧ e.kind = .payloadMismatchPostRecord := by
  let _ := gate
  have hflat : legacyID.flat = lanedID.flat := by decide +kernel
  refine ⟨by decide +kernel, by decide +kernel, hflat, by decide +kernel,
    (sharesState_iff role _ _).mpr hflat, _, _, _, _, rfl, rfl, rfl⟩

end ArbiterCore
