-- SUMMARY: The install gate: plans, closures and classified scratches (gate.go, classify.go).
import ArbiterCore.Base.Bag
import ArbiterCore.Base.GoSlice
import ArbiterCore.SNode.Types
import Mathlib.Data.String.Basic
import Mathlib.Algebra.BigOperators.Group.Multiset.Basic
import Mathlib.Algebra.Order.Ring.Int

/-!
# The gate

The gate compares multisets of row hashes. It works on canonical texts, so two
spellings of one accumulator count as equal. A partition closes when its local and
its fetched parts sum to the root that the manifest gives.
-/

namespace ArbiterCore.Install.Gate

variable [LtHash]

open LtHash (Acc sumPartRowLtHashes)

/-! ## Canonical texts -/

/-- Shortens an accumulator for an error text. -/
def abbreviate (h : String) : String :=
  let chars := h.toList
  if chars.length ≤ 26 then h
  else String.ofList (chars.take 18 ++ '…' :: chars.drop (chars.length - 8))

/-- The text of the sum, or the empty text when a hash does not parse. -/
def sumText (hashes : List String) : String :=
  match sumPartRowLtHashes hashes with
  | .ok s => s
  | .error _ => ""

def canonicalList (what : String) (hashes : List String) : Except String (List String) :=
  match sumPartRowLtHashes hashes with
  | .error e => .error s!"gate: {what}: {e.text}"
  | .ok _ => .ok (hashes.map fun h => sumText [h])

def canonicalOne (what hash : String) : Except String String :=
  (canonicalList what [hash]).map fun hs => hs.headD ""

/-! ## Plans -/

/-- The plan of one partition; `need` is empty when the partition diverged. -/
structure Plan where
  diverged : Bool
  need : List String
  root : String

/-- What a partition needs that holds `held` and should hold `manifest`. -/
def PlanOf (root : String) (manifest held : List String) : Plan :=
  match Bag.takeAll manifest held with
  | none => ⟨true, [], root⟩
  | some left => ⟨false, (Bag.pickBy id manifest left).insertionSort (· ≤ ·), root⟩

def planPartition (manifest : List String) (root : String) (held : List String) :
    Except String Plan := do
  let m ← canonicalList "manifest" manifest
  let r ← canonicalOne "partition root" root
  let got := sumText m
  if got ≠ r then
    throw s!"gate: manifest parts sum to {abbreviate got}, not the partition root {abbreviate r}"
  else do
    let l ← canonicalList "local" held
    return PlanOf r m l

/-- The local and the kept parts sum to the root. -/
def closure (root : String) (held kept : List String) : Except String Unit := do
  let r ← canonicalOne "partition root" root
  let l ← canonicalList "local" held
  let k ← canonicalList "kept" kept
  let got := sumText (l ++ k)
  if got ≠ r then
    throw s!"gate: closure: {l.length} local and {k.length} kept parts sum to {abbreviate got}, the partition root is {
      abbreviate r}"
  else return ()

def partitionSet (manifest held : List String) : Except String Unit :=
  let m := GoSlice.sortCompact manifest
  let l := GoSlice.sortCompact held
  if m ≠ l then .error s!"gate: partition set {GoSlice.text l} is not the manifest's {GoSlice.text m}" else .ok ()

/-! ## Classification -/

inductive Outcome where
  | kept | renameRace | split | doubled | foreign
  deriving DecidableEq

/-- The part that a pull asked for. -/
structure Expected where
  rowLtHash : String
  rows : Nat

/-- What a scratch was fetched for; a restore has no single part. -/
structure Fetch where
  need : List String
  single : Option Expected

structure ScratchPart where
  name : String
  rowLtHash : String
  rows : Nat
  deriving DecidableEq

/-- The names of the parts to keep and to drop, and the needs that the kept parts
    satisfy, in the order of `keep`. -/
structure Classification where
  outcome : Outcome
  keep : List String
  drop : List String
  kept : List String

def classifyRestore (need : List String) (parts : List ScratchPart) : Classification :=
  let keep := Bag.pickBy ScratchPart.rowLtHash parts need
  let drop := Bag.leaveBy ScratchPart.rowLtHash parts need
  ⟨.kept, keep.map (·.name), drop.map (·.name), keep.map (·.rowLtHash)⟩

def classifyPull (need : List String) (single : Expected) (parts : List ScratchPart) :
    Classification :=
  -- row counts are 64-bit words in the source, so the sums wrap
  let rows := (parts.map (·.rows)).sum % 2 ^ 64
  let names := parts.map (·.name)
  let total := sumText (parts.map (·.rowLtHash))
  if rows = 0 then ⟨.renameRace, [], names, []⟩
  else if parts.map (fun p => (p.rowLtHash, p.rows)) = [(single.rowLtHash, single.rows)] ∧
      single.rowLtHash ∈ need then ⟨.kept, names, [], [single.rowLtHash]⟩
  else if 2 ≤ parts.length ∧ total = single.rowLtHash ∧ rows = single.rows then
    ⟨.split, [], names, []⟩
  else if total = sumText [single.rowLtHash, single.rowLtHash] ∧
      rows = 2 * single.rows % 2 ^ 64 then ⟨.doubled, [], names, []⟩
  else ⟨.foreign, [], [], []⟩

/-- The scratch parts under their canonical hashes. -/
def canonicalParts (parts : List ScratchPart) : Except String (List ScratchPart) :=
  (canonicalList "scratch" (parts.map (·.rowLtHash))).map fun hashes =>
    (parts.zip hashes).map fun p => { p.1 with rowLtHash := p.2 }

def classify (f : Fetch) (scratch : List ScratchPart) : Except String Classification := do
  let need ← canonicalList "need" f.need
  let parts ← canonicalParts scratch
  match f.single with
  | none => return classifyRestore need parts
  | some single => do
    let hash ← canonicalOne "single-part fetch" single.rowLtHash
    return classifyPull need ⟨hash, single.rows⟩ parts

/-! ## Accepted spellings

The gate answers for every text that parses, in terms of the accumulators that the
texts stand for. -/

/-- A text that `SumPartRowLtHashes` accepts as an accumulator. -/
def Accepted (h : String) : Prop := ∃ s, sumPartRowLtHashes [h] = .ok s

/-- The text that a scan gives to an accumulator. -/
def Canonical (h : String) : Prop := ∃ a : Acc, h = accumulatorHex a

/-- The text under which the gate compares and returns `h`. -/
def canonical (h : String) : String := accumulatorHex (accOf h)

/-- The multiset of accumulators that a list of texts stands for. -/
def bag (hs : List String) : Multiset Acc := (hs.map accOf : Multiset Acc)

variable {h : String}

theorem Accepted.decode (ha : Accepted h) : h ≠ "" ∧ LtHash.decode h = .ok (accOf h) := by
  obtain ⟨s, hs⟩ := ha
  have hgood : ¬ (h = "" ∨ ∃ e, LtHash.decode h = .error e) := by
    intro hbad
    obtain ⟨e, he⟩ := LtHash.sum_strict [h] h List.mem_cons_self hbad
    rw [hs] at he
    cases he
  obtain ⟨hne, hdec⟩ := not_or.mp hgood
  cases ha : LtHash.decode h with
  | error e => exact absurd ⟨e, ha⟩ hdec
  | ok a =>
    have hparse : parseAccumulatorHex h = .ok a := by rw [parseAccumulatorHex, if_neg hne, ha]
    exact ⟨hne, by rw [accOf_of_parse hparse]⟩

theorem Canonical.accepted (hc : Canonical h) : Accepted h := by
  obtain ⟨a, rfl⟩ := hc
  exact ⟨_, LtHash.sum_decoded _ [a]
    (.cons ⟨LtHash.encode_ne_empty a, LtHash.decode_encode a⟩ .nil)⟩

theorem canonical_accepted (h : String) : Accepted (canonical h) :=
  Canonical.accepted ⟨accOf h, rfl⟩

theorem Canonical.canonical_eq (hc : Canonical h) : canonical h = h := by
  obtain ⟨a, rfl⟩ := hc
  rw [canonical, accOf_accumulatorHex]

@[simp] theorem accOf_canonical (h : String) : accOf (canonical h) = accOf h :=
  accOf_accumulatorHex _

theorem canonical_inj {h' : String} : canonical h = canonical h' ↔ accOf h = accOf h' :=
  ⟨fun heq => accumulatorHex_injective heq, fun heq => congrArg accumulatorHex heq⟩

@[simp] theorem bag_nil : bag [] = 0 := rfl

@[simp] theorem bag_append (hs hs' : List String) : bag (hs ++ hs') = bag hs + bag hs' := by
  simp [bag]

@[simp] theorem bag_map_canonical (hs : List String) : bag (hs.map canonical) = bag hs := by
  simp [bag, Function.comp_def]

@[simp] theorem sumOf_map_canonical (hs : List String) : sumOf (hs.map canonical) = sumOf hs := by
  simp [sumOf, Function.comp_def]

theorem sum_bag (hs : List String) : (bag hs).sum = sumOf hs := Multiset.sum_coe _

theorem bag_perm {hs hs' : List String} (h : hs.Perm hs') : bag hs = bag hs' :=
  Multiset.coe_eq_coe.mpr (h.map accOf)

/-- Canonical texts are included in each other just when the accumulators are. -/
theorem subperm_canonical {hs hs' : List String} :
    (hs.map canonical).Subperm (hs'.map canonical) ↔ bag hs ≤ bag hs' := by
  have hmap : ∀ l : List String, (l.map canonical : Multiset String) = (bag l).map accumulatorHex := by
    intro l
    rw [bag, Multiset.map_coe, List.map_map]
    rfl
  rw [← Multiset.coe_le, hmap, hmap]
  exact Multiset.map_le_map_iff fun _ _ => accumulatorHex_injective

theorem mem_map_canonical {hs : List String} :
    canonical h ∈ hs.map canonical ↔ accOf h ∈ bag hs := by
  simp [bag, canonical_inj]

section Sums

variable {hs : List String}

theorem sumPartRowLtHashes_accepted (h : ∀ x ∈ hs, Accepted x) :
    sumPartRowLtHashes hs = .ok (accumulatorHex (sumOf hs)) := by
  apply LtHash.sum_decoded
  rw [List.forall₂_map_right_iff, List.forall₂_same]
  intro x hx
  exact (h x hx).decode

theorem sumText_accepted (h : ∀ x ∈ hs, Accepted x) : sumText hs = accumulatorHex (sumOf hs) := by
  rw [sumText, sumPartRowLtHashes_accepted h]

theorem sumText_one (ha : Accepted h) : sumText [h] = canonical h := by
  rw [sumText_accepted (by simpa using ha), sumOf_cons, sumOf_nil, add_zero, canonical]

theorem sumText_map_canonical (hs : List String) :
    sumText (hs.map canonical) = accumulatorHex (sumOf hs) := by
  have hall : ∀ x ∈ hs.map canonical, Accepted x := by
    intro x hx
    obtain ⟨h, -, rfl⟩ := List.mem_map.mp hx
    exact canonical_accepted h
  rw [sumText_accepted hall, sumOf_map_canonical]

theorem canonicalList_accepted (h : ∀ x ∈ hs, Accepted x) (what : String) :
    canonicalList what hs = .ok (hs.map canonical) := by
  have hmap : hs.map (fun h => sumText [h]) = hs.map canonical :=
    List.map_congr_left fun x hx => sumText_one (h x hx)
  simp [canonicalList, sumPartRowLtHashes_accepted h, hmap]

theorem canonicalOne_accepted (ha : Accepted h) (what : String) :
    canonicalOne what h = .ok (canonical h) := by
  have hone : ∀ x ∈ [h], Accepted x := by simpa using ha
  simp [canonicalOne, canonicalList_accepted hone, Except.map]

end Sums

/-! ## Plans and closure -/

variable {manifest held kept : List String} {root : String}

omit [LtHash] in
theorem planOf_diverged : (PlanOf root manifest held).diverged = true ↔ ¬ held.Subperm manifest := by
  rw [← Bag.takeAll_isSome, PlanOf]
  cases Bag.takeAll manifest held <;> simp

omit [LtHash] in
/-- A plan that does not diverge completes the partition to what the manifest lists. -/
theorem planOf_perm (h : (PlanOf root manifest held).diverged = false) :
    manifest.Perm (held ++ (PlanOf root manifest held).need) := by
  unfold PlanOf at h ⊢
  split at h
  · cases h
  next left hleft =>
  have hperm := Bag.takeAll_perm hleft
  have hsub : left.Subperm (manifest.map id) := by
    simpa using (List.sublist_append_right held left).subperm.trans hperm.symm.subperm
  have hpick := Bag.pickBy_perm hsub
  rw [List.map_id] at hpick
  refine hperm.trans (List.Perm.append_left held ?_)
  exact hpick.symm.trans (List.perm_insertionSort _ _).symm

section

variable {p : Plan} (hm : ∀ x ∈ manifest, Accepted x) (hl : ∀ x ∈ held, Accepted x)
  (hr : Accepted root) (hsum : accOf root = sumOf manifest)
  (hplan : planPartition manifest root held = .ok p) (hp : p.diverged = false)
include hm hl hr hsum

/-- With a matching root the gate plans over canonical texts. -/
theorem planPartition_ok : planPartition manifest root held =
    .ok (PlanOf (canonical root) (manifest.map canonical) (held.map canonical)) := by
  have hroot : accumulatorHex (sumOf manifest) = canonical root := by
    rw [canonical, hsum]
  simp [planPartition, canonicalList_accepted hm, canonicalList_accepted hl,
    canonicalOne_accepted hr, sumText_map_canonical, hroot, bind, Except.bind, pure, Except.pure]

include hplan

theorem planPartition_diverged : p.diverged = true ↔ ¬ bag held ≤ bag manifest := by
  rw [planPartition_ok hm hl hr hsum, Except.ok.injEq] at hplan
  rw [← hplan, planOf_diverged, subperm_canonical]

include hp

theorem planPartition_canonical : ∀ x ∈ p.need, Canonical x := by
  rw [planPartition_ok hm hl hr hsum, Except.ok.injEq] at hplan
  subst hplan
  intro x hx
  have hmem := (planOf_perm hp).symm.subset (List.mem_append_right _ hx)
  obtain ⟨h, -, rfl⟩ := List.mem_map.mp hmem
  exact ⟨_, rfl⟩

/-- What is held and what is needed make up the manifest. -/
theorem planPartition_need : bag manifest = bag held + bag p.need := by
  rw [planPartition_ok hm hl hr hsum, Except.ok.injEq] at hplan
  subst hplan
  simpa using bag_perm (planOf_perm hp)

end

/-- A partition closes just when its parts sum to its root. -/
theorem closure_iff (hl : ∀ x ∈ held, Accepted x) (hk : ∀ x ∈ kept, Accepted x)
    (hr : Accepted root) : closure root held kept = .ok () ↔ accOf root = sumOf held + sumOf kept := by
  have htotal : sumText (held.map canonical ++ kept.map canonical) =
      accumulatorHex (sumOf held + sumOf kept) := by
    rw [← List.map_append, sumText_map_canonical]
    simp [sumOf]
  simp only [closure, canonicalList_accepted hl, canonicalList_accepted hk,
    canonicalOne_accepted hr, htotal, bind, Except.bind]
  split
  · next hne =>
    refine ⟨nofun, fun heq => absurd ?_ hne⟩
    rw [canonical, heq]
  · next heq => exact ⟨fun _ => (accumulatorHex_injective (not_not.mp heq)).symm, fun _ => rfl⟩

/-! ## Classifications -/

variable {need : List String} {scratch : List ScratchPart}

/-- A part under its canonical hash. -/
def ScratchPart.canonical (p : ScratchPart) : ScratchPart :=
  { p with rowLtHash := Gate.canonical p.rowLtHash }

theorem canonicalParts_accepted (h : ∀ p ∈ scratch, Accepted p.rowLtHash) :
    canonicalParts scratch = .ok (scratch.map ScratchPart.canonical) := by
  have hzip : ∀ parts : List ScratchPart,
      (parts.zip ((parts.map (·.rowLtHash)).map canonical)).map
        (fun p => { p.1 with rowLtHash := p.2 }) = parts.map ScratchPart.canonical := by
    intro parts
    induction parts with
    | nil => rfl
    | cons p parts ih => simpa [ScratchPart.canonical] using ih
  rw [canonicalParts, canonicalList_accepted (by simpa using h)]
  simp only [Except.map, hzip]

/-- What a classification keeps is some of the scratch, each part for one need. -/
structure Keeps (need : List String) (scratch : List ScratchPart) (cls : Classification)
    (kept : List ScratchPart) : Prop where
  sublist : kept.Sublist scratch
  keep : cls.keep = kept.map (·.name)
  texts : cls.kept = kept.map fun p => canonical p.rowLtHash
  needed : bag (kept.map (·.rowLtHash)) ≤ bag need

theorem Keeps.none {cls : Classification} (hkeep : cls.keep = []) (hkept : cls.kept = []) :
    Keeps need scratch cls [] :=
  ⟨List.nil_sublist _, hkeep, hkept, Multiset.zero_le _⟩

theorem classifyRestore_keeps (need : List String) (scratch : List ScratchPart) :
    ∃ kept, Keeps need scratch
      (classifyRestore (need.map canonical) (scratch.map ScratchPart.canonical)) kept := by
  obtain ⟨kept, hsub, hkept⟩ := List.sublist_map_iff.mp
    (Bag.pickBy_sublist ScratchPart.rowLtHash (scratch.map ScratchPart.canonical) (need.map canonical))
  refine ⟨kept, hsub, ?_, ?_, ?_⟩
  · simp [classifyRestore, hkept, ScratchPart.canonical]
  · simp [classifyRestore, hkept, ScratchPart.canonical]
  have hneed := Bag.pickBy_subperm ScratchPart.rowLtHash (scratch.map ScratchPart.canonical)
    (need.map canonical)
  rw [hkept, List.map_map] at hneed
  exact subperm_canonical.mp (by simpa [Function.comp_def, ScratchPart.canonical] using hneed)

omit [LtHash] in
/-- A restored scratch is kept or dropped, part by part. -/
theorem classifyRestore_partition (need : List String) (scratch : List ScratchPart) :
    ((classifyRestore need scratch).keep ++ (classifyRestore need scratch).drop).Perm
      (scratch.map (·.name)) := by
  simp only [classifyRestore]
  rw [← List.map_append]
  exact (Bag.pickBy_append_leaveBy ScratchPart.rowLtHash scratch need).map _

/-! ### Pulls -/

section Pulls

variable {single : Expected}

/-- The number of rows of a scratch. -/
def rowsOf (parts : List ScratchPart) : Nat := (parts.map (·.rows)).sum

/-- The accumulator of the rows of a scratch. -/
def accOfParts (parts : List ScratchPart) : Acc := sumOf (parts.map (·.rowLtHash))

/-- The scratch is the expected part, which is still needed. -/
def Expected.Alone (single : Expected) (need : List String) (parts : List ScratchPart) : Prop :=
  parts.map (fun p => (accOf p.rowLtHash, p.rows)) = [(accOf single.rowLtHash, single.rows)] ∧
    accOf single.rowLtHash ∈ bag need

/-- Two or more parts together are the expected part. -/
def Expected.InPieces (single : Expected) (parts : List ScratchPart) : Prop :=
  2 ≤ parts.length ∧ accOfParts parts = accOf single.rowLtHash ∧ rowsOf parts = single.rows

/-- The parts are the expected part added to itself. -/
def Expected.Twice (single : Expected) (parts : List ScratchPart) : Prop :=
  accOfParts parts = accOf single.rowLtHash + accOf single.rowLtHash ∧
    rowsOf parts = 2 * single.rows

/-- What each outcome of a pull says about the scratch. -/
def Expected.Stated (single : Expected) (need : List String) (parts : List ScratchPart) :
    Outcome → Prop
  | .renameRace => rowsOf parts = 0
  | .kept => single.Alone need parts
  | .split => single.InPieces parts
  | .doubled => single.Twice parts
  | .foreign => rowsOf parts ≠ 0 ∧ ¬ single.Alone need parts ∧ ¬ single.InPieces parts ∧
      ¬ single.Twice parts

theorem Expected.Alone.rows (h : single.Alone need scratch) :
    scratch.length = 1 ∧ rowsOf scratch = single.rows := by
  have hrows : scratch.map (·.rows) = [single.rows] := by
    simpa [Function.comp_def] using congrArg (List.map (·.2)) h.1
  exact ⟨by simpa using congrArg List.length hrows, by simp [rowsOf, hrows]⟩

theorem Expected.Alone.not_inPieces (h : single.Alone need scratch) : ¬ single.InPieces scratch :=
  fun hp => by simpa [h.rows.1] using hp.1

theorem Expected.Alone.not_twice (h : single.Alone need scratch) (hrows : rowsOf scratch ≠ 0) :
    ¬ single.Twice scratch := by
  have hone := h.rows.2
  rintro ⟨-, htwo⟩
  omega

theorem Expected.InPieces.not_twice (h : single.InPieces scratch) (hrows : rowsOf scratch ≠ 0) :
    ¬ single.Twice scratch := by
  have hone := h.2.2
  rintro ⟨-, htwo⟩
  omega

open Classical in
/-- A pull in terms of accumulators, when no row count wraps. -/
theorem classifyPull_eq (hrows : rowsOf scratch < 2 ^ 63) (hsingle : single.rows < 2 ^ 63) :
    classifyPull (need.map canonical) ⟨canonical single.rowLtHash, single.rows⟩
        (scratch.map ScratchPart.canonical) =
      if rowsOf scratch = 0 then ⟨.renameRace, [], scratch.map (·.name), []⟩
      else if single.Alone need scratch then
        ⟨.kept, scratch.map (·.name), [], [canonical single.rowLtHash]⟩
      else if single.InPieces scratch then ⟨.split, [], scratch.map (·.name), []⟩
      else if single.Twice scratch then ⟨.doubled, [], scratch.map (·.name), []⟩
      else ⟨.foreign, [], [], []⟩ := by
  have hsum : ((scratch.map ScratchPart.canonical).map (·.rows)).sum % 2 ^ 64 = rowsOf scratch := by
    rw [List.map_map]
    exact Nat.mod_eq_of_lt (lt_trans hrows (by decide))
  have htwo : 2 * single.rows % 2 ^ 64 = 2 * single.rows := Nat.mod_eq_of_lt (by omega)
  have hnames : (scratch.map ScratchPart.canonical).map (·.name) = scratch.map (·.name) := by
    simp [ScratchPart.canonical]
  have htotal : sumText ((scratch.map ScratchPart.canonical).map (·.rowLtHash)) =
      accumulatorHex (accOfParts scratch) := by
    rw [accOfParts, ← sumText_map_canonical]
    simp [ScratchPart.canonical, Function.comp_def]
  have hdouble : sumText [canonical single.rowLtHash, canonical single.rowLtHash] =
      accumulatorHex (accOf single.rowLtHash + accOf single.rowLtHash) := by
    simpa using sumText_map_canonical [single.rowLtHash, single.rowLtHash]
  have hinj : Function.Injective accumulatorHex := fun _ _ => accumulatorHex_injective
  have hsame : accumulatorHex (accOfParts scratch) = canonical single.rowLtHash ↔
      accOfParts scratch = accOf single.rowLtHash := hinj.eq_iff
  have hparts : (scratch.map ScratchPart.canonical).map (fun p => (p.rowLtHash, p.rows)) =
      [(canonical single.rowLtHash, single.rows)] ↔
      scratch.map (fun p => (accOf p.rowLtHash, p.rows)) =
        [(accOf single.rowLtHash, single.rows)] := by
    have hpair := (List.map_injective_iff.mpr (hinj.prodMap (Function.injective_id (α := Nat)))).eq_iff
      (a := scratch.map fun p => (accOf p.rowLtHash, p.rows))
      (b := [(accOf single.rowLtHash, single.rows)])
    simpa [canonical, ScratchPart.canonical, Function.comp_def] using hpair
  simp only [classifyPull, hsum, htwo, hnames, htotal, hdouble, hparts, hsame, hinj.eq_iff,
    mem_map_canonical, List.length_map, Expected.Alone, Expected.InPieces, Expected.Twice]
  congr

/-- Each outcome is answered just when what it says holds, the lack of rows first. -/
theorem classifyPull_outcome (hrows : rowsOf scratch < 2 ^ 63) (hsingle : single.rows < 2 ^ 63)
    (o : Outcome) :
    (classifyPull (need.map canonical) ⟨canonical single.rowLtHash, single.rows⟩
      (scratch.map ScratchPart.canonical)).outcome = o ↔
      single.Stated need scratch o ∧ (rowsOf scratch = 0 → o = .renameRace) := by
  rw [classifyPull_eq hrows hsingle]
  by_cases hzero : rowsOf scratch = 0
  · rw [if_pos hzero]
    exact ⟨fun h => h ▸ ⟨hzero, fun _ => rfl⟩, fun h => (h.2 hzero).symm⟩
  rw [if_neg hzero]
  by_cases halone : single.Alone need scratch
  · have hpieces := halone.not_inPieces
    have htwice := halone.not_twice hzero
    cases o <;> simp [Expected.Stated, halone, hpieces, htwice, hzero]
  · by_cases hpieces : single.InPieces scratch
    · have htwice := hpieces.not_twice hzero
      cases o <;> simp [Expected.Stated, halone, hpieces, htwice, hzero]
    · by_cases htwice : single.Twice scratch <;>
        cases o <;> simp [Expected.Stated, halone, hpieces, htwice, hzero]

theorem classifyPull_keeps (need : List String) (single : Expected) (scratch : List ScratchPart) :
    ∃ kept, Keeps need scratch (classifyPull (need.map canonical)
      ⟨canonical single.rowLtHash, single.rows⟩ (scratch.map ScratchPart.canonical)) kept := by
  unfold classifyPull
  dsimp only
  split
  · exact ⟨[], .none rfl rfl⟩
  split
  · next hone =>
    rw [List.map_map] at hone
    obtain ⟨p, rfl, hp⟩ := List.map_eq_singleton_iff.mp hone.1
    have hhash : canonical p.rowLtHash = canonical single.rowLtHash := congrArg Prod.fst hp
    refine ⟨[p], .refl _, rfl, by simp [hhash], ?_⟩
    have hmem := mem_map_canonical.mp hone.2
    simpa [bag, canonical_inj.mp hhash] using hmem
  · split
    · exact ⟨[], .none rfl rfl⟩
    · split <;> exact ⟨[], .none rfl rfl⟩

/-- The closing case of a pull leaves the scratch as it is. -/
theorem classifyPull_foreign (h : (classifyPull need single scratch).outcome = .foreign) :
    (classifyPull need single scratch).keep = [] ∧ (classifyPull need single scratch).drop = [] ∧
      (classifyPull need single scratch).kept = [] := by
  unfold classifyPull at h ⊢
  dsimp only at h ⊢
  split_ifs at h ⊢
  exact ⟨rfl, rfl, rfl⟩

end Pulls

/-! ### Every fetch -/

/-- A scratch whose hashes, and that of the part it was pulled for, parse. -/
structure Fetch.Accepted (f : Fetch) (scratch : List ScratchPart) : Prop where
  need : ∀ x ∈ f.need, Gate.Accepted x
  parts : ∀ p ∈ scratch, Gate.Accepted p.rowLtHash
  single : ∀ e ∈ f.single, Gate.Accepted e.rowLtHash

variable {f : Fetch}

theorem classify_restore (h : f.Accepted scratch) (hnone : f.single = none) :
    classify f scratch =
      .ok (classifyRestore (f.need.map canonical) (scratch.map ScratchPart.canonical)) := by
  simp [classify, canonicalList_accepted h.need, canonicalParts_accepted h.parts, hnone, bind,
    Except.bind, pure, Except.pure]

theorem classify_pull (h : f.Accepted scratch) {e : Expected} (he : f.single = some e) :
    classify f scratch = .ok (classifyPull (f.need.map canonical) ⟨canonical e.rowLtHash, e.rows⟩
      (scratch.map ScratchPart.canonical)) := by
  simp [classify, canonicalList_accepted h.need, canonicalParts_accepted h.parts, he,
    canonicalOne_accepted (h.single e he), bind, Except.bind, pure, Except.pure]

theorem classify_keeps (h : f.Accepted scratch) :
    ∃ cls, classify f scratch = .ok cls ∧ ∃ kept, Keeps f.need scratch cls kept := by
  cases hs : f.single with
  | none => exact ⟨_, classify_restore h hs, classifyRestore_keeps f.need scratch⟩
  | some e => exact ⟨_, classify_pull h hs, classifyPull_keeps f.need e scratch⟩

end ArbiterCore.Install.Gate
