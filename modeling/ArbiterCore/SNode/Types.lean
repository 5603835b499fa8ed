-- SUMMARY: Errors, row-hash accumulators and the commands and acknowledgements of the storage node.
import Mathlib.Algebra.BigOperators.Group.List.Basic
import ArbiterCore.Base.Checked
import ArbiterCore.Base.GoMap

/-!
# Types of the storage node

The canonical command and acknowledgement types (`types.go`), the errors the
code distinguishes, and LtHash accumulators with their textual form.
-/

namespace ArbiterCore

/-! ## Errors -/

/-- What `errors.Is` and `errors.As` tell apart in the modelled code. -/
inductive ErrKind where
  | plain
  /-- A ClickHouse exception with code `NO_SUCH_DATA_PART`. -/
  | noSuchDataPart
  /-- A ClickHouse exception with code `UNKNOWN_TABLE`. -/
  | unknownTable
  /-- A gRPC status with code `InvalidArgument`. -/
  | invalidArgument
  | promoteTableMissing
  | owedAckNotCleared
  | encodingNotSupported
  | payloadMismatchPreWrite
  | payloadMismatchPostRecord
  | schemaHashMismatch
  | schemaUnknown
  | notPrepared
  | convergenceForeignRows
  | backpressure
  | rebuildJournalBehind
  | rebuildIntentPending
  deriving DecidableEq

/-- The text of a sentinel error. -/
def ErrKind.text : ErrKind → String
  | .encodingNotSupported => "snode: payload encoding not supported"
  | .payloadMismatchPreWrite =>
    "snode: payload does not match envelope (proved before any unsafe write)"
  | .payloadMismatchPostRecord =>
    "snode: payload does not match envelope (a durable record already exists)"
  | .schemaHashMismatch => "snode: envelope schema_hash does not match this source's declared schema"
  | .schemaUnknown => "snode: unknown target table"
  | .notPrepared => "snode: statement has no prepared unsafe write"
  | .convergenceForeignRows =>
    "snode: foreign row ids in candidate part; operator intervention required"
  | .backpressure => "snode: back-pressure: hg_unsafe partition at hard parts limit"
  | _ => ""

/-- A Go error: the kind that survives wrapping with `%w`, and its text. -/
structure GoError where
  kind : ErrKind
  text : String
  deriving DecidableEq

/-- `fmt.Errorf` without a wrapped error. -/
def errorf (text : String) : GoError := ⟨.plain, text⟩

/-- `fmt.Errorf("<context>: %w", sentinel)`. -/
def sentinel (kind : ErrKind) (context : String) : GoError := ⟨kind, context ++ ": " ++ kind.text⟩

/-- `fmt.Errorf("<context>: %w", err)`. -/
def GoError.wrap (context : String) (e : GoError) : GoError := ⟨e.kind, context ++ ": " ++ e.text⟩

/-! ## LtHash accumulators -/

/-- LtHash (an external library): accumulators form a commutative group, and
    their textual form decodes to them. Other spellings may decode as well. -/
class LtHash where
  Acc : Type
  [group : AddCommGroup Acc]
  [decEq : DecidableEq Acc]
  /-- Decodes a non-empty text: an optional `0x`, then the bytes in hex. -/
  decode : String → Except GoError Acc
  /-- `0x` and the bytes in lowercase hex. -/
  encode : Acc → String
  decode_encode : ∀ a, decode (encode a) = .ok a
  encode_ne_empty : ∀ a, encode a ≠ ""
  /-- `payloadexec.SumPartRowLtHashes`, also external: the text of the sum. It reads
      strictly, so the empty text is refused. -/
  sumPartRowLtHashes : List String → Except GoError String
  sum_decoded : ∀ hs as, List.Forall₂ (fun h a => h ≠ "" ∧ decode h = .ok a) hs as →
    sumPartRowLtHashes hs = .ok (encode as.sum)
  sum_strict : ∀ hs h, h ∈ hs → (h = "" ∨ ∃ e, decode h = .error e) →
    ∃ e, sumPartRowLtHashes hs = .error e

attribute [reducible, instance] LtHash.group LtHash.decEq

section Accumulators

variable [LtHash]

open LtHash (Acc)

def parseAccumulatorHex (s : String) : Except GoError Acc :=
  if s = "" then .ok 0 else LtHash.decode s

def accumulatorHex (a : Acc) : String := LtHash.encode a

/-- The accumulator a text stands for; zero for a text that is none. -/
def accOf (s : String) : Acc :=
  match parseAccumulatorHex s with
  | .ok a => a
  | .error _ => 0

/-- Adds the accumulators of the texts `hs` to `acc`. -/
def addHashes (acc : Acc) : List String → Except GoError Acc
  | [] => .ok acc
  | h :: hs => do
    let part ← parseAccumulatorHex h
    addHashes (acc + part) hs

/-- Subtracts the accumulators of the texts `hs` from `acc`. -/
def subHashes (acc : Acc) : List String → Except GoError Acc
  | [] => .ok acc
  | h :: hs => do
    let part ← parseAccumulatorHex h
    subHashes (acc - part) hs

/-- The sum of the accumulators of a list of texts. -/
def sumOf (hs : List String) : Acc := (hs.map accOf).sum

def lthashCombineHexAll (baseHex : String) (partHexes : List String) : Except GoError String := do
  let acc ← parseAccumulatorHex baseHex
  let acc ← addHashes acc partHexes
  return accumulatorHex acc

@[simp] theorem parseAccumulatorHex_accumulatorHex (a : Acc) :
    parseAccumulatorHex (accumulatorHex a) = .ok a := by
  rw [parseAccumulatorHex, accumulatorHex, if_neg (LtHash.encode_ne_empty a), LtHash.decode_encode]

@[simp] theorem accOf_accumulatorHex (a : Acc) : accOf (accumulatorHex a) = a := by
  simp [accOf]

@[simp] theorem accOf_empty : accOf "" = 0 := by
  simp [accOf, parseAccumulatorHex]

theorem accOf_of_parse {s : String} {a : Acc} (h : parseAccumulatorHex s = .ok a) :
    accOf s = a := by
  rw [accOf, h]

theorem accumulatorHex_injective {a b : Acc} (h : accumulatorHex a = accumulatorHex b) : a = b := by
  rw [← accOf_accumulatorHex a, h, accOf_accumulatorHex]

theorem accumulatorHex_ne_empty (a : Acc) : accumulatorHex a ≠ "" := LtHash.encode_ne_empty a

@[simp] theorem sumOf_nil : sumOf [] = 0 := rfl

@[simp] theorem sumOf_cons (h : String) (hs : List String) :
    sumOf (h :: hs) = accOf h + sumOf hs := rfl

theorem addHashes_ok {acc a : Acc} {hs : List String} (h : addHashes acc hs = .ok a) :
    a = acc + sumOf hs := by
  induction hs generalizing acc with
  | nil =>
    simp only [addHashes, Except.ok.injEq] at h
    simp [h]
  | cons x hs ih =>
    obtain ⟨p, hx, hrest⟩ := Except.bind_eq_ok.mp h
    rw [ih hrest, sumOf_cons, accOf_of_parse hx, add_assoc]

theorem subHashes_ok {acc a : Acc} {hs : List String} (h : subHashes acc hs = .ok a) :
    a = acc - sumOf hs := by
  induction hs generalizing acc with
  | nil =>
    simp only [subHashes, Except.ok.injEq] at h
    simp [h]
  | cons x hs ih =>
    obtain ⟨p, hx, hrest⟩ := Except.bind_eq_ok.mp h
    rw [ih hrest, sumOf_cons, accOf_of_parse hx, sub_sub]

/-- A combined root is the text of base plus the parts. -/
theorem lthashCombineHexAll_ok {base post : String} {hs : List String}
    (h : lthashCombineHexAll base hs = .ok post) :
    post = accumulatorHex (accOf base + sumOf hs) := by
  simp only [lthashCombineHexAll, Except.bind_eq_ok, Except.pure_eq_ok] at h
  obtain ⟨b, hb, a, ha, rfl⟩ := h
  rw [addHashes_ok ha, accOf_of_parse hb]

end Accumulators

/-! ## Commands and acknowledgements -/

/-- One partition of one table; the sources join the two ids with a NUL byte,
    which neither contains. -/
structure PartitionKey where
  table : String
  partition : String
  deriving DecidableEq

structure PartRef where
  tableID : String
  partitionID : String
  partRowLtHash : String
  partName : String
  deriving DecidableEq

/-- The promotion command. -/
structure PromoteSafePartition where
  tableID : String
  partitionID : String
  promotionSeq : Nat
  baseSafeSnapshotID : String
  basePartitionRoot : String
  candidateParts : List PartRef
  deriving DecidableEq

def PromoteSafePartition.key (cmd : PromoteSafePartition) : PartitionKey :=
  ⟨cmd.tableID, cmd.partitionID⟩

/-- The cleanup command. `rejectedBlockSeq` is non-zero only for a rejected-part
    cleanup, which carries no promotion. -/
structure UnsafeCleanup where
  tableID : String
  partitionID : String
  promotionSeq : Nat
  parts : List PartRef
  rejectedBlockSeq : Nat
  deriving DecidableEq

def UnsafeCleanup.key (cmd : UnsafeCleanup) : PartitionKey := ⟨cmd.tableID, cmd.partitionID⟩

/-- Where a promoted part landed in hg_safe. -/
structure SafePartMapping where
  partRowLtHash : String
  safePartName : String
  partPhysHash : String
  deriving DecidableEq

structure PromotionAck where
  nodeID : String
  promotionSeq : Nat
  tableID : String
  partitionID : String
  postPartitionCommitment : String
  parts : List SafePartMapping
  safePartitionParts : List SafePartMapping
  applied : Bool
  detail : String
  deriving DecidableEq

def PromotionAck.key (ack : PromotionAck) : PartitionKey := ⟨ack.tableID, ack.partitionID⟩

structure CleanupAck where
  nodeID : String
  promotionSeq : Nat
  tableID : String
  partitionID : String
  rejectedBlockSeq : Nat
  deriving DecidableEq

end ArbiterCore
