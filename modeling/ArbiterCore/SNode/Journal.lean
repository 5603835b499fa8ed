-- SUMMARY: Statements, result claims and the durable intake records (journal.go, types.go, staged.go).
import ArbiterCore.Base.Text
import ArbiterCore.SNode.Types

/-!
# Intake records

One intake record per statement id. Its lifecycle only moves along
`validIntakeTransition`, and a record that reached `rcBound` never leaves it.
-/

namespace ArbiterCore

export Text (Unicode lower)

/-! ## Statements and claims -/

structure StatementID where
  clientAccount : String
  clientSeq : Nat
  clientNonce : String
  clientLane : String
  deriving DecidableEq

/-- The canonical flat statement id. -/
def StatementID.flat [Unicode] (id : StatementID) : String :=
  if id.clientLane = "" then
    lower id.clientAccount ++ ":" ++ toString id.clientSeq ++ ":" ++ id.clientNonce
  else
    lower id.clientAccount ++ ":" ++ id.clientLane ++ ":" ++ toString id.clientSeq ++ ":" ++
      id.clientNonce

/-- The signed envelope. `unread` stands for the fields that only the
    comparison with a recorded envelope reads. -/
structure StatementEnvelope where
  statementID : StatementID
  payloadRef : String
  payloadHash : String
  payloadLength : Nat
  targetTableID : String
  payloadFormat : String
  clientRevision : Nat
  schemaHash : String
  unread : String
  deriving DecidableEq

/-- One hg_unsafe part that the source claims a statement produced. -/
structure CandidatePart where
  tableID : String
  partitionID : String
  partName : String
  partRowLtHash : String
  partPhysHash : String
  rowCount : Nat
  bytes : Nat
  deriving DecidableEq

def CandidatePart.key (p : CandidatePart) : PartitionKey := ⟨p.tableID, p.partitionID⟩

structure PartitionLtHashSum where
  tableID : String
  partitionID : String
  newPartsLtHashSum : String
  deriving DecidableEq

/-- The source's result claim. -/
structure RCRecord where
  statementID : StatementID
  sourceNode : String
  candidateParts : List CandidatePart
  sourceClaimRoot : String
  partitionNewPartSums : List PartitionLtHashSum
  deriving DecidableEq

/-! ## Records -/

inductive Lifecycle where
  | preparing
  | unsafeWritten
  | rcBound
  | abortPending
  | cleaned
  deriving DecidableEq

def Lifecycle.text : Lifecycle → String
  | .preparing => "Preparing"
  | .unsafeWritten => "UnsafeWritten"
  | .rcBound => "RCBound"
  | .abortPending => "AbortPending"
  | .cleaned => "Cleaned"

structure PreparedLocalResult where
  statementID : String
  sourceNode : String
  payloadRef : String
  payloadHash : String
  payloadLength : Nat
  payloadEncoding : String
  revision : Int
  candidateParts : List CandidatePart
  partitionNewPartSums : List PartitionLtHashSum
  sourceClaimRoot : String
  lifecycle : Lifecycle
  deriving DecidableEq

structure IntakeAbort where
  partNames : List String
  reason : String
  deriving DecidableEq

structure IntakeRecord where
  statementID : String
  lifecycle : Lifecycle
  envelope : StatementEnvelope
  payloadEncoding : String
  revision : Int
  touchedPartitions : List String
  preWriteInventory : GoMap String (List String)
  expectedRowCount : Nat
  result : Option PreparedLocalResult
  rc : Option RCRecord
  abort : Option IntakeAbort
  convergeFailed : String
  deriving DecidableEq

def validateIntakeRecord (rec : IntakeRecord) : Except GoError Unit :=
  if rec.statementID = "" then .error (errorf "intake record statement_id is required")
  else
    match rec.lifecycle with
    | .preparing => .ok ()
    | .unsafeWritten | .rcBound =>
      if rec.result = none ∨ rec.rc = none then
        .error (errorf ("intake record in " ++ rec.lifecycle.text ++ " requires result and rc"))
      else .ok ()
    | .abortPending | .cleaned =>
      if rec.abort = none then
        .error (errorf ("intake record in " ++ rec.lifecycle.text ++ " requires abort details"))
      else .ok ()

def validIntakeTransition (src dst : Lifecycle) : Bool :=
  src == dst ||
    match src with
    | .preparing => dst == .unsafeWritten || dst == .abortPending
    | .unsafeWritten => dst == .rcBound || dst == .abortPending
    | .abortPending => dst == .cleaned
    | .cleaned => dst == .preparing
    | .rcBound => false

end ArbiterCore
