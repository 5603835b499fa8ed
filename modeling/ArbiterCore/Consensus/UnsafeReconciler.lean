-- SUMMARY: The verify role and the unsafe reconciler of a member (verify_role.go, unsafe_reconciler.go).
import ArbiterCore.Consensus.QuiescenceExact
import ArbiterCore.Registry.Snapshot

/-!
# The hg_member_unsafe reconciler

The reconciler is a process of its own. It creates the replicas of the groups that
the member is placed in, and drops a replica that it no longer wants once the
ledger file lists no block that names it. The verify role of the main process
observes the tables of a replay job before it uses their replicas. The two share
quiescence.json and ClickHouse only, and each has its own view of the registry.
-/

namespace ArbiterCore.Unsafe

open Conc Quiescence Registry

/-! ## Replicas -/

/-- One table of hg_member_unsafe, as system.tables shows it. -/
structure LocalReplica where
  name : String
  comment : String
  engineFull : String
  deriving DecidableEq

structure ReconcilerConfig where
  nodeID : String
  keeperShardID : Nat
  createReplicas : Bool

def quoteLiteral (s : String) : String :=
  let escaped := s.toList.flatMap fun c =>
    if c = '\\' then ['\\', '\\'] else if c = '\'' then ['\\', '\''] else [c]
  "'" ++ String.ofList escaped ++ "'"

/-- How engine_full starts for a replica at a path. -/
def engineHead (path replica : String) : String :=
  "ReplicatedMergeTree(" ++ quoteLiteral path ++ ", " ++ quoteLiteral replica ++ ")"

def startsWith (s head : String) : Bool := head.toList.isPrefixOf s.toList

variable (cfg : ReconcilerConfig) (snap : Snapshot) (inc : TableIncarnation) (job : ReplayJob)

/-- The member is in the group of the incarnation: a current member, or leaving and
    not released. -/
def placed : Bool :=
  match snap.group (snap.owner inc) inc.databaseID with
  | none => false
  | some g => g.members.any (·.nodeID = cfg.nodeID) ||
      g.leaving.any fun l => l.nodeID = cfg.nodeID && !l.released

/-- The replica of the incarnation is wanted. -/
def wanted : Bool :=
  placed cfg snap inc && (inc.status = .pending || inc.status = .active || inc.status = .retiring)

def keeperPath : String :=
  zooKeeperPathFor cfg.keeperShardID inc.key (.of inc)

/-- The replica is at the Keeper path of the incarnation, under the name of the node. -/
def atPath (l : LocalReplica) : Bool :=
  startsWith l.engineFull (engineHead (keeperPath cfg inc) cfg.nodeID)

/-- The replica that a CREATE makes. -/
def replicaOf : LocalReplica :=
  ⟨chTableName inc.key, incarnationComment inc.seq, engineHead (keeperPath cfg inc) cfg.nodeID⟩

/-! ## The world of the member -/

/-- A DROP of the replica of an incarnation, with the view that it was decided in. -/
structure Drop where
  name : String
  inc : TableIncarnation
  view : Snapshot

/-- `stopped` lists the incarnations whose create found the replica name taken. The
    view of a pass that has read the ledger file (`pass`) and the DROP statements
    (`drops`) are histories that no code reads. -/
structure MemberWorld where
  ledger : LedgerWorld
  tables : List LocalReplica
  stopped : List (String × Nat)
  pass : Option Snapshot
  drops : List Drop

/-- What the verify role does besides the ledger. -/
inductive Evidence where
  | verifyTable (key : String) (seq : Nat)
  | replay
  | scan
  | submit

inductive TableOp : Type → Type where
  /-- The view of the registry, if it is enabled. -/
  | view : TableOp (Option Snapshot)
  | listLocal : TableOp (Except String (List LocalReplica))
  | purgeNodeSet : TableOp (Except String (List String))
  | readQuiescence (view : Snapshot) : TableOp (Except String (List QuiescenceBlock))
  | isStopped (key : String) (seq : Nat) : TableOp Bool
  | create (cfg : ReconcilerConfig) (inc : TableIncarnation) : TableOp (Except String Unit)
  | drop (d : Drop) : TableOp (Except String Unit)
  | evidence (what : Evidence) : TableOp (Except String Unit)

/-- The operations of the ledger and those on the tables. -/
abbrev MemberOp (β : Type) : Type := LedgerOp β ⊕ TableOp β

/-- A statement that fails may have been executed (`applied`). -/
inductive MemberAnswer where
  | ledger (a : LedgerAnswer)
  | view (snap : Option Snapshot)
  | listed (failure : Option String)
  | nodes (r : Except String (List String))
  | file (failure : Option String)
  | executed
  | failed (applied : Bool) (err : String)
  | replicaExists (err : String)
  | evidence (r : Except String Unit)
  | here

namespace MemberWorld

/-- CREATE TABLE IF NOT EXISTS. -/
def createTable (w : MemberWorld) (l : LocalReplica) : MemberWorld :=
  if w.tables.any (·.name = l.name) then w else { w with tables := w.tables ++ [l] }

/-- DROP TABLE IF EXISTS. -/
def dropTable (w : MemberWorld) (name : String) : MemberWorld :=
  { w with tables := w.tables.filter (·.name ≠ name) }

end MemberWorld

/-- The answer of a read that may fail. -/
def orFail {α : Type} (r : Except String α) : Option String → Except String α
  | none => r
  | some err => .error err

def TableOp.run : {β : Type} → TableOp β → MemberAnswer → MemberWorld → Option (β × MemberWorld)
  | _, .view, .view snap, w => some (snap, w)
  | _, .listLocal, .listed failure, w => some (orFail (.ok w.tables) failure, w)
  | _, .purgeNodeSet, .nodes r, w => some (r, w)
  | _, .readQuiescence snap, .file failure, w =>
    some (orFail (Quiescence.readQuiescence w.ledger.file) failure, { w with pass := some snap })
  | _, .isStopped key seq, .here, w => some (decide ((key, seq) ∈ w.stopped), w)
  | _, .create cfg inc, .executed, w => some (.ok (), w.createTable (replicaOf cfg inc))
  | _, .create cfg inc, .failed applied err, w =>
    some (.error err, if applied then w.createTable (replicaOf cfg inc) else w)
  | _, .create _ inc, .replicaExists err, w =>
    some (.error err, { w with stopped := (inc.key, inc.seq) :: w.stopped })
  | _, .drop d, .executed, w => some (.ok (), { w.dropTable d.name with drops := w.drops ++ [d] })
  | _, .drop d, .failed applied err, w =>
    some (.error err, { if applied then w.dropTable d.name else w with drops := w.drops ++ [d] })
  | _, .evidence _, .evidence r, w => some (r, w)
  | _, _, _, _ => none

variable (may : MemberWorld → Quiescence.Ledger → Nat → List QuiescentTable → Bool)

/-- What one operation does; `may` restricts the observations of a run. -/
def runOp :
    {β : Type} → MemberOp β → MemberAnswer → MemberWorld → Option (β × MemberWorld)
  | _, .inl op, .ledger a, w =>
    (op.run (fun _ => may w) a w.ledger).map fun r => (r.1, { w with ledger := r.2 })
  | _, .inl _, _, _ => none
  | _, .inr op, a, w => op.run a w

def memberMachine :
    Machine MemberOp MemberWorld := ⟨MemberAnswer, runOp may⟩

abbrev MemberM (α : Type) : Type 1 := Fallible String MemberOp α

/-! ## The reconciler -/

def byNameOf (found : List LocalReplica) : GoMap String LocalReplica :=
  found.foldl (fun m l => m.insert l.name l) .empty

/-- Creates or drops the replica of one incarnation. Returns the replicas by name,
    and the errors. -/
def reconcileOne (createOK : Bool) (ledger : Except String (List QuiescenceBlock)) (inc : TableIncarnation)
    (byName : GoMap String LocalReplica) : MemberM (GoMap String LocalReplica × List String) :=
  let name := chTableName inc.key
  match byName.lookup name with
  | none =>
    let creatable := inc.status = .pending ∨ inc.status = .active
    if ¬ createOK ∨ ¬ placed cfg snap inc ∨ ¬ creatable then pure (byName, [])
    else do
      if ← (ask (.inr (.isStopped inc.key inc.seq)) : MemberM Bool) then pure (byName, [])
      else
        match ← attempt (call (.inr (.create cfg inc))) with
        | .error e => pure (byName, [e])
        | .ok _ => pure (byName.insert name (replicaOf cfg inc), [])
  | some l =>
    -- the name may hold the replica of another incarnation
    if parseIncarnationComment l.comment ≠ some inc.seq then pure (byName, [])
    else if ¬ atPath cfg inc l then pure (byName, [])
    else if wanted cfg snap inc then pure (byName, [])
    else
      match ledger with
      | .error e => pure (byName, [s!"member consensus: keep hg_member_unsafe.{name}: {e}"])
      | .ok blocks =>
        if ¬ quiet blocks inc.key inc.seq then pure (byName, [])
        else do
          match ← attempt (call (.inr (.drop ⟨name, inc, snap⟩))) with
          | .error e => pure (byName, [e])
          | .ok _ => pure (byName.erase name, [])

def reconcileAll (cfg : ReconcilerConfig) (snap : Snapshot) (createOK : Bool)
    (ledger : Except String (List QuiescenceBlock)) :
    List TableIncarnation → GoMap String LocalReplica → List String → MemberM (List String)
  | [], _, errs => pure errs
  | inc :: rest, byName, errs => do
    let (byName, more) ← reconcileOne cfg snap createOK ledger inc byName
    reconcileAll cfg snap createOK ledger rest byName (errs ++ more)

/-- Replicas are created by a node of the purge node set, while the purge switch is on. -/
def createAllowed : MemberM Bool :=
  if cfg.createReplicas ∧ (snap.stage3.any (·.purge)) then do
    let nodes ← mapError (fun e => s!"member consensus: purge node set: {e}") (call (.inr .purgeNodeSet))
    return decide (cfg.nodeID ∈ nodes)
  else return false

/-- One pass. -/
def reconcile : MemberM Unit := do
  match ← (ask (.inr .view) : MemberM _) with
  | none => pure ()
  | some snap => do
    let found ← call (.inr .listLocal)
    let createOK ← createAllowed cfg snap
    let ledger ← ask (.inr (.readQuiescence snap))
    let errs ← reconcileAll cfg snap createOK ledger snap.incarnations (byNameOf found) []
    if errs = [] then pure () else throw ("\n".intercalate errs)

/-! ## The verify role -/

/-- What a replay job names: the targets of its statements and the added tables. -/
structure ReplayJob where
  blockSeq : Nat
  targets : List String
  adds : List String

def jobTables : List String := GoSlice.sortCompact (job.targets ++ job.adds)

/-- The tables of a job at their live incarnations. -/
def liveTables (snap : Snapshot) (blockSeq : Nat) : List String → Except String (List QuiescentTable)
  | [] => .ok []
  | key :: rest =>
    match (snap.live key).filter (·.hasPhysicalTables) with
    | none => .error s!"member consensus: block {blockSeq} names {
      key}, which has no physical incarnation in the table registry"
    | some inc => do return ⟨key, inc.seq⟩ :: (← liveTables snap blockSeq rest)

/-- Runs a program on the live tables of the job, if it has some. -/
def onJobTables (p : List QuiescentTable → MemberM Unit) : MemberM Unit :=
  let keys := jobTables job
  if keys = [] then pure ()
  else do
    match ← (ask (.inr .view) : MemberM _) with
    | none => throw s!"member consensus: block {job.blockSeq}: the table registry is not enabled"
    | some snap => do
      let tables ← fromExcept (liveTables snap job.blockSeq keys)
      p tables

/-- Writes the tables of the job into the ledger. -/
def observeJob : MemberM Unit := onJobTables job fun tables => embed .inl (observe job.blockSeq tables)

/-- The member holds the replicas of all tables of the job. -/
def tablesReady : MemberM Unit :=
  onJobTables job fun tables => tables.forM fun t =>
    call (.inr (.evidence (.verifyTable t.tableID t.incarnationSeq)))

def handleReplayJob : MemberM Unit := do
  observeJob job
  tablesReady job
  call (.inr (.evidence .replay))
  call (.inr (.evidence .submit))

def handleScanRequest : MemberM Unit := do
  call (.inr (.evidence .scan))
  call (.inr (.evidence .submit))

/-! ## The two processes -/

/-- The main process verifies and resolves; the reconciler has one pass at a time. -/
inductive MemberSlot where
  | verify (n : Nat)
  | resolve (n : Nat)
  | reconciler
  deriving DecidableEq

def memberSystem :
    System MemberOp MemberWorld MemberSlot (Except String Unit) where
  machine := memberMachine may
  start i _ p :=
    match i with
    | .verify _ => (∃ job, p = (handleReplayJob job).run) ∨ p = handleScanRequest.run
    | .resolve n => p = (embed .inl (Quiescence.resolve n cfg.nodeID) : MemberM Unit).run
    | .reconciler => p = (reconcile cfg).run
  env _ _ := False
  crash w := { w with ledger := w.ledger.restart, stopped := [], pass := none }
  leave i w :=
    match i with
    | .reconciler => { w with pass := none }
    | _ => w

/-- A member without a ledger file; the names of its replicas are distinct. -/
def MemberStart (w : MemberWorld) : Prop :=
  LedgerFresh w.ledger ∧ (w.tables.map (·.name)).Nodup ∧ w.pass = none ∧ w.drops = []

end ArbiterCore.Unsafe
