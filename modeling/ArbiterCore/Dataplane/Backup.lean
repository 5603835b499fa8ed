-- SUMMARY: Full and incremental backups of an owner's hg_safe, with their index (dataplane/objstore).
import ArbiterCore.Registry.Snapshot
import ArbiterCore.SNode.World

/-!
# Backups

`Backuper.run` takes one backup of hg_safe into the prefix of its owner: a full one that
starts a chain, or an incremental one on the latest. The backup's name is the time at
which it started. Once the BACKUP has finished, an index object is written beside it, and
the index objects are all that a later run knows of the chain.

BACKUP runs with ASYNC: the statement returns when the server has accepted the operation,
and the server goes on with it whatever becomes of the client.
-/

namespace ArbiterCore.Backup

open Conc Registry

/-! ## Names -/

inductive BackupKind where
  | full | incremental
  deriving DecidableEq

def BackupKind.text : BackupKind → String
  | .full => "full"
  | .incremental => "incr"

/-- A reading of the clock, in UTC. -/
structure UTC where
  year : Int
  month : Nat
  day : Nat
  hour : Nat
  minute : Nat
  second : Nat
  deriving DecidableEq

/-- The digits of `n`, at least `width` of them. -/
def padded (width n : Nat) : String :=
  String.ofList (List.replicate (width - (toString n).length) '0') ++ toString n

def UTC.yearText (t : UTC) : String :=
  if t.year < 0 then "-" ++ padded 4 t.year.natAbs else padded 4 t.year.natAbs

/-- The layout 20060102T150405Z. -/
def UTC.compact (t : UTC) : String :=
  t.yearText ++ padded 2 t.month ++ padded 2 t.day ++ "T" ++
    padded 2 t.hour ++ padded 2 t.minute ++ padded 2 t.second ++ "Z"

def UTC.rfc3339 (t : UTC) : String :=
  t.yearText ++ "-" ++ padded 2 t.month ++ "-" ++ padded 2 t.day ++ "T" ++
    padded 2 t.hour ++ ":" ++ padded 2 t.minute ++ ":" ++ padded 2 t.second ++ "Z"

def backupName (at_ : UTC) (kind : BackupKind) : String := at_.compact ++ "-" ++ kind.text

/-- Refuses a name that `backupName` cannot produce for a year of four digits. -/
def checkBackupName (name : String) : Except String Unit :=
  let cs := name.toList
  if (cs.take 8).all Char.isDigit ∧ cs[8]? = some 'T' ∧ ((cs.drop 9).take 6).all Char.isDigit ∧
      (cs.drop 15 = "Z-full".toList ∨ cs.drop 15 = "Z-incr".toList) then .ok ()
  else .error ("objstore: backup name \"" ++ name ++ "\" must be <yyyymmddThhmmssZ>-<full|incr>")

def ownerPrefix (owner : Nat) : String := "owner-" ++ toString owner ++ "/"

def backupIndexFormat : String := "si-backup-index-v1"

def indexSuffix : String := ".index.json"

/-! ## Index objects -/

structure BackupIndexPart where
  name : String
  partitionID : String
  physHash : String
  rows : Nat
  deriving DecidableEq

structure BackupIndexTable where
  physicalTable : String
  tableID : String
  incarnationSeq : Nat
  parts : List BackupIndexPart
  deriving DecidableEq

structure BackupIndex where
  format : String
  networkID : String
  ownerIndexerID : Nat
  name : String
  kind : BackupKind
  base : String
  chainLength : Nat
  startedAt : String
  finishedAt : String
  snapshotID : String
  entry : TrackFrontier
  tables : List BackupIndexTable
  deriving DecidableEq

/-- Decodes one index object: another format, another owner or a name that is not the
    object's own refuses it. -/
def decodeIndex (file : String) (owner : Nat) (idx : BackupIndex) : Except String BackupIndex :=
  let refuse := fun e => Except.error s!"objstore: index {file} is not a {backupIndexFormat} object: {e}"
  if idx.format ≠ backupIndexFormat then refuse ("format \"" ++ idx.format ++ "\"")
  else if idx.ownerIndexerID ≠ owner then
    refuse s!"it names owner {idx.ownerIndexerID} under {ownerPrefix owner}"
  else if idx.name ++ indexSuffix ≠ file then refuse ("it names backup \"" ++ idx.name ++ "\"")
  else
    match checkBackupName idx.name with
    | .error e => refuse e
    | .ok _ => .ok idx

/-! ## Chains -/

def defaultMaxChainLinks : Nat := 7

def maxChainLinksLimit : Nat := 30

/-- The configured chain length. -/
def maxChainLinks (n : Nat) : Except String Nat :=
  if n = 0 then .ok defaultMaxChainLinks
  else if n > maxChainLinksLimit then
    .error s!"objstore: max chain links {n} must be between 1 and 30"
  else .ok n

/-- The kind, base and chain length of the backup after the latest one. -/
def nextBackup (latest : Option BackupIndex) (maxChainLinks : Nat) : BackupKind × String × Nat :=
  match latest with
  | none => (.full, "", 1)
  | some idx =>
    if idx.chainLength ≥ maxChainLinks then (.full, "", 1)
    else (.incremental, idx.name, idx.chainLength + 1)

/-! ## Operations -/

/-- A table of hg_safe as system.tables lists it. -/
structure SafeTable where
  name : String
  comment : String
  partitionKey : String
  deriving DecidableEq

inductive BackupOp : Type → Type where
  | now : BackupOp UTC
  | latestManifest : BackupOp (Except String SafeSnapshotManifest)
  /-- Every index object of the owner with its file name. -/
  | listIndexes : BackupOp (Except String (List (String × BackupIndex)))
  /-- The number of objects below the directory of a backup. -/
  | countObjects (name : String) : BackupOp (Except String Nat)
  | listSafeTables : BackupOp (Except String (List SafeTable))
  | activeParts (table : String) : BackupOp (Except String (List Part))
  /-- BACKUP DATABASE … ASYNC; returns the id of the server's operation. -/
  | startBackup (name base : String) : BackupOp (Except String String)
  /-- The status and the error of the operation in system.backups. -/
  | backupStatus (id name : String) : BackupOp (Except String (String × String))
  /-- The error of the context that has ended. -/
  | contextErr : BackupOp String
  /-- INSERT of an index object; refused when the object exists. -/
  | insertIndex (idx : BackupIndex) : BackupOp (Except String Unit)

abbrev BackupM (α : Type) : Type 1 := Fallible String BackupOp α

/-! ## The backuper -/

structure Backuper where
  connected : Bool
  owner : Nat
  networkID : String
  accessKeyID : String
  secretAccessKey : String
  maxChainLinks : Nat
  deriving DecidableEq

def wrapError (context : String) (e : String) : String := context ++ ": " ++ e

variable (b : Backuper)

def Backuper.checkCredentials : Except String Unit :=
  if b.accessKeyID = "" ∨ b.secretAccessKey = "" then
    .error "objstore: credentials need both an access key id and a secret access key"
  else .ok ()

/-- The accept rule for a manifest that was read by its id. -/
def checkManifest [Replay] (requested : String) (m : SafeSnapshotManifest) : Except String Unit :=
  if m.snapshotID ≠ requested then
    .error s!"objstore: manifest {m.snapshotID} answered for {requested}"
  else if m.snapshotID ≠ m.manifestRoot then
    .error s!"objstore: manifest {m.snapshotID} is not its own root {m.manifestRoot}"
  else
    match Replay.validate m with
    | .error e => .error s!"objstore: manifest {m.snapshotID}: {e}"
    | .ok _ =>
      match Replay.verifyLedger m with
      | .error e => .error s!"objstore: manifest {m.snapshotID}: {e}"
      | .ok _ => .ok ()

def ownerEntry [Replay] (m : SafeSnapshotManifest) (owner : Nat) : Except String TrackFrontier :=
  match Replay.ownerEntry m owner with
  | (entry, true) => .ok entry
  | (_, false) => .error s!"objstore: manifest {m.snapshotID} has no track frontier for indexer {owner}"

/-- Decodes the rows of a listing; the first that is refused stops it. -/
def decodeRows (owner : Nat) : List (String × BackupIndex) → Except String (List BackupIndex)
  | [] => .ok []
  | (file, blob) :: rows => do
    let idx ← decodeIndex file owner blob
    let out ← decodeRows owner rows
    return idx :: out

/-- Every index object of the owner, oldest first. -/
def readIndexes : BackupM (List BackupIndex) := do
  fromExcept b.checkCredentials
  let rows ← mapError (wrapError s!"objstore: read the indexes of indexer {b.owner}") (call .listIndexes)
  let out ← fromExcept (decodeRows b.owner rows)
  return out.insertionSort (·.name ≤ ·.name)

/-- An owner prefix with an index of another network is refused. -/
def checkNetwork (indexes : List BackupIndex) : Except String Unit :=
  match indexes.find? (·.networkID ≠ b.networkID) with
  | some idx => .error (s!"objstore: backup {idx.name} of indexer {b.owner} belongs to network " ++
      "\"" ++ idx.networkID ++ "\", not \"" ++ b.networkID ++ "\"")
  | none => .ok ()

def nameExists (name : String) : String :=
  s!"objstore: backup {name} of indexer {b.owner} exists already; a backup name is never reused"

/-- The name has to sort after the latest backup. -/
def checkOrder (name : String) : Option BackupIndex → Except String Unit
  | none => .ok ()
  | some latest =>
    if name ≤ latest.name then
      if name = latest.name then .error (nameExists b name)
      else .error s!"objstore: backup {name} of indexer {b.owner} sorts before the latest backup {
        latest.name}; the chain is ordered by name, so check the clock"
    else .ok ()

/-- The index entry of a listed table. -/
def tableEntry (listed : List TableManifest) (t : SafeTable) : BackupM BackupIndexTable := do
  let parts ← mapError (wrapError s!"objstore: list the parts of hg_safe.{t.name}")
    (call (.activeParts t.name))
  -- only the partition key decides the logical form of a partition
  let sch : TableSchema := ⟨"", t.partitionKey⟩
  let tableID := ((listed.reverse.find? (chTableName ·.tableID = t.name)).map (·.tableID)).getD ""
  return ⟨t.name, tableID, (parseIncarnationComment t.comment).getD 0,
    parts.map fun p => ⟨p.name, logicalPartitionID sch p, p.physHash, p.rows⟩⟩

def safeTables (listed : List TableManifest) : BackupM (List BackupIndexTable) := do
  let found ← mapError (wrapError "objstore: list the hg_safe tables") (call .listSafeTables)
  found.mapM' (tableEntry listed)

/-- Reads the status of an operation until it is done, it ends otherwise, or the context
    ends after `polls` more readings. -/
def waitDone (id name done : String) : Nat → BackupM Unit
  | 0 => do
    let e ← ask .contextErr
    throw e
  | polls + 1 => do
    let (status, errText) ← mapError (wrapError s!"system.backups row {id}")
      (call (.backupStatus id name))
    if status = done then pure ()
    else if status = "CREATING_BACKUP" ∨ status = "RESTORING" then waitDone id name done polls
    else throw s!"{status} (operation {id}): {errText}"

def runAsync (name base done : String) (polls : Nat) : BackupM Unit := do
  let id ← call (.startBackup name base)
  waitDone id name done polls

/-- Takes the backup of a kind on a base and writes its index; `indexes` are the owner's. -/
def Backuper.take (polls : Nat) (started : UTC) (s : SafeSnapshotManifest)
    (entry : TrackFrontier) (indexes : List BackupIndex) (kind : BackupKind) (base : String)
    (chain : Nat) : BackupM BackupIndex := do
  let name := backupName started kind
  fromExcept (checkOrder b name indexes.getLast?)
  let n ← mapError (wrapError s!"objstore: list backup {name} of indexer {b.owner}")
    (call (.countObjects name))
  if n > 0 ∨ indexes.any (·.name = name) then throw (nameExists b name)
  else do
    let tables ← safeTables s.tables
    mapError (wrapError s!"objstore: backup {name} of indexer {b.owner}")
      (runAsync name base "BACKUP_CREATED" polls)
    let finished ← ask .now
    let idx := ⟨backupIndexFormat, b.networkID, b.owner, name, kind, base, chain,
      started.rfc3339, finished.rfc3339, s.snapshotID, entry, tables⟩
    mapError (wrapError s!"objstore: write the index of backup {name} of indexer {b.owner}")
      (call (.insertIndex idx))
    return idx

/-- Takes the next backup and writes its index. The context ends after `polls` readings of
    the backup's status. -/
def Backuper.run [Replay] (b : Backuper) (polls : Nat) : BackupM BackupIndex := do
  if ¬ b.connected then
    throw "objstore: a Backuper needs a ClickHouse connection and a manifest source"
  else do
    fromExcept b.checkCredentials
    let links ← fromExcept (Backup.maxChainLinks b.maxChainLinks)
    let started ← ask .now
    let s ← call .latestManifest
    fromExcept (checkManifest s.snapshotID s)
    let entry ← fromExcept (ownerEntry s b.owner)
    let indexes ← readIndexes b
    fromExcept (checkNetwork b indexes)
    let (kind, base, chain) := nextBackup indexes.getLast? links
    b.take polls started s entry indexes kind base chain

/-! ## The prefix of an owner -/

/-- The objects of one owner: the index objects in the order of their writes, and the name
    of each BACKUP that has written objects. The `pending` operations are accepted and have
    written nothing yet. -/
structure OwnerPrefix where
  indexes : List BackupIndex
  written : List String
  pending : List String
  deriving DecidableEq

def OwnerPrefix.empty : OwnerPrefix := ⟨[], [], []⟩

/-- The server goes on with a pending operation: it writes its first object, or it fails. -/
inductive ServerStep : OwnerPrefix → OwnerPrefix → Prop where
  | writes (indexes : List BackupIndex) (written l r : List String) (name : String) :
      ServerStep ⟨indexes, written, l ++ name :: r⟩ ⟨indexes, written ++ [name], l ++ r⟩
  | fails (indexes : List BackupIndex) (written l r : List String) (name : String) :
      ServerStep ⟨indexes, written, l ++ name :: r⟩ ⟨indexes, written, l ++ r⟩

/-- The outcome of an operation: its error, whether a failed statement took effect, and the
    answer of a query. -/
structure BackupAnswer where
  err : Option String := none
  effect : Bool := true
  time : UTC := ⟨1970, 1, 1, 0, 0, 0⟩
  manifest : SafeSnapshotManifest := .zero
  indexes : List BackupIndex := []
  count : Nat := 0
  tables : List SafeTable := []
  parts : List Part := []
  text : String := ""
  status : String := "BACKUP_CREATED"

namespace BackupAnswer

def query {β : Type} (a : BackupAnswer) (s : OwnerPrefix) (result : β) :
    Option (Except String β × OwnerPrefix) :=
  match a.err with
  | none => some (.ok result, s)
  | some e => some (.error e, s)

def statement {β : Type} (a : BackupAnswer) (s s' : OwnerPrefix) (result : β) :
    Option (Except String β × OwnerPrefix) :=
  match a.err with
  | none => some (.ok result, s')
  | some e => some (.error e, if a.effect then s' else s)

end BackupAnswer

/-- Answers an operation. Listings are complete, and an index object is never overwritten.
    With `settled`, nobody asks for the objects of a name while a BACKUP of it is pending. -/
def BackupOp.run (settled : Bool) :
    {β : Type} → BackupOp β → BackupAnswer → OwnerPrefix → Option (β × OwnerPrefix)
  | _, .now, a, s => some (a.time, s)
  | _, .latestManifest, a, s => a.query s a.manifest
  | _, .listIndexes, a, s =>
    -- the order of a listing is arbitrary
    if a.indexes.isPerm s.indexes then a.query s (a.indexes.map fun idx => (idx.name ++ indexSuffix, idx))
    else none
  | _, .countObjects name, a, s =>
    if (settled ∧ name ∈ s.pending) ∨ (0 < a.count ↔ name ∉ s.written) then none
    else a.query s a.count
  | _, .listSafeTables, a, s => a.query s a.tables
  | _, .activeParts _, a, s => a.query s a.parts
  | _, .startBackup name _, a, s => a.statement s { s with pending := s.pending ++ [name] } a.text
  | _, .backupStatus _ name, a, s =>
    if a.status = "BACKUP_CREATED" ∧ name ∉ s.written then none else a.query s (a.status, a.text)
  | _, .contextErr, a, s => some (a.text, s)
  | _, .insertIndex idx, a, s =>
    if s.indexes.any (·.name = idx.name) then some (.error a.text, s)
    else a.statement s { s with indexes := s.indexes ++ [idx] } ()

def backupMachine (settled : Bool) : Machine BackupOp OwnerPrefix := ⟨BackupAnswer, BackupOp.run settled⟩

end ArbiterCore.Backup
