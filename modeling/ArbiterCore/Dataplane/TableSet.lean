-- SUMMARY: One pass of the table-set reconciler (dataplane/tableset/reconciler.go, ddl/table.go).
import ArbiterCore.Base.GoSlice
import ArbiterCore.Base.Threads
import ArbiterCore.Registry.Snapshot
import Mathlib.Data.String.Basic

/-!
# The table-set reconciler

A pass compares the hg_unsafe, hg_safe and hg_promote tables of a node with the
registry. It creates the tables of Pending, Active and Retiring incarnations, drops
those of Purging ones, and drops leftovers of keys that hold no tables any more.
The three tables of a key share one physical name, which other keys may have too,
and each table carries a comment that names its incarnation.
-/

namespace ArbiterCore.TableSet

open Conc Registry

/-! ## Attribution -/

inductive ProtocolDB where
  | hgPromote | hgSafe | hgUnsafe
  deriving DecidableEq

/-- One protocol table, as system.tables shows it. -/
structure LocalTable where
  database : ProtocolDB
  table : String
  comment : String
  deriving DecidableEq

variable (cfg : TableSetConfig) (snap : Snapshot)

/-- The incarnation of the key that a comment marks: the marked one, or the genesis
    incarnation of an unmarked table. -/
def ownerOf (key comment : String) : Option Nat :=
  if comment = "" then
    (snap.incarnations.find? fun inc => inc.key = key ∧ inc.origin = .genesis).map (·.seq)
  else
    (parseIncarnationComment comment).filter fun seq =>
      (snap.incarnation seq).any (·.key = key)

variable (t : Target) (key : String) (comments : List String) (found : List LocalTable)
  (inc : TableIncarnation)

/-- The owner of a table is an earlier incarnation of the key that is retired. -/
def earlierRetired (owner : Option Nat) (current : Nat) : Bool :=
  owner.any fun seq => decide (seq < current) &&
    (snap.incarnation seq).any fun inc => inc.key = key && inc.isRetired

/-- A table with this comment may be dropped before the incarnation `current` of the
    key is created. -/
def retiredLeftover (key comment : String) (current : Nat) : Bool :=
  if comment = "" then earlierRetired snap key (ownerOf snap key comment) current
  else
    (parseIncarnationComment comment).any fun seq =>
      (snap.incarnation seq).any fun inc =>
        inc.seq ≠ current && chTableName inc.key = chTableName key && inc.isRetired

/-- Every comment marks an incarnation of one of the keys. -/
def attributable (keys comments : List String) : Bool :=
  comments.all fun comment => keys.any fun key => (ownerOf snap key comment).isSome

/-- The comment is one of the tables with this physical name. -/
def knownMarker (physical comment : String) : Bool :=
  snap.incarnations.any fun inc => chTableName inc.key = physical &&
    (comment = incarnationComment inc.seq || (comment = "" && inc.origin = .genesis))

/-! ## What the registry asks for -/

/-- `owner` restricts the reconciler to the incarnations of one indexer; `genesis`
    are the keys of the configured genesis set. -/
structure TableSetConfig where
  owner : Option Nat
  nodeID : String
  genesis : List String
  sweepDecommissioned : Bool

def owns : Bool :=
  cfg.owner.all (snap.owner inc = ·)

/-- The live incarnations of the keys that the reconciler serves, in registry order. -/
def livesFrom (cfg : TableSetConfig) (snap : Snapshot) :
    List String → List TableIncarnation → List TableIncarnation
  | _, [] => []
  | seen, inc :: rest =>
    if inc.key ∈ seen then livesFrom cfg snap seen rest
    else ((snap.live inc.key).filter (owns cfg snap)).toList ++
      livesFrom cfg snap (inc.key :: seen) rest

def lives : List TableIncarnation :=
  livesFrom cfg snap [] snap.incarnations

def physicalName : String := chTableName inc.key

/-- Pending, Active or Retiring. -/
def isWanted : Bool := inc.hasPhysicalTables && inc.status ≠ .purging

/-- The names that a Pending, Active or Retiring key desires. -/
def wantedNames (lives : List TableIncarnation) : List String := (lives.filter isWanted).map physicalName

/-- The incarnations to purge, by name. -/
def purgingOf (lives : List TableIncarnation) : GoMap String TableIncarnation :=
  (lives.filter (·.status = .purging)).foldl (fun m inc => m.insert (physicalName inc) inc) .empty

/-- The keys whose live incarnation is Purged, Refused or Legacy, by name. -/
def historyOf (lives : List TableIncarnation) : GoMap String (List String) :=
  (lives.filter (¬ ·.hasPhysicalTables)).foldl
    (fun m inc => m.insert (physicalName inc) (m.getD (physicalName inc) [] ++ [inc.key])) .empty

/-- The names that a live incarnation replicates under on the shared path. -/
def legacyLive (lives : List TableIncarnation) : List String :=
  (lives.filter fun inc => inc.hasPhysicalTables && !inc.scopedKeeperPath).map physicalName

/-- The keys whose live incarnation replicates on its own path, by name, where no
    other one uses the shared path of the name. -/
def scopedLive (lives : List TableIncarnation) : GoMap String String :=
  let own := (lives.filter fun inc => inc.hasPhysicalTables && inc.scopedKeeperPath).foldl
    (fun m inc => m.insert (physicalName inc) inc.key) .empty
  (legacyLive lives).foldl GoMap.erase own

/-! ## Operations -/

/-- `fatal` errors stop the role; `replicaExists` is ClickHouse's answer to a CREATE
    whose replica name is taken. -/
structure ReconcileError where
  fatal : Bool
  replicaExists : Bool
  text : String

def ReconcileError.plain (text : String) : ReconcileError := ⟨false, false, text⟩

inductive Mode where
  | off | verifyOnly | createAndVerify
  deriving DecidableEq

/-- A table to create and verify; the marker of a genesis table is 0. -/
structure Target where
  inc : TableIncarnation
  mode : Mode
  marker : Nat

def Target.scope : KeeperScope := ⟨t.marker, t.inc.scopedKeeperPath⟩

/-- The Keeper paths of the shard: the shared ones by name, and the own ones. -/
structure KeeperRoots where
  legacy : List String
  own : List (String × Nat)

inductive TableSetOp : Type → Type where
  /-- The key is not backing off. -/
  | due (key : String) : TableSetOp Bool
  /-- Decodes the schema of a chain incarnation. -/
  | schema (inc : TableIncarnation) : TableSetOp (Except ReconcileError Unit)
  | listProtocolTables : TableSetOp (Except ReconcileError (List LocalTable))
  | dropTable (db : ProtocolDB) (name : String) : TableSetOp (Except ReconcileError Unit)
  | ensureDatabases : TableSetOp (Except ReconcileError Unit)
  | createTable (db : ProtocolDB) (name comment : String) : TableSetOp (Except ReconcileError Unit)
  /-- Removes the replica of this node if it has no local table of the name. -/
  | dropStaleReplica (name : String) (scope : KeeperScope) : TableSetOp (Except ReconcileError Unit)
  | verifyTable (db : ProtocolDB) (name comment : String) : TableSetOp (Except ReconcileError Unit)
  | keeperReplicas (key : String) (scope : KeeperScope) : TableSetOp (Except ReconcileError (List String))
  | dropReplica (key : String) (scope : KeeperScope) (replica : String) :
      TableSetOp (Except ReconcileError Unit)
  | listKeeperRoots : TableSetOp (Except ReconcileError KeeperRoots)
  | purgeNodeSet : TableSetOp (Except ReconcileError (List String))
  /-- The last hook of the key failed. -/
  | isOwed (key : String) : TableSetOp Bool
  /-- The hook of a dropped key. -/
  | notifyDropped (key : String) : TableSetOp (Except ReconcileError Unit)
  | quiescent (key : String) : TableSetOp (Except ReconcileError Bool)
  | submitTablePurged (seq : Nat) : TableSetOp (Except ReconcileError Unit)

abbrev TableSetM (α : Type) : Type 1 := Fallible ReconcileError TableSetOp α

/-- Runs the program if the condition holds. -/
def runIf (c : Prop) [Decidable c] (p : TableSetM Unit) : TableSetM Unit := if c then p else pure ()

/-! ## Dropping -/

/-- Drops the three tables of the key and the replica of this node that is left on
    the path. -/
def dropTableFor (scope : KeeperScope) : TableSetM Unit := do
  [ProtocolDB.hgPromote, .hgSafe, .hgUnsafe].forM fun db => call (.dropTable db (chTableName key))
  let replicas ← call (.keeperReplicas key scope)
  runIf (cfg.nodeID ∈ replicas) (call (.dropReplica key scope cfg.nodeID))

def dropTables (scopes : List KeeperScope) : TableSetM Unit := scopes.forM (dropTableFor cfg key)

/-- The Keeper path that the table with this comment used. -/
def leftoverScope (comment : String) : KeeperScope :=
  match (parseIncarnationComment comment).bind snap.incarnation with
  | some inc => if inc.scopedKeeperPath then .of inc else .shared
  | none => .shared

/-- The Keeper paths of tables with these comments, without duplicates. -/
def leftoverScopes : List KeeperScope :=
  let scopes := comments.foldl (fun out comment =>
    if leftoverScope snap comment ∈ out then out else out ++ [leftoverScope snap comment]) []
  if scopes = [] then [.shared] else scopes

/-! ## Replicas of others -/

def dropOthers (scope : KeeperScope) (nodes replicas : List String) : TableSetM Unit :=
  replicas.forM fun replica =>
    runIf (¬ (replica = cfg.nodeID ∨ replica ∈ nodes)) (call (.dropReplica key scope replica))

/-- Removes the replicas that are neither this node's nor in the purge node set. -/
def sweep (scope : KeeperScope) : TableSetM Unit := do
  let replicas ← call (.keeperReplicas key scope)
  if replicas = [] then pure ()
  else
    let nodes ← call .purgeNodeSet
    dropOthers cfg key scope nodes replicas

/-- The replicas of others that are not in the purge node set are removed by the
    source node; every other node waits for it. -/
def clearDecommissioned (scope : KeeperScope) : TableSetM Unit := do
  let replicas ← call (.keeperReplicas key scope)
  let others := replicas.filter (· ≠ cfg.nodeID)
  if others = [] then pure ()
  else
    let nodes ← call .purgeNodeSet
    let gone := others.filter (· ∉ nodes)
    if cfg.sweepDecommissioned then dropOthers cfg key scope nodes gone
    else if gone = [] then pure ()
    else throw (.plain s!"tableset: keeper path of {key} holds decommissioned replica(s) {
      gone}; not creating until the source SNode removes them")

/-- Empties a path that no live incarnation uses; no table is dropped. -/
def sweepRetiredPath (scope : KeeperScope) : TableSetM Unit := do
  let replicas ← call (.keeperReplicas key scope)
  runIf (cfg.nodeID ∈ replicas) (call (.dropReplica key scope cfg.nodeID))
  sweep cfg key scope

/-! ## Creating -/

/-- CREATE TABLE IF NOT EXISTS; a stale replica of this node is removed once. -/
def createOne (name comment : String) (db : ProtocolDB) : TableSetM Unit := do
  match ← attempt (call (.createTable db name comment)) with
  | .ok _ => pure ()
  | .error e =>
    if db = .hgUnsafe ∧ e.replicaExists then
      call (.dropStaleReplica name t.scope)
      call (.createTable db name comment)
    else throw e

/-- Joins errors; the result is fatal if one of them is. -/
def joinErrors (errs : List ReconcileError) : TableSetM Unit :=
  if errs.isEmpty then pure ()
  else throw ⟨errs.any (·.fatal), false, "\n".intercalate (errs.map (·.text))⟩

def protocolDBs : List ProtocolDB := [.hgUnsafe, .hgSafe, .hgPromote]

def createAll (name comment : String) : TableSetM Unit :=
  match t.mode with
  | .createAndVerify => do
    call .ensureDatabases
    protocolDBs.forM (createOne t name comment)
  | .off | .verifyOnly => pure ()

def ensureTableFor : TableSetM Unit :=
  if t.mode = .off then pure ()
  else do
    let name := physicalName t.inc
    let comment := expectedComment t.marker
    createAll t name comment
    let verified ← protocolDBs.mapM' fun db => attempt (call (.verifyTable db name comment))
    joinErrors (errorsOf verified)

/-- The comments that are not the expected one; one that is no leftover is drift. -/
def leftoversOf (snap : Snapshot) (t : Target) : List String → Except ReconcileError (List String)
  | [] => .ok []
  | comment :: rest =>
    if comment = expectedComment t.marker then leftoversOf snap t rest
    else if t.marker = 0 ∨ ¬ retiredLeftover snap t.inc.key comment t.inc.seq then
      .error ⟨true, false, s!"protocol table drift: {t.inc.key} tables carry comment {comment}, want {
        expectedComment t.marker} (incarnation {t.inc.seq})"⟩
    else (leftoversOf snap t rest).map (comment :: ·)

/-- Drops the leftovers, or runs a hook that is owed. -/
def dropLeftovers (leftovers : List String) : TableSetM Unit :=
  if leftovers = [] then do
    if ← ask (.isOwed key) then call (.notifyDropped key) else pure ()
  else do
    dropTables cfg key (leftoverScopes snap leftovers)
    call (.notifyDropped key)

/-- Creates and verifies one table. -/
def ensurePresent (hasUnsafe : Bool) : TableSetM Unit := do
  let leftovers ← fromExcept (leftoversOf snap t comments)
  dropLeftovers cfg snap t.inc.key leftovers
  runIf (t.marker ≠ 0 ∧ (leftovers ≠ [] ∨ ¬ hasUnsafe)) (clearDecommissioned cfg t.inc.key t.scope)
  ensureTableFor t

/-! ## The pass -/

/-- A chain incarnation needs its schema, a genesis one a place in the configuration. -/
def targetFor (genesisMode : Mode) : TableSetM Target :=
  if inc.origin = .genesis then
    if inc.key ∈ cfg.genesis then pure ⟨inc, genesisMode, 0⟩
    else throw (.plain s!"tableset: genesis table {inc.key} is not in the configured genesis set")
  else do
    call (.schema inc)
    pure ⟨inc, .createAndVerify, inc.seq⟩

/-- A chain incarnation that is backing off is skipped. -/
def isDue : TableSetM Bool :=
  if inc.origin = .genesis then pure true else ask (.due inc.key)

/-- The targets of the wanted incarnations, by name, and the errors of genesis ones. -/
def targets (cfg : TableSetConfig) (genesisMode : Mode) :
    List TableIncarnation → GoMap String Target × List ReconcileError →
      TableSetM (GoMap String Target × List ReconcileError)
  | [], acc => pure acc
  | inc :: rest, (present, errs) => do
    if ← isDue inc then
      match ← attempt (targetFor cfg inc genesisMode) with
      | .ok t => targets cfg genesisMode rest (present.insert (physicalName inc) t, errs)
      | .error e =>
        targets cfg genesisMode rest
          (present, if inc.origin = .genesis then errs ++ [e] else errs)
    else targets cfg genesisMode rest (present, errs)

/-- The comments of the tables with a name. -/
def commentsOf (name : String) : List String :=
  (found.filter (·.table = name)).map (·.comment)

def hasUnsafe (name : String) : Bool :=
  found.any fun lt => lt.table = name && lt.database = .hgUnsafe

/-- The names in the order of the loops over a map. -/
def sortedKeys {ν : Type} (m : GoMap String ν) : List String := m.keys.insertionSort (· ≤ ·)

/-- Creates the tables of the targets. Returns the fatal errors, and the others of
    genesis tables. -/
def ensureAll (cfg : TableSetConfig) (snap : Snapshot) (found : List LocalTable)
    (present : GoMap String Target) :
    List String → List ReconcileError × List ReconcileError →
      TableSetM (List ReconcileError × List ReconcileError)
  | [], errs => pure errs
  | name :: rest, errs =>
    match present.lookup name with
    | none => ensureAll cfg snap found present rest errs
    | some t => do
      match ← attempt (ensurePresent cfg snap t (commentsOf found name) (hasUnsafe found name)) with
      | .ok _ => ensureAll cfg snap found present rest errs
      | .error e =>
        ensureAll cfg snap found present rest
          (if e.fatal then (errs.1 ++ [e], errs.2)
            else if t.inc.origin = .genesis then (errs.1, errs.2 ++ [e])
            else errs)

/-- Drops the tables of a Purging incarnation and reports it. -/
def purge : TableSetM Unit := do
  if cfg.nodeID ∈ inc.purgedBy then pure ()
  else if ← ask (.due inc.key) then
    if ← call (.quiescent inc.key) then
      dropTableFor cfg inc.key (.of inc)
      call (.notifyDropped inc.key)
      runIf cfg.sweepDecommissioned (sweep cfg inc.key (.of inc))
      call (.submitTablePurged inc.seq)
    else pure ()
  else pure ()

/-- A name that a wanted key shares is not purged. -/
def purgeAll (wanted : List String) (purging : GoMap String TableIncarnation) : TableSetM Unit :=
  (sortedKeys purging).forM fun name =>
    match purging.lookup name with
    | none => pure ()
    | some inc => runIf (name ∉ wanted) (ignoreError (purge cfg inc))

def dropLeftover : TableSetM Unit := do
  dropTables cfg key (leftoverScopes snap comments)
  call (.notifyDropped key)

/-- Drops the tables of retired keys whose comments all mark incarnations of such
    keys. -/
def dropRetired (desired : List String) (history : GoMap String (List String)) (names : List String) :
    TableSetM Unit :=
  names.forM fun name =>
    match history.lookup name with
    | none => pure ()
    | some keys =>
      runIf (name ∉ desired ∧ attributable snap keys (commentsOf found name))
        (ignoreError (dropLeftover cfg snap (keys.headD "") (commentsOf found name)))

/-- The names of retired keys that have a table with another comment. -/
def skippedNames (desired : List String) (history : GoMap String (List String)) (names : List String) :
    List String :=
  names.filter fun name => (history.lookup name).any fun keys =>
    name ∉ desired && !attributable snap keys (commentsOf found name)

/-- Sweeps the shared path of a name whose live incarnation is on its own path. -/
def sweepShared (onOwnPath : GoMap String String) (name : String) :
    TableSetM Unit :=
  match onOwnPath.lookup name with
  | some key => sweepRetiredPath cfg key .shared
  | none => pure ()

/-- Sweeps the shared path of one name; the tables of a retired key are dropped. -/
def sweepLegacy (history : GoMap String (List String))
    (onOwnPath : GoMap String String) (skip : List String) (name : String) : TableSetM Unit :=
  match history.lookup name with
  | some keys =>
    if name ∈ skip then sweepShared cfg onOwnPath name
    else do
      dropTableFor cfg (keys.headD "") .shared
      sweep cfg (keys.headD "") .shared
  | none => sweepShared cfg onOwnPath name

/-- Sweeps the own path of a retired incarnation. -/
def sweepOwn (path : String × Nat) : TableSetM Unit :=
  match snap.incarnation path.2 with
  | none => pure ()
  | some inc =>
    if inc.scopedKeeperPath ∧ physicalName inc = path.1 ∧ owns cfg snap inc ∧ inc.isRetired then
      sweepRetiredPath cfg inc.key (.of inc)
    else pure ()

/-- Sweeps the Keeper paths that survived their purge. -/
def sweepPurgedKeeperPaths
    (history : GoMap String (List String)) (onOwnPath : GoMap String String)
    (skip unattributable : List String) : TableSetM Unit := do
  let roots ← call .listKeeperRoots
  (roots.legacy.filter (· ∉ unattributable)).forM fun name =>
    ignoreError (sweepLegacy cfg history onOwnPath skip name)
  (roots.own.filter (·.1 ∉ unattributable)).forM fun path => ignoreError (sweepOwn cfg snap path)

/-- The names that have a table whose comment the registry does not know. -/
def unattributableTables : List String :=
  (found.filter fun lt => ¬ knownMarker snap lt.table lt.comment).map (·.table)

/-- The part of a pass that drops the tables of retired keys and sweeps their paths. -/
def clean (desired : List String) : TableSetM Unit := do
  let all := lives cfg snap
  let history := historyOf all
  let names := GoSlice.sortCompact (found.map (·.table))
  let skipped := skippedNames snap found desired history names
  dropRetired cfg snap found desired history names
  runIf cfg.sweepDecommissioned
    (ignoreError (sweepPurgedKeeperPaths cfg snap history (scopedLive all) (desired ++ skipped)
      (unattributableTables snap found ++ skipped)))

/-- One pass with the registry enabled. -/
def reconcileRegistry (genesisMode : Mode) :
    TableSetM Unit := do
  let all := lives cfg snap
  let wanted := wantedNames all
  let purging := purgingOf all
  let (present, genesisErrs) ← targets cfg genesisMode (all.filter isWanted) (.empty, [])
  let found ← call .listProtocolTables
  let (fatal, genesisErrs) ← ensureAll cfg snap found present (sortedKeys present) ([], genesisErrs)
  purgeAll cfg wanted purging
  clean cfg snap found (wanted ++ purging.keys)
  -- the unknown tables are reported only
  let r ← attempt (call .listProtocolTables)
  joinErrors (fatal ++ errorsOf [r] ++ genesisErrs)

end ArbiterCore.TableSet
