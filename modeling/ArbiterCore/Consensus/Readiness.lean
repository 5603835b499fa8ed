-- SUMMARY: When a member that reports itself ready for a group holds the replicas (consensus/readiness.go).
import ArbiterCore.Base.Checked
import ArbiterCore.Consensus.Checkpoint

/-!
# Readiness

A member that has joined a group reports itself ready once it holds a synced replica
of every Pending or Active table of the group. The Keeper paths to look for are
collected by physical table name, read back from system.replicas, and matched to the
incarnations by that name again.
-/

namespace ArbiterCore.Readiness

open Registry Checkpoint

/-! ## The plan -/

structure MemberReadyBody where
  nodeID : String
  ownerIndexerID : Nat
  databaseID : String
  generation : Nat
  deriving DecidableEq

/-- Whether the node holds a synced replica, by physical table name. -/
abbrev LocalReplicas := GoMap String Bool

def readinessTables (snap : Snapshot) (g : DatabaseGroup) : List TableIncarnation :=
  (liveTablesOf snap g.ownerIndexerID g.databaseID).filter fun live =>
    live.status = .pending ∨ live.status = .active

/-- The group has the node as a current member that is not ready. -/
def Awaits (nodeID : String) (g : DatabaseGroup) : Prop :=
  ∃ m, g.members.find? (·.nodeID = nodeID) = some m ∧ m.ready = false

instance (nodeID : String) (g : DatabaseGroup) : Decidable (Awaits nodeID g) :=
  match h : g.members.find? (·.nodeID = nodeID) with
  | none => isFalse (by simp [Awaits, h])
  | some m => decidable_of_iff (m.ready = false) (by simp [Awaits, h])

def awaitingReadiness (snap : Snapshot) (nodeID : String) : List DatabaseGroup :=
  snap.groups.filter (Awaits nodeID)

/-- The Keeper path of an incarnation. -/
def keeperPath (keeperShardID : Nat) (inc : TableIncarnation) : String :=
  zooKeeperPathFor keeperShardID inc.key (.of inc)

/-- The path to look for, by physical name: of two incarnations with one name the later
    one wins. -/
def replicaPaths (snap : Snapshot) (nodeID : String) (keeperShardID : Nat) : GoMap String String :=
  (awaitingReadiness snap nodeID).foldl
    (fun paths g => (readinessTables snap g).foldl
      (fun paths inc => paths.insert (chTableName inc.key) (keeperPath keeperShardID inc)) paths)
    .empty

/-! ## Reading the replicas -/

/-- A row of system.replicas. -/
structure ReplicaRow where
  zookeeperPath : String
  replicaName : String
  isReadonly : UInt8
  isSessionExpired : UInt8
  deriving DecidableEq

inductive QueryError where
  /-- The exception UNKNOWN_TABLE. -/
  | unknownTable
  | other (err : String)
  deriving DecidableEq

/-- The rows of a query, each of which may fail to scan, and the error at their end. -/
structure ReplicaRows where
  rows : List (Except String ReplicaRow)
  err : Option String

/-- What ClickHouse answers about one table: to SYSTEM SYNC REPLICA, with the error of the
    caller's context after a failure, and to the query of system.replicas. -/
structure TableAnswers where
  sync : Except String Unit
  ctxErr : Option String
  query : Except QueryError ReplicaRows

/-- ClickHouse answers per table of hg_member_unsafe. Each table is asked once, so its
    answers are those of the state at that moment. -/
abbrev ClickHouse := String → TableAnswers

/-- The row is a synced replica of the node at the path. -/
def ReplicaRow.syncedAt (row : ReplicaRow) (path nodeID : String) : Bool :=
  row.zookeeperPath = path ∧ row.replicaName = nodeID ∧ row.isReadonly = 0 ∧ row.isSessionExpired = 0

/-- The loop over the rows; the last one decides. -/
def scanRows (qualified path nodeID : String) (synced : Bool) :
    List (Except String ReplicaRow) → Except String Bool
  | [] => .ok synced
  | .error e :: _ => .error s!"member consensus: scan system.replicas for {qualified}: {e}"
  | .ok row :: rows => scanRows qualified path nodeID (row.syncedAt path nodeID) rows

def replicaSynced (ch : ClickHouse) (database table path nodeID : String) : Except String Bool :=
  let qualified := database ++ "." ++ table
  match (ch table).query with
  | .error .unknownTable => .ok false
  | .error (.other e) => .error s!"member consensus: read system.replicas for {qualified}: {e}"
  | .ok answer => do
    let synced ← scanRows qualified path nodeID false answer.rows
    match answer.err with
    | some e => .error s!"member consensus: read system.replicas for {qualified}: {e}"
    | none => .ok synced

/-- The loop over the table names, in order. -/
def readTables (ch : ClickHouse) (memberUnsafeDB nodeID : String) (paths : GoMap String String)
    (out : LocalReplicas) : List String → Except String LocalReplicas
  | [] => .ok out
  | name :: names =>
    let out := out.insert name false
    match (ch name).sync with
    | .error _ =>
      match (ch name).ctxErr with
      | some e => .error e
      -- a table that does not sync in time is not ready at this pass
      | none => readTables ch memberUnsafeDB nodeID paths out names
    | .ok _ => do
      let synced ← replicaSynced ch memberUnsafeDB name (paths.getD name "") nodeID
      readTables ch memberUnsafeDB nodeID paths (out.insert name synced) names

/-- The incarnation is the live, Pending or Active one of a table of the owner's
    database. -/
structure LiveTable (snap : Snapshot) (owner : Nat) (database : String) (inc : TableIncarnation) :
    Prop where
  database : inc.databaseID = database
  live : snap.live inc.key = some inc
  owned : snap.owner inc = owner
  status : inc.status = .pending ∨ inc.status = .active

section Tables

variable {snap : Snapshot} {nodeID database : String} {inc : TableIncarnation}

theorem mem_keysOf {seen : List String} {incs : List TableIncarnation} {key : String} :
    key ∈ keysOf database seen incs ↔
      (∃ i ∈ incs, i.databaseID = database ∧ i.key = key) ∧ key ∉ seen := by
  induction incs generalizing seen with
  | nil => simp [keysOf]
  | cons i incs ih =>
    unfold keysOf
    split
    · next hskip =>
      rw [ih]
      -- the incarnation is of another database, or its key was met before
      constructor
      · rintro ⟨⟨j, hj, hkey⟩, hseen⟩
        exact ⟨⟨j, List.mem_cons_of_mem _ hj, hkey⟩, hseen⟩
      · rintro ⟨⟨j, hj, hdb, hkey⟩, hseen⟩
        refine ⟨⟨j, ?_, hdb, hkey⟩, hseen⟩
        rcases List.mem_cons.mp hj with rfl | hj
        · rcases hskip with hskip | hskip
          · exact absurd hdb hskip
          · exact absurd (hkey ▸ hskip) hseen
        · exact hj
    · next htake =>
      simp only [not_or, not_not] at htake
      rw [List.mem_cons, ih]
      constructor
      · rintro (rfl | ⟨⟨j, hj, hkey⟩, hseen⟩)
        · exact ⟨⟨i, List.mem_cons_self .., htake.1, rfl⟩, htake.2⟩
        · exact ⟨⟨j, List.mem_cons_of_mem _ hj, hkey⟩, fun h => hseen (List.mem_cons_of_mem _ h)⟩
      · rintro ⟨⟨j, hj, hdb, hkey⟩, hseen⟩
        by_cases hik : key = i.key
        · exact .inl hik
        · refine .inr ⟨⟨j, ?_, hdb, hkey⟩, by simp [hik, hseen]⟩
          rcases List.mem_cons.mp hj with rfl | hj
          · exact absurd hkey.symm hik
          · exact hj

/-- The tables that the code looks at: the live incarnations of the keys of the database,
    which may be of another database with the same key. -/
theorem mem_readinessTables {g : DatabaseGroup} :
    inc ∈ readinessTables snap g ↔
      (∃ i ∈ snap.incarnations, i.databaseID = g.databaseID ∧ i.key = inc.key) ∧
      LiveTable snap g.ownerIndexerID inc.databaseID inc := by
  simp only [readinessTables, liveTablesOf, List.mem_filter, List.mem_insertionSort,
    List.mem_filterMap, mem_keysOf, decide_eq_true_eq]
  constructor
  · rintro ⟨⟨key, ⟨hnamed, -⟩, hlive⟩, hstatus⟩
    obtain ⟨hlive, howned⟩ := Option.filter_eq_some_iff.mp hlive
    obtain rfl := (Snapshot.live_mem hlive).2
    simp only [Bool.and_eq_true, decide_eq_true_eq] at howned
    exact ⟨hnamed, rfl, hlive, howned.2, hstatus⟩
  · rintro ⟨hnamed, -, hlive, howned, hstatus⟩
    refine ⟨⟨inc.key, ⟨hnamed, by simp⟩, Option.filter_eq_some_iff.mpr ⟨hlive, ?_⟩⟩, hstatus⟩
    rcases hstatus with h | h <;> simp [TableIncarnation.hasPhysicalTables, h, howned]

theorem LiveTable.mem_readinessTables {g : DatabaseGroup}
    (h : LiveTable snap g.ownerIndexerID g.databaseID inc) : inc ∈ readinessTables snap g :=
  Readiness.mem_readinessTables.mpr ⟨⟨inc, (Snapshot.live_mem h.live).1, h.database, rfl⟩, { h with database := rfl }⟩

/-- The incarnations whose replicas the node waits for, in the order of the loops. -/
def awaited (snap : Snapshot) (nodeID : String) : List TableIncarnation :=
  (awaitingReadiness snap nodeID).flatMap (readinessTables snap)

theorem mem_awaited : inc ∈ awaited snap nodeID ↔
    ∃ g ∈ snap.groups, Awaits nodeID g ∧ inc ∈ readinessTables snap g := by
  simp only [awaited, awaitingReadiness, List.mem_flatMap, List.mem_filter, decide_eq_true_eq, and_assoc]

/-- The incarnation whose path is looked for under a name: the last one. -/
def lookedFor (snap : Snapshot) (nodeID name : String) : Option TableIncarnation :=
  (awaited snap nodeID).reverse.find? (chTableName ·.key = name)

theorem replicaPaths_lookup {keeperShardID : Nat} {name : String} :
    (replicaPaths snap nodeID keeperShardID).lookup name =
      (lookedFor snap nodeID name).map (keeperPath keeperShardID) := by
  have hfold : replicaPaths snap nodeID keeperShardID = (awaited snap nodeID).foldl
      (fun paths inc => paths.insert (chTableName inc.key) (keeperPath keeperShardID inc)) .empty :=
    List.foldl_flatMap.symm
  rw [hfold, GoMap.lookup_foldl_insert_eq]
  exact Option.or_none

theorem lookedFor_of_awaited (h : inc ∈ awaited snap nodeID) :
    ∃ inc' ∈ awaited snap nodeID, lookedFor snap nodeID (chTableName inc.key) = some inc' ∧
      chTableName inc.key = chTableName inc'.key := by
  obtain ⟨inc', hfound⟩ : ∃ inc', lookedFor snap nodeID (chTableName inc.key) = some inc' :=
    Option.isSome_iff_exists.mp (by simpa [lookedFor] using ⟨inc, h, rfl⟩)
  have hname := List.find?_some hfound
  exact ⟨inc', by simpa using List.mem_of_find?_eq_some hfound, hfound, by simpa [eq_comm] using hname⟩

end Tables

section Reading

variable {ch : ClickHouse} {nodeID name path : String}

end Reading

/-! ## Soundness -/

section Soundness

variable {snap : Snapshot} {nodeID database : String} {keeperShardID : Nat} {inc inc' : TableIncarnation}

theorem keeperPath_eq_iff (h : inc ∈ snap.incarnations) (h' : inc' ∈ snap.incarnations)
    (hname : chTableName inc.key = chTableName inc'.key) (hne : inc ≠ inc') :
    keeperPath keeperShardID inc = keeperPath keeperShardID inc' ↔
      inc.scopedKeeperPath = false ∧ inc'.scopedKeeperPath = false := by
  have hseq : inc.seq ≠ inc'.seq := fun heq => hne (Snapshot.eq_of_seq h h' heq)
  refine (zooKeeperPathFor_eq_iff hname).trans ?_
  simp only [KeeperScope.of, hseq, imp_false, Bool.not_eq_true]
  constructor
  · rintro ⟨heq, hs⟩
    exact ⟨hs, heq ▸ hs⟩
  · rintro ⟨hs, hs'⟩
    exact ⟨hs.trans hs'.symm, hs⟩

/-- The path under the name of a live table, and when it is the table's own. -/
theorem LiveTable.path {g : DatabaseGroup} (h : LiveTable snap g.ownerIndexerID g.databaseID inc)
    (hg : g ∈ snap.groups) (hawaits : Awaits nodeID g) (keeperShardID : Nat) :
    ∃ inc', lookedFor snap nodeID (chTableName inc.key) = some inc' ∧
      (replicaPaths snap nodeID keeperShardID).getD (chTableName inc.key) "" =
        keeperPath keeperShardID inc' ∧
      (inc ≠ inc' → (keeperPath keeperShardID inc = keeperPath keeperShardID inc' ↔
        inc.scopedKeeperPath = false ∧ inc'.scopedKeeperPath = false)) := by
  obtain ⟨inc', hmem, hfound, hname⟩ :=
    lookedFor_of_awaited (mem_awaited.mpr ⟨g, hg, hawaits, h.mem_readinessTables⟩)
  obtain ⟨_, -, -, hinc'⟩ := mem_awaited.mp hmem
  have hpath : (replicaPaths snap nodeID keeperShardID).lookup (chTableName inc.key) =
      some (keeperPath keeperShardID inc') := by
    rw [replicaPaths_lookup, hfound]
    rfl
  exact ⟨inc', hfound, GoMap.getD_of_lookup_some hpath _, keeperPath_eq_iff (Snapshot.live_mem h.live).1
    (Snapshot.live_mem (Readiness.mem_readinessTables.mp hinc').2.live).1 hname⟩

end Soundness

/-! ## Two tables with one physical name -/

namespace Collision

/-- The tables a.b__c and a__b.c are both a__b__c, and a.b.c is the key of the table b.c
    of a and of the table c of a.b. Each has a Keeper path of its own. -/
def snap (sep : String) : Snapshot where
  siIndexerID := 1
  incarnations := [
    ⟨1, "a", "b" ++ sep ++ "c", .chain, .active, [], some 1, true⟩,
    ⟨2, "a" ++ sep ++ "b", "c", .chain, .active, [], some 1, true⟩]
  groups := [⟨1, "a", [⟨"m", 1, 0, none⟩], 1, []⟩, ⟨1, "a" ++ sep ++ "b", [⟨"m", 1, 0, none⟩], 1, []⟩]
  memberCheckpointSeqs := []
  stage3 := some ⟨true, true⟩
  numbered := rfl

end Collision

end ArbiterCore.Readiness
