-- SUMMARY: The serving server of a member: configuration, leases and serving conditions (member/serve).
import ArbiterCore.Base.Durable
import ArbiterCore.Registry.Snapshot

/-!
# The serving server

The server decides for every database of a peer owner whether the copies may be
served, and grants the host one lease per served database. Every definition below
is one section that the server runs under its lock. Times and durations are in
nanoseconds.
-/

namespace ArbiterCore.Serve

open Durable Registry

/-! ## Configuration -/

abbrev Duration : Type := Int

def millisecond : Duration := 1000000

def second : Duration := 1000 * millisecond

/-- `u / 10 ^ k` in decimal, without the trailing zeros of its fraction. -/
def decimal (u k : Nat) : String :=
  let places := (List.range k).map fun i => (u / 10 ^ i % 10).digitChar
  let places := (places.dropWhile (· = '0')).reverse
  toString (u / 10 ^ k) ++ if places = [] then "" else "." ++ String.ofList places

/-- A duration as Go prints it. -/
def Duration.text (d : Duration) : String :=
  let u := d.natAbs
  let minutes := u / 60000000000
  (if d < 0 then "-" else "") ++
    if u = 0 then "0s"
    else if u < 1000 then s!"{u}ns"
    else if u < 1000000 then decimal u 3 ++ "µs"
    else if u < 1000000000 then decimal u 6 ++ "ms"
    else
      (if minutes < 60 then "" else s!"{minutes / 60}h") ++ (if minutes = 0 then "" else s!"{minutes % 60}m") ++
        decimal (u % 60000000000) 9 ++ "s"

example : ([15 * second, 5400 * second, 1500 * millisecond, -1500].map Duration.text) =
    ["15s", "1h30m0s", "1.5s", "-1.5µs"] := by decide +kernel

structure Config where
  enabled : Bool
  token : String
  ownerUnreachableAfter : Duration
  ownerProbeInterval : Duration
  leaseTTL : Duration
  pollInterval : Duration
  /-- The address of an owner's HouseGate. -/
  ownerHouseGate : List (Nat × String)

/-- The address functions of the net library (external). -/
class Net where
  splitHostPort : String → Option (String × String)

namespace Config

def withDefaults (c : Config) : Config :=
  { c with
    ownerUnreachableAfter := if c.ownerUnreachableAfter = 0 then 60 * second else c.ownerUnreachableAfter
    ownerProbeInterval := if c.ownerProbeInterval = 0 then 5 * second else c.ownerProbeInterval
    leaseTTL := if c.leaseTTL = 0 then 30 * second else c.leaseTTL
    pollInterval := if c.pollInterval ≤ 0 then 5 * second else c.pollInterval }

/-- host:port with a host and a decimal port between 1 and 65535. -/
def isHostPort [Net] (addr : String) : Bool :=
  match Net.splitHostPort addr with
  | none => false
  | some (host, port) =>
    host ≠ "" ∧ port ≠ "" ∧ port.toList.all Char.isDigit ∧
      Nat.ofDigitChars 10 port.toList 0 < 2 ^ 16 ∧ Nat.ofDigitChars 10 port.toList 0 ≠ 0

def validate [Net] (c : Config) : Except String Unit :=
  if c.token = "" then .error "serve: a bearer token is required"
  else if c.ownerUnreachableAfter < 15 * second then
    .error s!"serve: owner unreachable threshold {Duration.text c.ownerUnreachableAfter} is below the minimum 15s"
  else if c.leaseTTL < 10 * second then
    .error s!"serve: lease ttl {Duration.text c.leaseTTL} is below the minimum 10s"
  else if c.ownerProbeInterval < second ∨ c.ownerUnreachableAfter ≤ c.ownerProbeInterval then
    .error s!"serve: owner probe interval {
      Duration.text c.ownerProbeInterval} must be at least 1s and below the unreachable threshold {
      Duration.text c.ownerUnreachableAfter}"
  else
    match (c.ownerHouseGate.insertionSort (·.1 ≤ ·.1)).find? (¬ isHostPort ·.2) with
    | some (owner, addr) => .error s!"serve: owner {owner} housegate address {addr} is not host:port"
    | none => .ok ()

end Config

/-! ## Leases -/

/-- A lease of a database, of the copies of one owner. It ends when it is deleted
    from the table below. -/
structure Lease where
  id : String
  database : String
  owner : Nat
  /-- The grant or the last renew. -/
  renewed : Int
  ttl : Duration
  revoked : Bool
  deriving DecidableEq

def Lease.expiresAt (l : Lease) : Int := l.renewed + l.ttl

/-- The maps `byID` and `leases`. Both name the same leases, one for a database. -/
structure LeaseTable where
  byID : GoMap String Lease
  leases : GoMap String String
  id_eq : ∀ {id l}, byID.lookup id = some l → l.id = id
  leases_eq : ∀ {id l}, byID.lookup id = some l → leases.lookup l.database = some id
  lease_of : ∀ {database id}, leases.lookup database = some id →
    ∃ l, byID.lookup id = some l ∧ l.database = database

namespace LeaseTable

def empty : LeaseTable :=
  ⟨.empty, .empty, by simp, by simp, by simp⟩

variable (t : LeaseTable)

/-- The lease of a database. -/
def of (database : String) : Option Lease :=
  (t.leases.lookup database).bind t.byID.lookup

variable {t : LeaseTable}

theorem of_eq_some {database : String} {l : Lease} :
    t.of database = some l ↔ t.byID.lookup l.id = some l ∧ l.database = database := by
  unfold of
  constructor
  · intro h
    obtain ⟨id, hid, hl⟩ := Option.bind_eq_some_iff.mp h
    obtain ⟨l', hl', hdb⟩ := t.lease_of hid
    cases hl.symm.trans hl'
    exact ⟨by simpa [t.id_eq hl] using hl, hdb⟩
  · intro h
    obtain ⟨hl, rfl⟩ := h
    simp [t.leases_eq hl, hl]

theorem of_eq_none {database : String} :
    t.of database = none ↔ ∀ id l, t.byID.lookup id = some l → l.database ≠ database := by
  constructor
  · intro h id l hl hdb
    have := of_eq_some.mpr ⟨(t.id_eq hl).symm ▸ hl, hdb⟩
    simp [h] at this
  intro h
  cases hof : t.of database with
  | none => rfl
  | some l =>
    obtain ⟨hl, hdb⟩ := of_eq_some.mp hof
    exact absurd hdb (h l.id l hl)

/-- Two leases of one database are one. -/
theorem id_unique {id id' : String} {l l' : Lease} (h : t.byID.lookup id = some l)
    (h' : t.byID.lookup id' = some l') (hdb : l.database = l'.database) : id = id' := by
  have hid := t.leases_eq h
  have hid' := t.leases_eq h'
  rw [hdb] at hid
  exact Option.some.inj (hid.symm.trans hid')

/-- `endLocked`. -/
def finish (id : String) : LeaseTable :=
  match h : t.byID.lookup id with
  | none => t
  | some l =>
    { byID := t.byID.erase id
      leases := t.leases.erase l.database
      id_eq := fun {id' l'} h' => by
        rw [GoMap.lookup_erase] at h'
        split at h'
        · cases h'
        · exact t.id_eq h'
      leases_eq := fun {id' l'} h' => by
        rw [GoMap.lookup_erase] at h'
        split at h'
        · cases h'
        next hne =>
        -- another lease of the same database would have the same id
        have hdb : l'.database ≠ l.database := fun hdb => hne (id_unique h' h hdb)
        rw [GoMap.lookup_erase_of_ne hdb, t.leases_eq h']
      lease_of := fun {database id'} h' => by
        rw [GoMap.lookup_erase] at h'
        split at h'
        · cases h'
        next hne =>
        obtain ⟨l', hl', hdb⟩ := t.lease_of h'
        have hid : id' ≠ id := by
          intro hid
          subst hid
          cases h.symm.trans hl'
          exact hne hdb.symm
        exact ⟨l', by rw [GoMap.lookup_erase_of_ne hid, hl'], hdb⟩ }

theorem lookup_finish (id id' : String) :
    (t.finish id).byID.lookup id' = if id' = id then none else t.byID.lookup id' := by
  unfold finish
  split
  · next h => split <;> simp_all
  · next l h => exact GoMap.lookup_erase ..

/-- Rewrites a lease, but neither its id nor its database. -/
def revise (id : String) (f : Lease → Lease) (hid : ∀ l, (f l).id = l.id)
    (hdb : ∀ l, (f l).database = l.database) : LeaseTable :=
  match h : t.byID.lookup id with
  | none => t
  | some l =>
    { byID := t.byID.insert id (f l)
      leases := t.leases
      id_eq := fun {id' l'} h' => by
        rw [GoMap.lookup_insert] at h'
        split at h'
        · next heq =>
          cases h'
          rw [hid, heq, t.id_eq h]
        · exact t.id_eq h'
      leases_eq := fun {id' l'} h' => by
        rw [GoMap.lookup_insert] at h'
        split at h'
        · next heq =>
          cases h'
          rw [hdb, heq, t.leases_eq h]
        · exact t.leases_eq h'
      lease_of := fun {database id'} h' => by
        obtain ⟨l', hl', hdb'⟩ := t.lease_of h'
        rw [GoMap.lookup_insert]
        split
        · next heq =>
          subst heq
          cases h.symm.trans hl'
          exact ⟨f l, rfl, (hdb l).trans hdb'⟩
        · exact ⟨l', hl', hdb'⟩ }

theorem lookup_revise {id : String} {f : Lease → Lease} {hid hdb} (id' : String) :
    (t.revise id f hid hdb).byID.lookup id' =
      if id' = id then (t.byID.lookup id').map f else t.byID.lookup id' := by
  unfold revise
  split
  · next h => split <;> simp_all
  · next l h =>
    rw [GoMap.lookup_insert]
    split <;> simp_all

/-- Enters a lease of a database that has none. -/
def put (l : Lease) (hid : t.byID.lookup l.id = none)
    (hdb : t.of l.database = none) : LeaseTable where
  byID := t.byID.insert l.id l
  leases := t.leases.insert l.database l.id
  id_eq := fun {id' l'} h' => by
    rw [GoMap.lookup_insert] at h'
    split at h'
    · next heq =>
      cases h'
      exact heq.symm
    · exact t.id_eq h'
  leases_eq := fun {id' l'} h' => by
    rw [GoMap.lookup_insert] at h'
    split at h'
    · next heq =>
      cases h'
      rw [heq, GoMap.lookup_insert_self]
    · rw [GoMap.lookup_insert_of_ne (of_eq_none.mp hdb _ _ h'), t.leases_eq h']
  lease_of := fun {database id'} h' => by
    rw [GoMap.lookup_insert] at h'
    split at h'
    · next heq =>
      cases h'
      exact ⟨l, GoMap.lookup_insert_self .., heq.symm⟩
    obtain ⟨l', hl', hdb'⟩ := t.lease_of h'
    have hne : id' ≠ l.id := by
      intro heq
      rw [heq, hid] at hl'
      cases hl'
    exact ⟨l', by rw [GoMap.lookup_insert_of_ne hne, hl'], hdb'⟩

@[simp] theorem lookup_put {l : Lease} {hid hdb} (id' : String) :
    (t.put l hid hdb).byID.lookup id' = if id' = l.id then some l else t.byID.lookup id' :=
  GoMap.lookup_insert ..

/-- `sweepLocked`: ends every lease whose expiry has passed. -/
def sweep (now : Int) : LeaseTable :=
  (t.byID.toList.filter (·.2.expiresAt ≤ now)).foldl (fun t e => t.finish e.1) t

theorem lookup_foldl_finish (es : List (String × Lease)) (t : LeaseTable) (id : String) :
    (es.foldl (fun t e => t.finish e.1) t).byID.lookup id =
      if id ∈ es.map (·.1) then none else t.byID.lookup id := by
  induction es generalizing t with
  | nil => simp
  | cons e es ih =>
    simp only [List.foldl_cons, ih, lookup_finish, List.map_cons, List.mem_cons]
    by_cases he : id = e.1
    · simp [he]
    · simp only [he, false_or, if_false]

/-- A lease survives a sweep as it was, or has expired. -/
theorem lookup_sweep {now : Int} {id : String} {l : Lease} :
    (t.sweep now).byID.lookup id = some l ↔ t.byID.lookup id = some l ∧ now < l.expiresAt := by
  unfold sweep
  rw [lookup_foldl_finish]
  have hmem : id ∈ (t.byID.toList.filter (·.2.expiresAt ≤ now)).map (·.1) ↔
      ∃ l', t.byID.lookup id = some l' ∧ l'.expiresAt ≤ now := by
    simp [GoMap.mem_toList]
  constructor
  · intro h
    split at h
    · cases h
    · next hno => exact ⟨h, Int.not_le.mp fun hle => hno (hmem.mpr ⟨l, h, hle⟩)⟩
  · intro h
    rw [if_neg, h.1]
    intro hex
    obtain ⟨l', hl', hle⟩ := hmem.mp hex
    cases h.1.symm.trans hl'
    omega

theorem lookup_sweep_none {now : Int} {id : String} (h : t.byID.lookup id = none) :
    (t.sweep now).byID.lookup id = none := by
  cases hl : (t.sweep now).byID.lookup id with
  | none => rfl
  | some l =>
    have := (lookup_sweep.mp hl).1
    simp [h] at this

/-- `revokeLocked`. -/
def revoke (id : String) : LeaseTable :=
  t.revise id (fun l => { l with revoked := true }) (fun _ => rfl) (fun _ => rfl)

/-- Records the renewal of a lease. -/
def renewAt (id : String) (now : Int) : LeaseTable :=
  t.revise id (fun l => { l with renewed := now }) (fun _ => rfl) (fun _ => rfl)

end LeaseTable

/-! ## The lease file -/

/-- One recorded lease. -/
structure LeaseRecord where
  leaseID : String
  database : String
  owner : Nat
  renewedUnixNano : Int
  ttlMs : Int
  deriving DecidableEq

/-- The records of serve-leases.json, if there is one. -/
abbrev LeaseFile : Type := Option (List LeaseRecord)

/-- The expiry that a record stands for. -/
def LeaseRecord.expiresAt (r : LeaseRecord) : Int := r.renewedUnixNano + r.ttlMs * millisecond

/-- `Milliseconds` of the duration rounds towards zero. -/
def Lease.record (l : Lease) (renewed : Int) : LeaseRecord :=
  ⟨l.id, l.database, l.owner, renewed, l.ttl.tdiv millisecond⟩

/-- The last renew of a lease as it is recorded, while another one is being renewed. -/
def Lease.renewedWith (l : Lease) : Option (String × Int) → Int
  | some (id, renewed) => if id = l.id then renewed else l.renewed
  | none => l.renewed

/-- What `recordLeasesLocked` writes: the leases without `drop`, with `add`, and with
    the time of `renewing` as its last renew. -/
def recordLeases (t : LeaseTable) (drop : Option String) (add : Option Lease)
    (renewing : Option (String × Int)) : List LeaseRecord :=
  let kept := t.byID.toList.filterMap fun e =>
    if drop = some e.1 then none else some (e.2.record (e.2.renewedWith renewing))
  let all := match add with
    | some l => kept ++ [l.record l.renewed]
    | none => kept
  all.insertionSort (·.leaseID ≤ ·.leaseID)

/-- The largest duration in milliseconds. -/
def maxLeaseTTLMs : Int := (2 ^ 63 - 1) / millisecond

/-- The lease that a restarted server holds for a record: it is revoked. -/
def LeaseRecord.lease (r : LeaseRecord) : Lease :=
  ⟨r.leaseID, r.database, r.owner, r.renewedUnixNano, r.ttlMs * millisecond, true⟩

/-- Takes over one record. -/
def restoreLease (now : Int) (t : LeaseTable) (r : LeaseRecord) : Except String LeaseTable :=
  if r.leaseID = "" ∨ r.database = "" ∨ r.ttlMs ≤ 0 then
    .error "serve: lease file serve-leases.json has a lease record without an id, a database or a ttl"
  else if maxLeaseTTLMs < r.ttlMs then
    .error "serve: lease file serve-leases.json has a ttl that overflows time.Duration"
  else if h : t.of r.lease.database = none ∧ t.byID.lookup r.lease.id = none then
    if r.lease.expiresAt ≤ now then .ok t else .ok (t.put r.lease h.2 h.1)
  else .error s!"serve: lease file serve-leases.json lists database {r.database} or lease {r.leaseID} twice"

/-- The leases that a restarted server takes over from its file. -/
def restoreLeases (now : Int) (file : LeaseFile) : Except String LeaseTable :=
  (file.getD []).foldlM (restoreLease now) .empty

/-! ## Serving conditions -/

/-- Why a database is not serving. -/
inductive Reason where
  | ownerAvailable | entryUnconfirmed | copyBehind | auditUnclean | tableForeign | tableDiverged
  | tableExcluded | tableMissing | servingDisabled | feedUnavailable | installing
  deriving DecidableEq

def Reason.text : Reason → String
  | .ownerAvailable => "owner_available"
  | .entryUnconfirmed => "entry_unconfirmed"
  | .copyBehind => "copy_behind"
  | .auditUnclean => "audit_unclean"
  | .tableForeign => "table_foreign"
  | .tableDiverged => "table_diverged"
  | .tableExcluded => "table_excluded"
  | .tableMissing => "table_missing"
  | .servingDisabled => "serving_disabled"
  | .feedUnavailable => "feed_unavailable"
  | .installing => "installing"

structure OwnerDatabase where
  owner : Nat
  database : String
  deriving DecidableEq

inductive TableCondition where
  | installed | foreign | diverged | excluded
  deriving DecidableEq

/-- One copied table. -/
structure TableCopy where
  tableID : String
  incarnationSeq : Nat
  copyTable : String
  schemaHash : String
  condition : TableCondition
  deriving DecidableEq

/-- A copy of one database as the install journal records it. -/
structure DatabaseCopy where
  snapshotID : String
  entry : TrackFrontier
  tables : List TableCopy
  auditClean : Bool
  deriving DecidableEq

def DatabaseCopy.zero : DatabaseCopy := ⟨"", .zero, [], false⟩

/-- What the registry says of an incarnation beyond the rest of its record. -/
structure IncarnationDetail where
  schemaHash : String
  addBlockSeq : Nat

/-- The registry with what serving reads of it; the details are by incarnation number. -/
structure ServingSnapshot extends Snapshot where
  quarantinedIndexers : List Nat
  detail : Nat → IncarnationDetail

namespace ServingSnapshot

/-- The owner to which a published manifest attributes a table. -/
def manifestOwner (s : ServingSnapshot) (tableKey : String) : Option Nat :=
  (s.incarnations.reverse.find? fun inc =>
    inc.key = tableKey ∧ inc.status ≠ .refused ∧
      (inc.origin = .genesis ∨ (s.detail inc.seq).addBlockSeq ≠ 0)).map s.owner

/-- The Active incarnations of the database, if all of them are the owner's. -/
def activeTables (s : ServingSnapshot) (key : OwnerDatabase) : List TableIncarnation :=
  let active := s.incarnations.filter fun inc => inc.status = .active ∧ inc.databaseID = key.database
  if active.all fun inc => s.manifestOwner inc.key = some key.owner then
    active.insertionSort (·.key ≤ ·.key)
  else []

end ServingSnapshot

/-- What `matchActive` finds for one Active incarnation: a table to serve, or what is
    wrong with its copy. -/
def matchOne (s : ServingSnapshot) (tables : List TableCopy) (inc : TableIncarnation) :
    Except Reason TableCopy :=
  match tables.find? fun t => t.tableID = inc.key ∧ t.incarnationSeq = inc.seq with
  | none => .error .tableMissing
  | some t =>
    match t.condition with
    | .foreign => .error .tableForeign
    | .diverged => .error .tableDiverged
    | .excluded => .error .tableExcluded
    | .installed =>
      if t.schemaHash ≠ (s.detail inc.seq).schemaHash ∨ t.copyTable ≠ copyTableName inc.key inc.seq then
        .error .tableMissing
      else .ok t

/-- The tables to serve, or the first reason in the order foreign, diverged, excluded,
    missing. -/
def matchActive (s : ServingSnapshot) (tables : List TableCopy) (active : List TableIncarnation) :
    Except Reason (List TableCopy) :=
  if active = [] then .error .tableMissing
  else
    let found := active.map (matchOne s tables)
    match [Reason.tableForeign, .tableDiverged, .tableExcluded, .tableMissing].find? fun r =>
        found.any fun f => match f with | .error r' => r' = r | .ok _ => false with
    | some r => .error r
    | none => .ok (found.filterMap Except.toOption)

/-- The evaluation of one database of an owner; `reason` is `none` while it serves. -/
structure DbState where
  serving : Bool
  reason : Option Reason
  copy : DatabaseCopy
  haveCopy : Bool
  served : List TableCopy
  lastEntry : TrackFrontier
  /-- The consecutive polls that read `lastEntry`, none of them during an install. -/
  polls : Nat
  /-- The calls of BeforeInstall that no AfterInstall has paired yet. -/
  installing : Nat
  /-- The epoch of the last begin or end of an install. -/
  installed : Nat
  quarantine : Bool
  unreach : Bool

namespace DbState

def fresh : DbState := ⟨false, some .entryUnconfirmed, .zero, false, [], .zero, 0, 0, 0, false, false⟩

/-- Counts a poll that read the entry of the owner. -/
def countPoll (st : DbState) (installing : Bool) : Option TrackFrontier → DbState
  | none => { st with polls := 0 }
  | some e =>
    if installing then { st with polls := 0 }
    else if 0 < st.polls ∧ st.lastEntry = e then { st with polls := st.polls + 1 }
    else { st with lastEntry := e, polls := 1 }

end DbState

/-- What the polls and probes know of an owner. -/
structure OwnerState where
  addr : String
  /-- The first failure, if every probe since it failed. -/
  firstFailure : Option Int
  entry : TrackFrontier
  entrySeen : Bool
  entrySince : Int

def OwnerState.fresh : OwnerState := ⟨"", none, .zero, false, 0⟩

/-- The memory of the server. The epoch counts the begins and ends of installs. -/
structure Server where
  epoch : Nat
  dbs : GoMap OwnerDatabase DbState
  owners : GoMap Nat OwnerState
  table : LeaseTable

/-- `New`, of a configuration that was checked. -/
def newServer (cfg : Config) (table : LeaseTable) : Server :=
  ⟨0, .empty, cfg.ownerHouseGate.foldl (fun m e => m.insert e.1 { OwnerState.fresh with addr := e.2 }) .empty,
    table⟩

namespace Server

variable (s : Server) (key : OwnerDatabase)

/-- The state of a database, which is created if it is missing. -/
def state : DbState := s.dbs.getD key .fresh

def setState (st : DbState) : Server :=
  { s with dbs := s.dbs.insert key st }

def sweep (now : Int) : Server := { s with table := s.table.sweep now }

/-- Revokes the lease of the database, if it is of the owner. -/
def revokeOf : Server :=
  match s.table.of key.database with
  | some l => if l.owner = key.owner then { s with table := s.table.revoke l.id } else s
  | none => s

/-- Every probe of the owner failed since a first failure that is long enough ago. -/
def unreachable (cfg : Config) (s : Server) (owner : Nat) (now : Int) : Bool :=
  match s.owners.lookup owner with
  | none => false
  | some o =>
    match o.firstFailure with
    | none => false
    | some t => o.addr ≠ "" ∧ cfg.ownerUnreachableAfter ≤ now - t

/-- `recordProbe`. -/
def recordProbe (owner : Nat) (failed : Bool) (now : Int) : Server :=
  let o := s.owners.getD owner .fresh
  let o :=
    if failed then
      match o.firstFailure with
      | none => { o with firstFailure := some now }
      | some _ => o
    else { o with firstFailure := none }
  { s with owners := s.owners.insert owner o }

/-! ### Polls -/

end Server

structure CopyRead where
  copy : DatabaseCopy
  ok : Bool
  deriving DecidableEq

/-- What a poll has read without the lock; a manifest that could not be read, or was
    not because serving is off, is `none`. -/
structure PollReads where
  startEpoch : Nat
  view : Option ServingSnapshot
  manifest : Option SafeSnapshotManifest
  pairs : List OwnerDatabase
  reads : GoMap OwnerDatabase CopyRead

section Poll

variable [Replay]

/-- The published entry of an owner. -/
def PollReads.entry (r : PollReads) (owner : Nat) : Option TrackFrontier :=
  r.manifest.bind fun m =>
    if (Replay.ownerEntry m owner).2 then some (Replay.ownerEntry m owner).1 else none

/-- The serving conditions in their order: the first that fails, or the tables to
    serve. -/
def evaluate (cfg : Config) (key : OwnerDatabase) (st : DbState) (installing : Bool)
    (entry : Option TrackFrontier) (duplicate : Bool) (view : Option ServingSnapshot) :
    Except Reason (List TableCopy) :=
  if ¬ cfg.enabled then .error .servingDisabled
  else if installing then .error .installing
  else match entry with
    | none => .error .feedUnavailable
    | some e =>
      if ¬ st.quarantine ∧ ¬ st.unreach then .error .ownerAvailable
      else if st.polls < 2 then .error .entryUnconfirmed
      else if duplicate ∨ ¬ st.haveCopy then .error .tableMissing
      else if ¬ st.copy.auditClean then .error .auditUnclean
      else
        -- without a registry no table is Active
        let found := match view with
          | some snap => matchActive snap st.copy.tables (snap.activeTables key)
          | none => .error .tableMissing
        match found with
        | .error .tableMissing => if st.copy.entry ≠ e then .error .copyBehind else .error .tableMissing
        | .error r => .error r
        | .ok served => if st.copy.entry ≠ e then .error .copyBehind else .ok served

namespace Server

variable (cfg : Config) (r : PollReads) (now : Int) (s : Server)

/-- Notes the published entry of an owner. -/
def noteEntry (owner : Nat) : Server :=
  match r.entry owner with
  | none => s
  | some e =>
    let o := s.owners.getD owner .fresh
    if o.entrySeen ∧ o.entry = e then s
    else { s with owners := s.owners.insert owner { o with entry := e, entrySeen := true, entrySince := now } }

/-- An install of the database is pending, or began or ended since the poll started. -/
def isInstalling (st : DbState) : Bool := 0 < st.installing ∨ r.startEpoch < st.installed

/-- The state of a database as the poll evaluates it. -/
def polled (p : OwnerDatabase) : DbState :=
  let st := s.state p
  let read := r.reads.getD p ⟨.zero, false⟩
  let st := { st with copy := if read.ok then read.copy else .zero, haveCopy := read.ok }
  { st.countPoll (isInstalling r st) (r.entry p.owner) with
    quarantine := match r.view with | some snap => p.owner ∈ snap.quarantinedIndexers | none => false
    unreach := s.unreachable cfg p.owner now }

/-- Evaluates one database; a lease of one that does not serve is revoked. -/
def pollPair (p : OwnerDatabase) : Server :=
  let st := s.polled cfg r now p
  let duplicate := 1 < (r.pairs.filter (·.database = p.database)).length
  match evaluate cfg p st (isInstalling r st) (r.entry p.owner) duplicate r.view with
  | .ok served => s.setState p { st with serving := true, reason := none, served := served }
  | .error reason =>
    (s.setState p { st with serving := false, reason := some reason, served := [] }).revokeOf p

/-- Forgets the databases that are not listed and not installed, and revokes their
    leases. -/
def forget : Server :=
  let gone := s.dbs.toList.filter fun e => e.1 ∉ r.pairs ∧ e.2.installing = 0
  gone.foldl (fun s e => { s.revokeOf e.1 with dbs := s.dbs.erase e.1 }) s

/-- The locked section of a poll. -/
def applyPoll : Server :=
  let s := s.sweep now
  let s := (r.pairs.map (·.owner)).foldl (noteEntry r now) s
  (r.pairs.foldl (pollPair cfg r now) s).forget r

end Server

end Poll

/-! ## Leases and installs -/

/-- Why an acquire fails: a refusal with its text, or another error. -/
inductive AcquireError where
  | refused (msg : String)
  | failed (err : String)
  deriving DecidableEq

/-- The random id of a lease is not that of another one. -/
abbrev NewLeaseID (t : LeaseTable) : Type := { id : String // t.byID.lookup id = none }

namespace Server

variable (now : Int) (key : OwnerDatabase) (s : Server)

/-- The database as `acquire` finds it, if one owner has it. -/
def acquirable (database snapshotID : String) : Except AcquireError (OwnerDatabase × DbState) :=
  match s.dbs.toList.filter (·.1.database = database) with
  | [(key, found)] =>
    if ¬ found.serving then
      let reason := (found.reason.map Reason.text).getD ""
      .error (.refused s!"member serving: database {database} is not served: {reason}")
    else if snapshotID ≠ found.copy.snapshotID then
      .error (.refused s!"member serving: database {database} moved to snapshot {found.copy.snapshotID}; acquire again")
    else .ok (key, found)
  | _ => .error (.refused s!"member serving: database {database} is not served: {Reason.tableMissing.text}")

/-- The table once `l` has replaced the lease of its database. -/
def replace (t : LeaseTable) (l : Lease) (hid : t.byID.lookup l.id = none) : LeaseTable :=
  match h : t.of l.database with
  | none => t.put l hid h
  | some old =>
    (t.finish old.id).put l
      (by rw [LeaseTable.lookup_finish]; split <;> simp [hid])
      (by
        refine LeaseTable.of_eq_none.mpr fun id l' hl' hdb => ?_
        rw [LeaseTable.lookup_finish] at hl'
        split at hl'
        · cases hl'
        · next hne =>
          obtain ⟨hold, hdb'⟩ := LeaseTable.of_eq_some.mp h
          exact hne (LeaseTable.id_unique hl' hold (hdb.trans hdb'.symm)))

/-- Grants a lease of a database that serves at the snapshot. The file is written
    before the memory changes. -/
def acquire (cfg : Config) (now : Int) (database snapshotID : String) (s : Server)
    (newID : Except String (NewLeaseID s.table)) (o : Outcome) (file : LeaseFile) :
    Except AcquireError Lease × Server × LeaseFile :=
  let swept := s.sweep now
  match swept.acquirable database snapshotID with
  | .error e => (.error e, swept, file)
  | .ok (key, _) =>
    match newID with
    | .error e => (.error (.failed s!"serve: lease id: {e}"), swept, file)
    | .ok id =>
      let l : Lease := ⟨id.1, database, key.owner, now, cfg.leaseTTL, false⟩
      let old := (swept.table.of database).map (·.id)
      let file' := o.file file (some (recordLeases swept.table old (some l) none))
      match o.result with
      | .error e => (.error (.failed s!"serve: record leases in serve-leases.json: {e}"), swept, file')
      | .ok _ =>
        (.ok l, { swept with table := replace swept.table l (LeaseTable.lookup_sweep_none id.2) }, file')

inductive RenewError where
  | unknownLease
  | revokedLease
  | failed (err : String)
  deriving DecidableEq

def renew (id : String) (s : Server) (o : Outcome) (file : LeaseFile) :
    Except RenewError Unit × Server × LeaseFile :=
  let s := s.sweep now
  match s.table.byID.lookup id with
  | none => (.error .unknownLease, s, file)
  | some l =>
    if l.revoked then (.error .revokedLease, s, file)
    else
      let file' := o.file file (some (recordLeases s.table none none (some (id, now))))
      match o.result with
      | .error e => (.error (.failed s!"serve: record leases in serve-leases.json: {e}"), s, file')
      | .ok _ => (.ok (), { s with table := s.table.renewAt id now }, file')

/-- A release that the file misses only makes a restart wait for the expiry. -/
def release (id : String) (s : Server) (o : Outcome) (file : LeaseFile) : Server × LeaseFile :=
  let ended := { s with table := (s.table.finish id).sweep now }
  match s.table.byID.lookup id with
  | none => (ended, file)
  | some _ => (ended, o.file file (some (recordLeases ended.table none none none)))

/-- The first section of BeforeInstall: it marks the database and revokes its lease.
    The answer is the lease to wait for. -/
def beforeInstall : Option String × Server :=
  let st := s.state key
  let epoch := s.epoch + 1
  let marked := { s.setState key
    { st with installing := st.installing + 1, installed := epoch, serving := false,
              reason := some .installing, served := [], polls := 0 } with epoch := epoch }
  let swept := marked.sweep now
  match swept.table.of key.database with
  | none => (none, swept)
  | some l => (some l.id, { swept with table := swept.table.revoke l.id })

/-- BeforeInstall takes back its mark when its context ends. -/
def giveUp : Server :=
  let epoch := s.epoch + 1
  match s.dbs.lookup key with
  | none => { s with epoch := epoch }
  | some st =>
    { s.setState key { st with installing := st.installing - 1, installed := epoch } with epoch := epoch }

def afterInstall : Server :=
  match s.dbs.lookup key with
  | none => s
  | some st =>
    let epoch := s.epoch + 1
    { s.setState key { st with installing := st.installing - 1, installed := epoch, polls := 0 } with
      epoch := epoch }

end Server

end ArbiterCore.Serve
