-- SUMMARY: The serving server, its polls, the passes and the host as one state machine with crashes.
import ArbiterCore.Serve.Server

/-!
# Serving and installing

A process runs the server with one poll at a time (`Run` polls in a loop) and any
number of install passes. Each action is one locked section, one unlocked read, one
statement of a pass or a move of the clock. What the registry, the arbiter and the
journal answer to a poll is arbitrary. A process may crash, which loses its memory
and keeps the lease file, and start again, also with another configuration.
-/

namespace ArbiterCore.Serve

open Durable Registry

/-! ## The parties -/

/-- A poll, by its next read. -/
inductive Poll where
  | registry (startEpoch : Nat)
  | manifest (startEpoch : Nat) (view : Option ServingSnapshot)
  | databases (startEpoch : Nat) (view : Option ServingSnapshot) (manifest : Option SafeSnapshotManifest)
  | copies (r : PollReads) (todo : List OwnerDatabase)

/-- Where a pass is: between two statements, inside BeforeInstall of a database with
    the lease it waits for, or past its last statement. -/
inductive Phase where
  | running
  | waiting (database leaseID : String)
  | ending
  deriving DecidableEq

/-- The `installGates` of a pass. -/
structure Gates where
  owner : Nat
  seen : List String
  held : List String
  phase : Phase
  deriving DecidableEq

namespace Gates

/-- `check` returns nil. -/
def hold (g : Gates) (database : String) : Gates :=
  { g with seen := database :: g.seen, held := g.held ++ [database], phase := .running }

/-- The databases of the pass that are marked as installing. -/
def marks (g : Gates) : List OwnerDatabase :=
  (match g.phase with
    | .waiting database _ => g.held ++ [database]
    | _ => g.held).map (⟨g.owner, ·⟩)

end Gates

/-- What a host knows of a lease it was granted. -/
structure Grant where
  database : String
  owner : Nat
  expiry : Int
  deriving DecidableEq

def Grant.of (l : Lease) : Grant := ⟨l.database, l.owner, l.expiresAt⟩

inductive Event where
  /-- A statement of a pass changed a copy. -/
  | changed (key : OwnerDatabase)
  /-- A poll read the record of a copy. -/
  | read (key : OwnerDatabase) (r : CopyRead)
  deriving DecidableEq

/-- The record of a copy was read, and no statement has changed a stale copy since. -/
def freshRead (stale : OwnerDatabase → Bool) (p : OwnerDatabase) (r : CopyRead) : List Event → Bool
  | [] => false
  | .read p' r' :: log => (p' = p ∧ r' = r) ∨ freshRead stale p r log
  | .changed p' :: log => ¬ stale p' ∧ freshRead stale p r log

/-- The process, its file and the clock. No code reads the last three fields: the lease
    ids that were drawn, the leases that hosts hold, and the history, newest first. -/
structure World where
  up : Bool
  cfg : Config
  server : Server
  poll : Option Poll
  passes : List Gates
  file : LeaseFile
  now : Int
  issued : List String
  held : GoMap String Grant
  log : List Event

inductive Wake where
  | done | timer | cancelled
  deriving DecidableEq

/-- The actions of a process, with the answers it gets. -/
inductive Action where
  | serving
  | recordProbe (owner : Nat) (failed : Bool)
  | acquire (database snapshotID : String) (newID : Except String String) (o : Outcome)
  | renew (id : String) (o : Outcome)
  | release (id : String) (o : Outcome)
  | pollStart
  | pollRegistry (view : Option ServingSnapshot)
  | pollManifest (manifest : Option SafeSnapshotManifest)
  | pollDatabases (pairs : List OwnerDatabase)
  | pollDatabase (read : CopyRead)
  | pollCancelled
  | pollApply
  | passBegin (owner : Nat)
  | passCheck (pass : Nat) (database : String)
  | passWake (pass : Nat) (wake : Wake)
  | passStatement (pass : Nat) (database : String)
  | passEnd (pass : Nat)
  | passAfter (pass : Nat)

inductive Move where
  | advance (d : Nat)
  | act (a : Action)
  | crash
  | restart (cfg : Config)

/-- The move happens within the life of one process. -/
def Move.inProcess : Move → Bool
  | .advance _ | .act _ => true
  | .crash | .restart _ => false

namespace World

variable [Replay] [Net] (w : World) (id : String)

/-- A lease id is random: no lease had it before. -/
def fresh : Except String String → Option (Except String (NewLeaseID w.server.table))
  | .error e => some (.error e)
  | .ok id =>
    if h : id ∉ w.issued ∧ w.server.table.byID.lookup id = none then some (.ok ⟨id, h.2⟩) else none

/-- A granted lease replaces that of its database. -/
def grant (held : GoMap String Grant) (l : Lease) : GoMap String Grant :=
  (held.eraseWhere fun id => (held.lookup id).any (·.database = l.database)).insert l.id
    (.of l)

/-- A host learns the new expiry of a lease that it holds. -/
def regrant (held : GoMap String Grant) (l : Lease) : GoMap String Grant :=
  match held.lookup l.id with
  | some _ => held.insert l.id (.of l)
  | none => held

def acquire (database snapshotID : String) (newID : Except String String) (o : Outcome) : Option World :=
  (w.fresh newID).map fun id =>
    let r := w.server.acquire w.cfg w.now database snapshotID id o w.file
    { w with
      server := r.2.1
      file := r.2.2
      issued := newID.toOption.toList ++ w.issued
      held := match r.1 with
        | .ok l => grant w.held l
        | .error _ => w.held }

def renew (o : Outcome) : World :=
  let r := w.server.renew w.now id o w.file
  { w with
    server := r.2.1
    file := r.2.2
    held := match r.1, r.2.1.table.byID.lookup id with
      | .ok _, some l => regrant w.held l
      | _, _ => w.held }

def release (o : Outcome) : World :=
  let r := w.server.release w.now id o w.file
  { w with server := r.1, file := r.2, held := w.held.erase id }

/-- `check` of a pass: the first call for a database is BeforeInstall. -/
def check (i : Nat) (g : Gates) (database : String) : World :=
  if database ∈ g.seen then w
  else
    let r := w.server.beforeInstall w.now ⟨g.owner, database⟩
    let g' := match r.1 with
      | none => g.hold database
      | some id => { g with phase := .waiting database id }
    { w with server := r.2, passes := w.passes.set i g' }

/-- BeforeInstall wakes: its lease has ended, its timer fired, or its context ended. -/
def wake (i : Nat) (g : Gates) (database leaseID : String) : Wake → Option World
  | .done =>
    if w.server.table.byID.lookup leaseID = none then
      some { w with passes := w.passes.set i (g.hold database) }
    else none
  | .timer => some { w with server := w.server.sweep w.now }
  | .cancelled =>
    some { w with
      server := w.server.giveUp ⟨g.owner, database⟩
      passes := w.passes.set i { g with phase := .ending } }

def act : Action → Option World
  | .serving => some { w with server := w.server.sweep w.now }
  | .recordProbe owner failed => some { w with server := w.server.recordProbe owner failed w.now }
  | .acquire database snapshotID newID o => w.acquire database snapshotID newID o
  | .renew id o => some (w.renew id o)
  | .release id o => some (w.release id o)
  | .pollStart =>
    match w.poll with
    | none => some { w with poll := some (.registry w.server.epoch) }
    | some _ => none
  | .pollRegistry view =>
    match w.poll with
    | some (.registry startEpoch) => some { w with poll := some (.manifest startEpoch view) }
    | _ => none
  | .pollManifest manifest =>
    match w.poll with
    | some (.manifest startEpoch view) =>
      -- with serving off nothing is read from the arbiter
      let manifest := if w.cfg.enabled then manifest else none
      some { w with poll := some (.databases startEpoch view manifest) }
    | _ => none
  | .pollDatabases pairs =>
    match w.poll with
    | some (.databases startEpoch view manifest) =>
      some { w with poll := some (.copies ⟨startEpoch, view, manifest, pairs, .empty⟩ pairs) }
    | _ => none
  | .pollDatabase read =>
    match w.poll with
    | some (.copies r (p :: todo)) =>
      some { w with
        poll := some (.copies { r with reads := r.reads.insert p read } todo)
        log := .read p read :: w.log }
    | _ => none
  | .pollCancelled =>
    match w.poll with
    | some (.copies _ []) => some { w with poll := none }
    | _ => none
  | .pollApply =>
    match w.poll with
    | some (.copies r []) => some { w with server := w.server.applyPoll w.cfg r w.now, poll := none }
    | _ => none
  | .passBegin owner => some { w with passes := w.passes ++ [⟨owner, [], [], .running⟩] }
  | .passCheck i database =>
    match w.passes[i]? with
    | some g => if g.phase = .running then some (w.check i g database) else none
    | none => none
  | .passWake i k =>
    match w.passes[i]? with
    | some g =>
      match g.phase with
      | .waiting database leaseID => w.wake i g database leaseID k
      | _ => none
    | none => none
  | .passStatement i database =>
    match w.passes[i]? with
    | some g =>
      if g.phase = .running ∧ database ∈ g.held then
        some { w with log := .changed ⟨g.owner, database⟩ :: w.log }
      else none
    | none => none
  | .passEnd i =>
    match w.passes[i]? with
    | some g =>
      if g.phase = .running then some { w with passes := w.passes.set i { g with phase := .ending } }
      else none
    | none => none
  | .passAfter i =>
    match w.passes[i]? with
    | some g =>
      match g.phase, g.held with
      | .ending, database :: held =>
        some { w with
          server := w.server.afterInstall ⟨g.owner, database⟩
          passes := w.passes.set i { g with held := held } }
      | _, _ => none
    | none => none

/-- `New` with a checked configuration and the leases of the file. -/
def restart (cfg : Config) : Option World :=
  let cfg := cfg.withDefaults
  match cfg.validate, restoreLeases w.now w.file with
  | .ok _, .ok table =>
    some { w with up := true, cfg := cfg, server := newServer cfg table, poll := none, passes := [] }
  | _, _ => none

def move : Move → Option World
  | .advance d => some { w with now := w.now + d }
  | .act a => if w.up then w.act a else none
  | .crash =>
    some { w with up := false, server := ⟨0, .empty, .empty, .empty⟩, poll := none, passes := [] }
  | .restart cfg => if w.up then none else w.restart cfg

/-- Runs moves that all satisfy a test. -/
def run (ok : World → Move → Bool) : List Move → World → Option World
  | [], w => some w
  | m :: ms, w => if ok w m then (w.move m).bind (run ok ms) else none

/-- What every move of a run keeps holds at its end. -/
theorem run_keeps {ok : World → Move → Bool} {P : World → Prop}
    (hstep : ∀ w m w', P w → ok w m = true → w.move m = some w' → P w') {ms : List Move}
    {w w' : World} (h : P w) (hrun : run ok ms w = some w') : P w' := by
  induction ms generalizing w with
  | nil =>
    cases hrun
    exact h
  | cons m ms ih =>
    simp only [run] at hrun
    split at hrun
    · next hok =>
      obtain ⟨w₁, hmove, hrest⟩ := Option.bind_eq_some_iff.mp hrun
      exact ih (hstep w m w₁ h hok hmove) hrest
    · cases hrun

/-- Before the first start: no host has a lease, and the file lists what it lists. -/
def initial (file : LeaseFile) (now : Int) : World where
  up := false
  cfg := ⟨false, "", 0, 0, 0, 0, []⟩
  server := ⟨0, .empty, .empty, .empty⟩
  poll := none
  passes := []
  file := file
  now := now
  issued := (file.getD []).map (·.leaseID)
  held := .empty
  log := []

/-- The host holds the lease: it was granted, and neither released, replaced nor expired. -/
def Live (g : Grant) : Prop := w.held.lookup id = some g ∧ w.now < g.expiry

omit [Replay] [Net] in
instance (w : World) (id : String) (g : Grant) : Decidable (w.Live id g) :=
  inferInstanceAs (Decidable (_ ∧ _))

end World

end ArbiterCore.Serve
