-- SUMMARY: What the sections of the serving server do to leases and databases.
import ArbiterCore.Serve.System

/-!
# The steps of serving

Apart from a grant, a renew and a release, a section of the server only ends leases
that have expired and revokes others (`Thins`). The invariant `Inv` counts the calls
of BeforeInstall: a marked database does not serve, so no lease of it is granted, and
a pass that holds it has seen its last lease end. A poll that reads while an install
runs sees it by its epoch.
-/

namespace ArbiterCore.Serve

open Durable Registry

/-! ## Leases -/

variable {id : String} {t : LeaseTable}

namespace LeaseTable

/-- Some leases of `t` are revoked in `t'`, and some that have expired are gone. -/
structure Thins (now : Int) (t t' : LeaseTable) : Prop where
  back : ∀ {id l'}, t'.byID.lookup id = some l' → ∃ l, t.byID.lookup id = some l ∧
    l'.database = l.database ∧ l'.renewed = l.renewed ∧ l'.ttl = l.ttl ∧ (l'.revoked = false → l.revoked = false)
  keep : ∀ {id l}, t.byID.lookup id = some l → now < l.expiresAt → ∃ l', t'.byID.lookup id = some l'

namespace Thins

variable {now : Int} {t t' t'' : LeaseTable}

theorem refl : Thins now t t := ⟨fun h => ⟨_, h, rfl, rfl, rfl, fun h => h⟩, fun h _ => ⟨_, h⟩⟩

theorem trans (h : Thins now t t') (h' : Thins now t' t'') : Thins now t t'' where
  back hl := by
    obtain ⟨l', hl', hdb', hrenewed', httl', hrevoked'⟩ := h'.back hl
    obtain ⟨l, hl, hdb, hrenewed, httl, hrevoked⟩ := h.back hl'
    exact ⟨l, hl, hdb'.trans hdb, hrenewed'.trans hrenewed, httl'.trans httl, fun h => hrevoked (hrevoked' h)⟩
  keep hl hnow := by
    obtain ⟨l', hl'⟩ := h.keep hl hnow
    obtain ⟨l₀, hl₀, -, hrenewed, httl, -⟩ := h.back hl'
    cases hl.symm.trans hl₀
    exact h'.keep hl' (by simpa [Lease.expiresAt, hrenewed, httl] using hnow)

/-- A lease that has not expired stays, with its expiry. -/
theorem keeps (h : Thins now t t') {l : Lease} (hl : t.byID.lookup id = some l)
    (hnow : now < l.expiresAt) :
    ∃ l', t'.byID.lookup id = some l' ∧ l'.database = l.database ∧ l'.expiresAt = l.expiresAt := by
  obtain ⟨l', hl'⟩ := h.keep hl hnow
  obtain ⟨l₀, hl₀, hdb, hrenewed, httl, -⟩ := h.back hl'
  cases hl.symm.trans hl₀
  exact ⟨l', hl', hdb, by simp [Lease.expiresAt, hrenewed, httl]⟩

theorem sweep : Thins now t (t.sweep now) where
  back hl := ⟨_, (lookup_sweep.mp hl).1, rfl, rfl, rfl, fun h => h⟩
  keep hl hnow := ⟨_, lookup_sweep.mpr ⟨hl, hnow⟩⟩

theorem revoke : Thins now t (t.revoke id) where
  back {id' l'} hl := by
    rw [LeaseTable.revoke, lookup_revise] at hl
    split at hl
    · obtain ⟨l, hlook, rfl⟩ := Option.map_eq_some_iff.mp hl
      exact ⟨l, hlook, rfl, rfl, rfl, fun h => by cases h⟩
    · exact ⟨l', hl, rfl, rfl, rfl, fun h => h⟩
  keep {id' l} hl _ := by
    rw [LeaseTable.revoke, lookup_revise]
    split
    · exact ⟨_, by rw [hl]; rfl⟩
    · exact ⟨l, hl⟩

end Thins

/-- Every lease of a database in `t'` is the one it has in `t`. -/
def Within (t t' : LeaseTable) : Prop :=
  ∀ database l', t'.of database = some l' → ∃ l, t.of database = some l ∧ l.id = l'.id

theorem Within.refl : Within t t := fun _ l' hl' => ⟨l', hl', rfl⟩

theorem Within.of_none {t' : LeaseTable} (h : Within t t') {database : String}
    (hnone : t.of database = none) : t'.of database = none := by
  cases hl' : t'.of database with
  | none => rfl
  | some l' =>
    obtain ⟨l, hl, -⟩ := h _ _ hl'
    simp [hnone] at hl

theorem Within.of_lookup {t' : LeaseTable}
    (h : ∀ {id l'}, t'.byID.lookup id = some l' →
      ∃ l, t.byID.lookup id = some l ∧ l'.database = l.database) : Within t t' := by
  intro database l' hl'
  obtain ⟨hid, hdb⟩ := of_eq_some.mp hl'
  obtain ⟨l, hl, hdb'⟩ := h hid
  exact ⟨l, of_eq_some.mpr ⟨(t.id_eq hl).symm ▸ hl, hdb'.symm.trans hdb⟩, t.id_eq hl⟩

theorem Thins.within {now : Int} {t' : LeaseTable} (h : Thins now t t') : Within t t' :=
  .of_lookup fun hl => (h.back hl).imp fun _ hl => ⟨hl.1, hl.2.1⟩

theorem within_finish : Within t (t.finish id) := by
  refine .of_lookup fun {id' l'} hl => ?_
  rw [lookup_finish] at hl
  split at hl
  · cases hl
  · exact ⟨l', hl, rfl⟩

theorem lookup_renewAt_self (now : Int) {l : Lease} (hl : t.byID.lookup id = some l) :
    (t.renewAt id now).byID.lookup id = some { l with renewed := now } := by
  rw [renewAt, lookup_revise, if_pos rfl, hl]
  rfl

theorem within_renewAt {now : Int} : Within t (t.renewAt id now) := by
  refine .of_lookup fun {id' l'} hl => ?_
  rw [renewAt, lookup_revise] at hl
  split at hl
  · obtain ⟨l, hlook, rfl⟩ := Option.map_eq_some_iff.mp hl
    exact ⟨l, hlook, rfl⟩
  · exact ⟨l', hl, rfl⟩

theorem Within.trans {t' t'' : LeaseTable} (h : Within t t') (h' : Within t' t'') : Within t t'' := by
  intro database l'' hl''
  obtain ⟨l', hl', hid'⟩ := h' _ _ hl''
  obtain ⟨l, hl, hid⟩ := h _ _ hl'
  exact ⟨l, hl, hid.trans hid'⟩

end LeaseTable

open LeaseTable

namespace Server

theorem thins_revokeOf {now : Int} (s : Server) (key : OwnerDatabase) :
    Thins now s.table (s.revokeOf key).table := by
  unfold revokeOf
  split
  · split
    · exact .revoke
    · exact .refl
  · exact .refl

@[simp] theorem dbs_revokeOf (s : Server) (key : OwnerDatabase) : (s.revokeOf key).dbs = s.dbs := by
  unfold revokeOf
  split
  · split <;> rfl
  · rfl

@[simp] theorem epoch_revokeOf (s : Server) (key : OwnerDatabase) :
    (s.revokeOf key).epoch = s.epoch := by
  unfold revokeOf
  split
  · split <;> rfl
  · rfl

/-- The leases of a table that `l` has entered: `l`, and those of the other databases. -/
theorem lookup_replace {l : Lease} {hid} {l' : Lease}
    (h : (replace t l hid).byID.lookup id = some l') :
    id = l.id ∧ l' = l ∨ t.byID.lookup id = some l' ∧ l'.database ≠ l.database := by
  unfold replace at h
  split at h
  · next hnone =>
    rw [lookup_put] at h
    split at h
    · next heq => exact .inl ⟨heq, (Option.some.inj h).symm⟩
    · exact .inr ⟨h, of_eq_none.mp hnone _ _ h⟩
  · next old hold =>
    rw [lookup_put, lookup_finish] at h
    split at h
    · next heq => exact .inl ⟨heq, (Option.some.inj h).symm⟩
    · split at h
      · cases h
      · next hne =>
        obtain ⟨hlook, hdb⟩ := of_eq_some.mp hold
        exact .inr ⟨h, fun heq => hne (id_unique h hlook (heq.trans hdb.symm))⟩

theorem lookup_replace_self {l : Lease} {hid} : (replace t l hid).byID.lookup l.id = some l := by
  unfold replace
  split <;> simp

/-- A lease of another database stays. -/
theorem lookup_replace_of_ne {l l' : Lease} {hid} (h : t.byID.lookup id = some l')
    (hdb : l'.database ≠ l.database) : (replace t l hid).byID.lookup id = some l' := by
  have hne : id ≠ l.id := by
    intro heq
    rw [heq, hid] at h
    cases h
  unfold replace
  split
  · simp [hne, h]
  next old hold =>
  obtain ⟨hlook, hdb'⟩ := of_eq_some.mp hold
  have hne' : id ≠ old.id := by
    intro heq
    rw [heq, hlook] at h
    cases h
    exact hdb hdb'
  simp [lookup_finish, hne, hne', h]

/-! ## Requests of the host -/

variable {key : OwnerDatabase} {s : Server}

/-- A lease is granted when one owner has the database and it serves at the snapshot. -/
theorem acquirable_ok {database snapshotID : String} {found : DbState}
    (h : s.acquirable database snapshotID = .ok (key, found)) :
    key.database = database ∧ s.dbs.lookup key = some found ∧ found.serving = true ∧
      snapshotID = found.copy.snapshotID ∧
      ∀ key' st, key'.database = database → s.dbs.lookup key' = some st → key' = key := by
  unfold acquirable at h
  split at h
  · next key' found' hfilter =>
    split at h
    · cases h
    · next hserving =>
      split at h
      · cases h
      · next hsnap =>
        cases h
        have hmem : ∀ e, e ∈ s.dbs.toList.filter (·.1.database = database) ↔ e = (key, found) := by
          simp [hfilter]
        have hself := (hmem (key, found)).mpr rfl
        simp only [List.mem_filter, GoMap.mem_toList, decide_eq_true_eq] at hself
        refine ⟨hself.2, hself.1, by simpa using hserving, not_not.mp hsnap, fun key' st hdb hst => ?_⟩
        have heq := (hmem (key', st)).mp (by simp [GoMap.mem_toList, hst, hdb])
        exact congrArg Prod.fst heq
  · cases h

/-- The outcomes of an acquire. The file is replaced also by one that fails after it. -/
inductive Acquired (cfg : Config) (now : Int) (database snapshotID : String) (s : Server)
    (newID : Except String (NewLeaseID s.table)) (o : Outcome) (file : LeaseFile) :
    Except AcquireError Lease × Server × LeaseFile → Prop where
  | refused (e : AcquireError) : Acquired cfg now database snapshotID s newID o file (.error e, s.sweep now, file)
  | failed (e : AcquireError) (l : Lease) (err : String) (ho : o = .failedAfter err) :
    Acquired cfg now database snapshotID s newID o file
      (.error e, s.sweep now,
        some (recordLeases (s.sweep now).table (((s.sweep now).table.of database).map (·.id)) (some l) none))
  | granted (key : OwnerDatabase) (found : DbState) (id : NewLeaseID s.table) (hid : newID = .ok id)
    (hfound : (s.sweep now).acquirable database snapshotID = .ok (key, found)) (l : Lease)
    (hl : l = ⟨id.1, database, key.owner, now, cfg.leaseTTL, false⟩)
    (hfresh : (s.sweep now).table.byID.lookup l.id = none) :
    Acquired cfg now database snapshotID s newID o file
      (.ok l, { s.sweep now with table := replace (s.sweep now).table l hfresh },
        some (recordLeases (s.sweep now).table (((s.sweep now).table.of database).map (·.id)) (some l) none))

theorem acquire_acquired (cfg : Config) (now : Int) (database snapshotID : String) (s : Server)
    (newID : Except String (NewLeaseID s.table)) (o : Outcome) (file : LeaseFile) :
    Acquired cfg now database snapshotID s newID o file
      (s.acquire cfg now database snapshotID newID o file) := by
  unfold acquire
  dsimp only
  split
  · exact .refused _
  next key found hfound =>
  split
  · exact .refused _
  next id =>
  cases o with
  | done => exact .granted key found id rfl hfound _ rfl (lookup_sweep_none id.2)
  | failedBefore err => exact .refused _
  | failedAfter err => exact .failed _ _ err rfl

/-- The outcomes of a renew. -/
inductive Renewed (now : Int) (id : String) (s : Server) (o : Outcome) (file : LeaseFile) :
    Except RenewError Unit × Server × LeaseFile → Prop where
  | refused (e : RenewError) : Renewed now id s o file (.error e, s.sweep now, file)
  | failed (e : RenewError) (err : String) (ho : o = .failedAfter err) (l : Lease)
    (hl : (s.sweep now).table.byID.lookup id = some l) (hrevoked : l.revoked = false) :
    Renewed now id s o file
      (.error e, s.sweep now, some (recordLeases (s.sweep now).table none none (some (id, now))))
  | renewed (l : Lease) (hl : (s.sweep now).table.byID.lookup id = some l) :
    Renewed now id s o file
      (.ok (), { s.sweep now with table := (s.sweep now).table.renewAt id now },
        some (recordLeases (s.sweep now).table none none (some (id, now))))

theorem renew_renewed (now : Int) (id : String) (s : Server) (o : Outcome) (file : LeaseFile) :
    Renewed now id s o file (s.renew now id o file) := by
  unfold renew
  dsimp only
  split
  · exact .refused _
  next l hl =>
  split
  · exact .refused _
  next hrevoked =>
  cases o with
  | done => exact .renewed l hl
  | failedBefore err => exact .refused _
  | failedAfter err => exact .failed _ err rfl l hl (by simpa using hrevoked)

/-- The outcomes of a release: the file is replaced, or it stays as it was. -/
theorem file_release (now : Int) (id : String) (s : Server) (o : Outcome) (file : LeaseFile) :
    (s.release now id o file).2 = file ∨
      (s.release now id o file).2 = some (recordLeases ((s.table.finish id).sweep now) none none none) := by
  unfold release
  dsimp only
  split
  · exact .inl rfl
  cases o with
  | done => exact .inr rfl
  | failedBefore err => exact .inl rfl
  | failedAfter err => exact .inr rfl

theorem server_release (now : Int) (id : String) (s : Server) (o : Outcome) (file : LeaseFile) :
    (s.release now id o file).1 = { s with table := (s.table.finish id).sweep now } := by
  unfold release
  dsimp only
  split <;> rfl

/-! ## Databases -/

@[simp] theorem state_setState (s : Server) (key key' : OwnerDatabase) (st : DbState) :
    (s.setState key st).state key' = if key' = key then st else s.state key' :=
  GoMap.getD_insert ..

theorem state_of_lookup {st : DbState} (h : s.dbs.lookup key = some st) :
    s.state key = st := GoMap.getD_of_lookup_some h _

theorem lookup_of_installing (h : 0 < (s.state key).installing) :
    s.dbs.lookup key = some (s.state key) := by
  cases hst : s.dbs.lookup key with
  | none => simp [state, GoMap.getD, hst, DbState.fresh] at h
  | some st => rw [state_of_lookup hst]

section BeforeInstall

variable (now : Int) (key : OwnerDatabase) (s : Server)

theorem thins_beforeInstall : Thins now s.table (s.beforeInstall now key).2.table := by
  unfold beforeInstall
  dsimp only
  split
  · exact .sweep
  · exact Thins.sweep.trans .revoke

@[simp] theorem epoch_beforeInstall : (s.beforeInstall now key).2.epoch = s.epoch + 1 := by
  unfold beforeInstall
  dsimp only
  split <;> rfl

theorem state_beforeInstall (key' : OwnerDatabase) :
    (s.beforeInstall now key).2.state key' =
      if key' = key then
        { s.state key with
          installing := (s.state key).installing + 1, installed := s.epoch + 1, serving := false,
          reason := some .installing, served := [], polls := 0 }
      else s.state key' := by
  unfold beforeInstall
  dsimp only
  split <;> exact state_setState ..

/-- BeforeInstall waits for the lease of its database, if there is one. -/
theorem beforeInstall_lease :
    (s.beforeInstall now key).1 = ((s.beforeInstall now key).2.table.of key.database).map (·.id) := by
  unfold beforeInstall
  dsimp only
  split
  · next h => simp only [h, Option.map_none]
  next l h =>
  obtain ⟨hlook, hdb⟩ := of_eq_some.mp h
  have hrevoked : ((s.sweep now).table.revoke l.id).of key.database = some { l with revoked := true } := by
    refine of_eq_some.mpr ⟨?_, hdb⟩
    rw [revoke, lookup_revise, if_pos rfl]
    exact congrArg (Option.map _) hlook
  exact (congrArg (Option.map (·.id)) hrevoked).symm

end BeforeInstall

/-- What the end of a call of BeforeInstall does to its database: the mark is taken
    back, and the epoch moves. -/
structure Unmarks (key : OwnerDatabase) (s s' : Server) : Prop where
  table : s'.table = s.table
  epoch : s.epoch ≤ s'.epoch
  other : ∀ key', key' ≠ key → s'.state key' = s.state key'
  installing : (s'.state key).installing = (s.state key).installing - 1
  serving : (s'.state key).serving = (s.state key).serving
  copy : (s'.state key).copy = (s.state key).copy
  installed : 0 < (s.state key).installing →
    s.epoch < (s'.state key).installed ∧ (s'.state key).installed = s'.epoch

theorem Unmarks.of_none (h : s.dbs.lookup key = none) {epoch : Nat} (hepoch : s.epoch ≤ epoch) :
    Unmarks key s { s with epoch := epoch } := by
  have hstate : s.state key = .fresh := by simp [state, GoMap.getD, h]
  have hstate' : ({ s with epoch := epoch } : Server).state key = .fresh := hstate
  refine ⟨rfl, hepoch, fun _ _ => rfl, ?_, rfl, rfl, fun hpos => ?_⟩
  · simp [hstate, hstate', DbState.fresh]
  · simp [hstate, DbState.fresh] at hpos

theorem Unmarks.of_some {st st' : DbState} (h : s.dbs.lookup key = some st)
    (hinstalling : st'.installing = st.installing - 1) (hinstalled : st'.installed = s.epoch + 1)
    (hserving : st'.serving = st.serving) (hcopy : st'.copy = st.copy) :
    Unmarks key s { s.setState key st' with epoch := s.epoch + 1 } := by
  have hself : ({ s.setState key st' with epoch := s.epoch + 1 } : Server).state key = st' :=
    (state_setState ..).trans (if_pos rfl)
  refine ⟨rfl, Nat.le_succ _, fun _ hne => (state_setState ..).trans (if_neg hne), ?_, ?_, ?_, fun _ => ?_⟩
  all_goals rw [hself]
  · rw [state_of_lookup h, hinstalling]
  · rw [state_of_lookup h, hserving]
  · rw [state_of_lookup h, hcopy]
  · exact ⟨by omega, hinstalled⟩

theorem giveUp_unmarks (key : OwnerDatabase) (s : Server) : Unmarks key s (s.giveUp key) := by
  unfold giveUp
  dsimp only
  split
  · next h => exact .of_none h (Nat.le_succ _)
  · next st h => exact .of_some h rfl rfl rfl rfl

theorem afterInstall_unmarks (key : OwnerDatabase) (s : Server) : Unmarks key s (s.afterInstall key) := by
  unfold afterInstall
  split
  · next h => exact .of_none h (Nat.le_refl _)
  · next st h => exact .of_some h rfl rfl rfl rfl

/-! ## Polls -/

section Poll

variable [Replay] (cfg : Config) (r : PollReads) (now : Int)

/-- What a poll does to the state of a database it lists: it may start to serve a
    record that was read while no install ran. -/
structure PollStep (r : PollReads) (p : OwnerDatabase) (st st' : DbState) : Prop where
  installing : st'.installing = st.installing
  installed : st'.installed = st.installed
  serving : st'.serving = true →
    r.reads.lookup p = some ⟨st'.copy, true⟩ ∧ isInstalling r st = false

omit [Replay] in
variable {cfg} in
/-- A database serves only if no install ran and its copy was read. -/
theorem evaluate_ok {st : DbState} {installing duplicate : Bool} {entry : Option TrackFrontier}
    {view : Option ServingSnapshot} {served : List TableCopy}
    (h : evaluate cfg key st installing entry duplicate view = .ok served) :
    installing = false ∧ st.haveCopy = true := by
  unfold evaluate at h
  split at h
  · cases h
  split at h
  · cases h
  next hinst =>
  refine ⟨by simpa using hinst, ?_⟩
  split at h
  · cases h
  split at h
  · cases h
  split at h
  · cases h
  split at h
  · cases h
  · next hhave =>
    simp only [not_or, not_not] at hhave
    exact hhave.2

omit [Replay] in
/-- Counting a poll changes neither the copy nor the marks of installs. -/
theorem countPoll_eq (st : DbState) (installing : Bool) (entry : Option TrackFrontier) :
    (st.countPoll installing entry).installing = st.installing ∧
      (st.countPoll installing entry).installed = st.installed ∧
      (st.countPoll installing entry).copy = st.copy ∧
      (st.countPoll installing entry).haveCopy = st.haveCopy := by
  unfold DbState.countPoll
  cases entry with
  | none => exact ⟨rfl, rfl, rfl, rfl⟩
  | some e =>
    dsimp only
    split
    · exact ⟨rfl, rfl, rfl, rfl⟩
    · split <;> exact ⟨rfl, rfl, rfl, rfl⟩

variable (s : Server)

/-- The fields of a state that a poll leaves alone, and its copy. -/
theorem polled_eq (p : OwnerDatabase) :
    (s.polled cfg r now p).installing = (s.state p).installing ∧
      (s.polled cfg r now p).installed = (s.state p).installed ∧
      ((s.polled cfg r now p).haveCopy = true →
        r.reads.lookup p = some ⟨(s.polled cfg r now p).copy, true⟩) := by
  have hread : ∀ read : CopyRead, r.reads.getD p ⟨.zero, false⟩ = read → read.ok = true →
      r.reads.lookup p = some ⟨if read.ok then read.copy else .zero, true⟩ := by
    intro read hread hok
    cases hlook : r.reads.lookup p with
    | none =>
      rw [GoMap.getD, hlook, Option.getD_none] at hread
      simp [← hread] at hok
    | some read' =>
      rw [GoMap.getD, hlook, Option.getD_some] at hread
      subst hread
      cases read'
      simp_all
  unfold polled
  dsimp only
  obtain ⟨hinstalling, hinstalled, hcopy, hhave⟩ := countPoll_eq { s.state p with
    copy := if (r.reads.getD p ⟨.zero, false⟩).ok then (r.reads.getD p ⟨.zero, false⟩).copy else .zero
    haveCopy := (r.reads.getD p ⟨.zero, false⟩).ok }
    (isInstalling r { s.state p with
      copy := if (r.reads.getD p ⟨.zero, false⟩).ok then (r.reads.getD p ⟨.zero, false⟩).copy else .zero
      haveCopy := (r.reads.getD p ⟨.zero, false⟩).ok }) (r.entry p.owner)
  rw [hinstalling, hinstalled, hcopy, hhave]
  exact ⟨rfl, rfl, hread _ rfl⟩

theorem state_pollPair (p : OwnerDatabase) :
    ∃ st, PollStep r p (s.state p) st ∧
      ∀ q, (s.pollPair cfg r now p).state q = if q = p then st else s.state q := by
  obtain ⟨hinstalling, hinstalled, hread⟩ := polled_eq cfg r now s p
  unfold pollPair
  dsimp only
  split
  · next served h =>
    obtain ⟨hidle, hhave⟩ := evaluate_ok h
    refine ⟨{ s.polled cfg r now p with serving := true, reason := none, served := served },
      ⟨hinstalling, hinstalled, fun _ => ⟨hread hhave, ?_⟩⟩, fun q => state_setState ..⟩
    simpa [isInstalling, hinstalling, hinstalled] using hidle
  · next reason h =>
    refine ⟨{ s.polled cfg r now p with serving := false, reason := some reason, served := [] },
      ⟨hinstalling, hinstalled, fun h => by cases h⟩, fun q => ?_⟩
    rw [state, dbs_revokeOf]
    exact state_setState ..

theorem thins_pollPair (p : OwnerDatabase) :
    Thins now s.table (s.pollPair cfg r now p).table := by
  unfold pollPair
  dsimp only
  split
  · exact .refl
  · exact thins_revokeOf (s.setState p _) p

theorem epoch_pollPair (p : OwnerDatabase) : (s.pollPair cfg r now p).epoch = s.epoch := by
  unfold pollPair
  dsimp only
  split
  · rfl
  · exact epoch_revokeOf ..

omit [Replay] in
variable {r} in
theorem PollStep.trans {p : OwnerDatabase} {st st' st'' : DbState} (h : PollStep r p st st')
    (h' : PollStep r p st' st'') : PollStep r p st st'' := by
  refine ⟨h'.installing.trans h.installing, h'.installed.trans h.installed, fun hs => ?_⟩
  obtain ⟨hread, hidle⟩ := h'.serving hs
  exact ⟨hread, by simpa [isInstalling, h.installing, h.installed] using hidle⟩

/-- The loop over the listed databases. -/
theorem foldl_pollPair (ps : List OwnerDatabase) (s : Server) :
    let s' := ps.foldl (pollPair cfg r now) s
    Thins now s.table s'.table ∧ s'.epoch = s.epoch ∧ ∀ q,
      if q ∈ ps then PollStep r q (s.state q) (s'.state q) else s'.state q = s.state q := by
  induction ps generalizing s with
  | nil => exact ⟨.refl, rfl, fun q => by simp⟩
  | cons p ps ih =>
    obtain ⟨hthins, hepoch, hstate⟩ := ih (s.pollPair cfg r now p)
    refine ⟨(thins_pollPair cfg r now s p).trans hthins, hepoch.trans (epoch_pollPair cfg r now s p), fun q => ?_⟩
    obtain ⟨st, hstep, hfirst⟩ := state_pollPair cfg r now s p
    have hrest := hstate q
    rw [hfirst q] at hrest
    -- a database may be listed again in the rest
    by_cases hq : q = p
    · subst hq
      rw [if_pos rfl] at hrest
      rw [if_pos List.mem_cons_self]
      split at hrest
      · exact hstep.trans hrest
      · rwa [List.foldl_cons, hrest]
    · rw [if_neg hq] at hrest
      simpa only [List.foldl_cons, List.mem_cons, hq, false_or] using hrest

omit [Replay] in
theorem state_foldl_forget (es : List (OwnerDatabase × DbState)) (s : Server) :
    let s' := es.foldl (fun s e => { s.revokeOf e.1 with dbs := s.dbs.erase e.1 }) s
    Thins now s.table s'.table ∧ s'.epoch = s.epoch ∧ ∀ q,
      s'.state q = if q ∈ es.map (·.1) then .fresh else s.state q := by
  induction es generalizing s with
  | nil => exact ⟨.refl, rfl, fun q => by simp⟩
  | cons e es ih =>
    obtain ⟨hthins, hepoch, hstate⟩ := ih { s.revokeOf e.1 with dbs := s.dbs.erase e.1 }
    refine ⟨(thins_revokeOf s e.1).trans hthins, hepoch.trans (epoch_revokeOf ..), fun q => ?_⟩
    rw [List.foldl_cons, hstate q]
    have hfirst : ({ s.revokeOf e.1 with dbs := s.dbs.erase e.1 } : Server).state q =
        if q = e.1 then .fresh else s.state q := by
      simp only [state, GoMap.getD, GoMap.lookup_erase]
      split <;> rfl
    rw [hfirst]
    simp only [List.map_cons, List.mem_cons]
    by_cases hq : q = e.1
    · simp [hq]
    · simp only [hq, false_or, if_false]

omit [Replay] in
/-- A database that is not listed is forgotten, unless an install of it is pending. -/
theorem forget_state :
    Thins now s.table (s.forget r).table ∧ (s.forget r).epoch = s.epoch ∧ ∀ q,
      (s.forget r).state q =
        if q ∉ r.pairs ∧ (s.state q).installing = 0 then .fresh else s.state q := by
  obtain ⟨hthins, hepoch, hstate⟩ := state_foldl_forget now
    (s.dbs.toList.filter fun e => e.1 ∉ r.pairs ∧ e.2.installing = 0) s
  refine ⟨hthins, hepoch, fun q => ?_⟩
  have hmem : q ∈ (s.dbs.toList.filter fun e => e.1 ∉ r.pairs ∧ e.2.installing = 0).map (·.1) ↔
      ∃ st, s.dbs.lookup q = some st ∧ q ∉ r.pairs ∧ st.installing = 0 := by
    simp [GoMap.mem_toList, and_comm]
  rw [forget, hstate q]
  cases hst : s.dbs.lookup q with
  | none =>
    have hfresh : s.state q = .fresh := by simp [state, GoMap.getD, hst]
    simp [hfresh]
  | some st =>
    have hiff : q ∈ (s.dbs.toList.filter fun e => e.1 ∉ r.pairs ∧ e.2.installing = 0).map (·.1) ↔
        q ∉ r.pairs ∧ (s.state q).installing = 0 := by
      rw [hmem, state_of_lookup hst]
      simp [hst]
    simp only [hiff]

theorem noteEntry_eq (owner : Nat) :
    (s.noteEntry r now owner).table = s.table ∧ (s.noteEntry r now owner).epoch = s.epoch ∧
      (s.noteEntry r now owner).dbs = s.dbs := by
  unfold noteEntry
  split
  · exact ⟨rfl, rfl, rfl⟩
  · dsimp only
    split <;> exact ⟨rfl, rfl, rfl⟩

theorem foldl_noteEntry (owners : List Nat) (s : Server) :
    (owners.foldl (noteEntry r now) s).table = s.table ∧
      (owners.foldl (noteEntry r now) s).epoch = s.epoch ∧
      (owners.foldl (noteEntry r now) s).dbs = s.dbs := by
  induction owners generalizing s with
  | nil => exact ⟨rfl, rfl, rfl⟩
  | cons owner owners ih =>
    obtain ⟨htable, hepoch, hdbs⟩ := ih (s.noteEntry r now owner)
    obtain ⟨htable', hepoch', hdbs'⟩ := noteEntry_eq r now s owner
    exact ⟨htable.trans htable', hepoch.trans hepoch', hdbs.trans hdbs'⟩

/-- What the locked section of a poll does to a database. -/
structure Polls (r : PollReads) (s s' : Server) (q : OwnerDatabase) : Prop where
  installing : (s'.state q).installing = (s.state q).installing
  installed : (s'.state q).installed ≤ (s.state q).installed
  serving : (s'.state q).serving = true →
    (s'.state q).copy = (s.state q).copy ∧ (s.state q).serving = true ∧ 0 < (s.state q).installing ∨
    r.reads.lookup q = some ⟨(s'.state q).copy, true⟩ ∧ isInstalling r (s.state q) = false

theorem applyPoll_polls :
    Thins now s.table (s.applyPoll cfg r now).table ∧ (s.applyPoll cfg r now).epoch = s.epoch ∧
      ∀ q, Polls r s (s.applyPoll cfg r now) q := by
  obtain ⟨htable, hepoch, hdbs⟩ := foldl_noteEntry r now (r.pairs.map (·.owner)) (s.sweep now)
  obtain ⟨hthins', hepoch', hstate'⟩ := foldl_pollPair cfg r now r.pairs
    ((r.pairs.map (·.owner)).foldl (noteEntry r now) (s.sweep now))
  obtain ⟨hthins'', hepoch'', hstate''⟩ := forget_state r now
    (r.pairs.foldl (pollPair cfg r now) ((r.pairs.map (·.owner)).foldl (noteEntry r now) (s.sweep now)))
  refine ⟨?_, (hepoch''.trans hepoch').trans hepoch, fun q => ?_⟩
  · rw [htable] at hthins'
    exact Thins.sweep.trans (hthins'.trans hthins'')
  have hstart : ((r.pairs.map (·.owner)).foldl (noteEntry r now) (s.sweep now)).state q = s.state q :=
    congrArg (fun dbs => GoMap.getD dbs q DbState.fresh) hdbs
  have hpair := hstate' q
  rw [hstart] at hpair
  have hforget := hstate'' q
  by_cases hq : q ∈ r.pairs
  · rw [if_neg (fun h => h.1 hq)] at hforget
    rw [if_pos hq, ← hforget] at hpair
    exact ⟨hpair.installing, hpair.installed.le, fun h => .inr (hpair.serving h)⟩
  rw [if_neg hq] at hpair
  rw [hpair] at hforget
  by_cases hidle : (s.state q).installing = 0
  · rw [if_pos ⟨hq, hidle⟩] at hforget
    refine ⟨?_, ?_, fun h => ?_⟩
    · exact (congrArg DbState.installing hforget).trans hidle.symm
    · exact (congrArg DbState.installed hforget).le.trans (Nat.zero_le _)
    · have hserving := (congrArg DbState.serving hforget).symm.trans h
      cases hserving
  · rw [if_neg (fun h => hidle h.2)] at hforget
    refine ⟨congrArg DbState.installing hforget, (congrArg DbState.installed hforget).le, fun h => .inl ?_⟩
    exact ⟨congrArg DbState.copy hforget, (congrArg DbState.serving hforget).symm.trans h,
      Nat.pos_of_ne_zero hidle⟩

end Poll

end Server

end ArbiterCore.Serve
