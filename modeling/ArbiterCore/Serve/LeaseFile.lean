-- SUMMARY: The lease file lists every held lease, unless a replacing acquire fails after its rename.
import ArbiterCore.Serve.Frozen

/-!
# The lease file

The file is written before a lease is granted or renewed, so that a restarted server
takes over every lease that a host may hold. There are two gaps. A record has its
duration in milliseconds, so a time to live with a fraction of one is cut. And an
acquire that replaces a lease drops its record: when the write fails after the rename
(the sync of the directory, or a crash at that point), the old lease is still held and
no longer recorded.
-/

namespace ArbiterCore.Serve

open Durable LeaseTable

/-! ## Records -/

/-- A duration of whole milliseconds. -/
def Whole (d : Duration) : Prop := millisecond ∣ d

instance (d : Duration) : Decidable (Whole d) := inferInstanceAs (Decidable (_ ∣ _))

variable {t t' : LeaseTable} {l : Lease} {id : String} {now : Int} {drop : Option String}

/-- The record of a lease of whole milliseconds has its expiry. -/
theorem expiresAt_record (h : Whole l.ttl) (renewed : Int) :
    (l.record renewed).expiresAt = renewed + l.ttl := by
  unfold LeaseRecord.expiresAt Lease.record
  rw [Int.tdiv_mul_cancel h]

theorem mem_recordLeases
    (hl : t.byID.lookup id = some l) (hdrop : drop ≠ some id) (add : Option Lease)
    (renewing : Option (String × Int)) :
    l.record (l.renewedWith renewing) ∈ recordLeases t drop add renewing := by
  unfold recordLeases
  rw [List.mem_insertionSort]
  have hkept : l.record (l.renewedWith renewing) ∈ t.byID.toList.filterMap fun e =>
      if drop = some e.1 then none else some (e.2.record (e.2.renewedWith renewing)) :=
    List.mem_filterMap.mpr ⟨(id, l), GoMap.mem_toList.mpr hl, if_neg hdrop⟩
  cases add with
  | none => exact hkept
  | some l' => exact List.mem_append_left _ hkept

/-- Recording a renew does not take the expiry back. -/
theorem expiresAt_le_renewedWith (h : l.id = id → l.renewed ≤ now) :
    l.expiresAt ≤ l.renewedWith (some (id, now)) + l.ttl := by
  unfold Lease.expiresAt Lease.renewedWith
  dsimp only
  split
  · next hid =>
    have := h hid.symm
    omega
  · exact Int.le_refl _

theorem mem_recordLeases_add {renewing : Option (String × Int)}
    (l : Lease) : l.record l.renewed ∈ recordLeases t drop (some l) renewing := by
  unfold recordLeases
  rw [List.mem_insertionSort]
  exact List.mem_append_right _ List.mem_cons_self

/-! ## Restarts -/

theorem restoreLease_ok {r : LeaseRecord} (h : restoreLease now t r = .ok t') :
    t.byID.lookup r.leaseID = none ∧ ∀ id, t'.byID.lookup id =
      if id = r.leaseID ∧ now < r.expiresAt then some r.lease else t.byID.lookup id := by
  unfold restoreLease at h
  split at h
  · cases h
  split at h
  · cases h
  split at h
  · next hnew =>
    refine ⟨hnew.2, fun id => ?_⟩
    have hexpiry : r.lease.expiresAt = r.expiresAt := rfl
    split at h
    · next hexpired =>
      cases h
      rw [if_neg]
      omega
    · next hlive =>
      cases h
      rw [lookup_put]
      by_cases hid : id = r.lease.id
      · rw [if_pos hid, if_pos (⟨hid, by omega⟩ : id = r.leaseID ∧ now < r.expiresAt)]
      · rw [if_neg hid, if_neg fun h : id = r.leaseID ∧ now < r.expiresAt => hid h.1]
  · cases h

theorem foldlM_restoreLease {rs : List LeaseRecord}
    (h : rs.foldlM (restoreLease now) t = .ok t') :
    (∀ id l, t.byID.lookup id = some l → t'.byID.lookup id = some l) ∧
      (∀ r ∈ rs, now < r.expiresAt → t'.byID.lookup r.leaseID = some r.lease) ∧
      ∀ id l, t'.byID.lookup id = some l → t.byID.lookup id = some l ∨ ∃ r, l = LeaseRecord.lease r := by
  induction rs generalizing t with
  | nil =>
    cases h
    exact ⟨fun _ _ hl => hl, nofun, fun _ _ hl => .inl hl⟩
  | cons r rs ih =>
    rw [List.foldlM_cons] at h
    cases hr : restoreLease now t r with
    | error e =>
      rw [hr] at h
      cases h
    | ok t₁ =>
      rw [hr] at h
      obtain ⟨hnone, hlook⟩ := restoreLease_ok hr
      obtain ⟨hkeep, hrest, hback⟩ := ih h
      refine ⟨fun id l hl => hkeep id l ?_, fun r' hr' hlive => ?_, fun id l hl => ?_⟩
      · rw [hlook, if_neg, hl]
        intro hid
        rw [hid.1, hnone] at hl
        cases hl
      · rcases List.mem_cons.mp hr' with rfl | hr'
        · exact hkeep _ _ (by rw [hlook, if_pos ⟨rfl, hlive⟩])
        · exact hrest r' hr' hlive
      rcases hback id l hl with hl | hl
      · rw [hlook] at hl
        split at hl
        · exact .inr ⟨r, (Option.some.inj hl).symm⟩
        · exact .inl hl
      · exact .inr hl

/-! ## The invariant -/

/-- A configuration has whole milliseconds, and an acquire that replaces a lease does not
    fail after its rename. -/
def Move.safe (w : World) : Move → Bool
  | .restart cfg => Whole cfg.withDefaults.leaseTTL
  | .act (.acquire database _ _ (.failedAfter _)) => ((w.server.sweep w.now).table.of database).isNone
  | _ => true

namespace World

/-- The file lists what a host holds, at least until it expires. -/
def Listed (w : World) (id : String) (g : Grant) : Prop :=
  ∃ r ∈ w.file.getD [], r.leaseID = id ∧ r.database = g.database ∧ g.expiry ≤ r.expiresAt

structure Covered (w : World) : Prop where
  listed : ∀ id g, w.Live id g → w.Listed id g
  whole : ∀ id l, w.server.table.byID.lookup id = some l → Whole l.ttl
  ttl : w.up = true → Whole w.cfg.leaseTTL
  renewed : ∀ id l, w.server.table.byID.lookup id = some l → l.revoked = false → l.renewed ≤ w.now

/-- A lease in memory that the written file keeps covers its grant. -/
theorem listed_of_recorded {w : World} {add : Option Lease}
    {renewing : Option (String × Int)} (hfile : w.file = some (recordLeases t drop add renewing))
    (hl : t.byID.lookup id = some l) (hdrop : drop ≠ some id) (hwhole : Whole l.ttl)
    {g : Grant} (hdb : l.database = g.database) (hexpiry : g.expiry ≤ l.renewedWith renewing + l.ttl) :
    w.Listed id g := by
  refine ⟨_, by rw [hfile]; exact mem_recordLeases hl hdrop add renewing, t.id_eq hl, hdb, ?_⟩
  rw [expiresAt_record hwhole]
  exact hexpiry

/-- What a host holds survives a sweep. -/
theorem Known.swept {w : World} (h : Known w) {id : String} {g : Grant} (hg : w.Live id g) :
    ∃ l, (w.server.sweep w.now).table.byID.lookup id = some l ∧ l.database = g.database ∧
      g.expiry ≤ l.expiresAt := by
  obtain ⟨l, hl, hdb, hexpiry⟩ := h.live id g hg
  have hlive := hg.2
  exact ⟨l, lookup_sweep.mpr ⟨hl, by omega⟩, hdb, hexpiry⟩

namespace Covered

variable {w w' : World}

/-- A process that is down covers what its file lists. -/
theorem of_empty (htable : w.server.table = .empty) (hup : w.up = false)
    (hlisted : ∀ id g, w.Live id g → w.Listed id g) : Covered w := by
  have hnone : ∀ id, w.server.table.byID.lookup id = none := by
    rw [htable]
    exact GoMap.lookup_empty
  refine ⟨hlisted, fun id l hl => ?_, fun h => ?_, fun id l hl => ?_⟩
  · rw [hnone id] at hl
    cases hl
  · rw [hup] at h
    cases h
  · rw [hnone id] at hl
    cases hl

theorem thins (h : Covered w) (hheld : w'.held = w.held) (hfile : w'.file = w.file) (hnow : w'.now = w.now)
    (hup : w'.up = w.up) (hcfg : w'.cfg = w.cfg) (hthins : Thins w.now w.server.table w'.server.table) :
    Covered w' := by
  refine ⟨fun id g hg => ?_, fun id l hl => ?_, by rw [hup, hcfg]; exact h.ttl, fun id l hl hrev => ?_⟩
  · unfold Live at hg
    rw [hheld, hnow] at hg
    unfold Listed
    rw [hfile]
    exact h.listed id g hg
  · obtain ⟨l₀, hl₀, -, -, httl, -⟩ := hthins.back hl
    exact httl ▸ h.whole id l₀ hl₀
  · obtain ⟨l₀, hl₀, -, hrenewed, -, hrevoked⟩ := hthins.back hl
    rw [hrenewed, hnow]
    exact h.renewed id l₀ hl₀ (hrevoked hrev)

theorem sweep (h : Covered w) : Covered { w with server := w.server.sweep w.now } :=
  h.thins rfl rfl rfl rfl rfl .sweep

/-- An acquire: the lease that it may drop from the file is replaced. -/
theorem acquire (h : Covered w) (hknown : Known w) (hup : w.up = true) {database snapshotID : String}
    {newID : Except String String} {o : Outcome}
    (hok : Move.safe w (.act (.acquire database snapshotID newID o)) = true)
    (hact : w.acquire database snapshotID newID o = some w') : Covered w' := by
  obtain ⟨id, -, rfl⟩ := Option.map_eq_some_iff.mp hact
  have hacq := Server.acquire_acquired w.cfg w.now database snapshotID w.server id o w.file
  dsimp only
  generalize w.server.acquire w.cfg w.now database snapshotID id o w.file = r at hacq ⊢
  cases hacq with
  | refused e => exact h.thins rfl rfl rfl rfl rfl .sweep
  | failed e l err ho =>
    subst ho
    have hnone : (w.server.sweep w.now).table.of database = none := by
      simpa [Move.safe] using hok
    refine ⟨fun x g hg => ?_, h.sweep.whole, h.ttl, h.sweep.renewed⟩
    obtain ⟨l', hl', hdb, hexpiry⟩ := hknown.swept hg
    have hexpiry : g.expiry ≤ l'.renewedWith none + l'.ttl := hexpiry
    exact listed_of_recorded rfl hl' (by simp [hnone]) (h.sweep.whole x l' hl') hdb hexpiry
  | granted key found id' hid hfound l hl hfresh =>
    have hwhole : Whole l.ttl := by
      rw [hl]
      exact h.ttl hup
    have hdatabase : l.database = database := by rw [hl]
    have hrenewed : l.renewed = w.now := by rw [hl]
    refine ⟨fun x g hg => ?_, fun x l' hl' => ?_, h.ttl, fun x l' hl' hrev => ?_⟩
    · obtain ⟨hg, hlive⟩ := hg
      rcases lookup_grant hg with ⟨rfl, rfl⟩ | ⟨hg, hne⟩
      · refine ⟨l.record l.renewed, mem_recordLeases_add l, rfl, rfl, ?_⟩
        rw [expiresAt_record hwhole]
        exact Int.le_refl _
      · obtain ⟨l', hl', hdb, hexpiry⟩ := hknown.swept ⟨hg, hlive⟩
        have hexpiry : g.expiry ≤ l'.renewedWith none + l'.ttl := hexpiry
        refine listed_of_recorded rfl hl' (fun hdrop => ?_) (h.sweep.whole x l' hl') hdb hexpiry
        -- the dropped lease was of the granted database
        obtain ⟨old, hold, hid⟩ := Option.map_eq_some_iff.mp hdrop
        obtain ⟨hlook, hdb'⟩ := of_eq_some.mp hold
        rw [hid, hl'] at hlook
        cases hlook
        exact hne (hdb.symm.trans (hdb'.trans hdatabase.symm))
    · rcases Server.lookup_replace hl' with ⟨-, rfl⟩ | ⟨hl', -⟩
      · exact hwhole
      · exact h.sweep.whole x l' hl'
    · rcases Server.lookup_replace hl' with ⟨-, rfl⟩ | ⟨hl', -⟩
      · exact hrenewed.le
      · exact h.sweep.renewed x l' hl' hrev

theorem renew (h : Covered w) (hknown : Known w) (id : String) (o : Outcome) : Covered (w.renew id o) := by
  have hren := Server.renew_renewed w.now id w.server o w.file
  unfold World.renew
  dsimp only
  generalize w.server.renew w.now id o w.file = r at hren ⊢
  cases hren with
  | refused e => exact h.thins rfl rfl rfl rfl rfl .sweep
  | failed e err ho l hl hrevoked =>
    refine ⟨fun x g hg => ?_, h.sweep.whole, h.ttl, h.sweep.renewed⟩
    obtain ⟨l', hl', hdb, hexpiry⟩ := hknown.swept hg
    refine listed_of_recorded rfl hl' (by simp) (h.sweep.whole x l' hl') hdb
      (hexpiry.trans (expiresAt_le_renewedWith fun hid => ?_))
    have hself : x = id := (LeaseTable.id_eq _ hl').symm.trans hid
    subst hself
    cases hl.symm.trans hl'
    exact h.sweep.renewed x l hl hrevoked
  | renewed l hl =>
    have hlook : ∀ x l', ((w.server.sweep w.now).table.renewAt id w.now).byID.lookup x = some l' →
        x = id ∧ l' = { l with renewed := w.now } ∨ (w.server.sweep w.now).table.byID.lookup x = some l' := by
      intro x l' hl'
      rw [renewAt, lookup_revise] at hl'
      split at hl'
      · next hx =>
        rw [hx, hl] at hl'
        exact .inl ⟨hx, (Option.some.inj hl').symm⟩
      · exact .inr hl'
    have hself := lookup_renewAt_self w.now hl
    have hid := LeaseTable.id_eq _ hl
    dsimp only
    rw [hself]
    refine ⟨fun x g hg => ?_, fun x l' hl' => ?_, h.ttl, fun x l' hl' hrev => ?_⟩
    · obtain ⟨hg, hlive⟩ := hg
      rcases lookup_regrant hg with ⟨hx, rfl, -⟩ | ⟨hx, hold⟩
      · rw [hx]
        refine listed_of_recorded rfl (by rw [hid]; exact hl) (by simp) (h.sweep.whole id l hl) rfl ?_
        simp [Grant.of, Lease.expiresAt, Lease.renewedWith, hid]
      · obtain ⟨l', hl', hdb, hexpiry⟩ := hknown.swept ⟨hold, hlive⟩
        refine listed_of_recorded rfl hl' (by simp) (h.sweep.whole x l' hl') hdb
          (hexpiry.trans (expiresAt_le_renewedWith fun hid' => ?_))
        exact absurd ((LeaseTable.id_eq _ hl').symm.trans (hid'.trans hid.symm)) hx
    · rcases hlook x l' hl' with ⟨-, rfl⟩ | hl'
      · exact h.sweep.whole id l hl
      · exact h.sweep.whole x l' hl'
    · rcases hlook x l' hl' with ⟨-, rfl⟩ | hl'
      · exact Int.le_refl _
      · exact h.sweep.renewed x l' hl' hrev

/-- A release: what the file misses is no longer held. -/
theorem release (h : Covered w) (hknown : Known w) (id : String) (o : Outcome) : Covered (w.release id o) := by
  have hback : ∀ x l, (w.release id o).server.table.byID.lookup x = some l →
      w.server.table.byID.lookup x = some l := by
    intro x l hl
    rw [server_release] at hl
    have hl := (lookup_sweep.mp hl).1
    rw [lookup_finish] at hl
    split at hl
    · cases hl
    · exact hl
  refine ⟨fun x g hg => ?_, fun x l hl => h.whole x l (hback x l hl), h.ttl,
    fun x l hl => h.renewed x l (hback x l hl)⟩
  obtain ⟨hx, hheld⟩ := held_release hg.1
  have hold : w.Live x g := ⟨hheld, hg.2⟩
  rcases Server.file_release w.now id w.server o w.file with hfile | hfile
  · obtain ⟨r, hr, hlisted⟩ := h.listed x g hold
    exact ⟨r, (congrArg (Option.getD · []) hfile).symm ▸ hr, hlisted⟩
  obtain ⟨l, hl, hdb, hexpiry⟩ := hknown.live x g hold
  have hexpiry : g.expiry ≤ l.renewedWith none + l.ttl := hexpiry
  have hlive := hold.2
  refine listed_of_recorded hfile (lookup_sweep.mpr ⟨?_, ?_⟩) (by simp) (h.whole x l hl) hdb hexpiry
  · rw [lookup_finish, if_neg hx, hl]
  · exact Int.lt_of_lt_of_le hlive hexpiry

theorem advance (h : Covered w) (d : Nat) : Covered { w with now := w.now + d } := by
  refine ⟨fun x g hg => h.listed x g ⟨hg.1, ?_⟩, h.whole, h.ttl, fun x l hl hrev => ?_⟩
  · have := hg.2
    dsimp only at this
    omega
  · have := h.renewed x l hl hrev
    dsimp only
    omega

theorem act [Replay] (h : Covered w) (hknown : Known w) (hup : w.up = true) {a : Action}
    (hok : Move.safe w (.act a) = true) (hact : w.act a = some w') : Covered w' := by
  cases act_leases hact with
  | acquire database snapshotID newID o hacq => exact h.acquire hknown hup hok hacq
  | renew id o heq => exact heq ▸ h.renew hknown id o
  | release id o heq => exact heq ▸ h.release hknown id o
  | thin hheld hissued hfile hnow hup hcfg hthins => exact h.thins hheld hfile hnow hup hcfg hthins

end Covered

/-! ## Runs -/

structure Safe (w : World) : Prop where
  inv : Inv w
  covered : Covered w
  known : w.up = true → Known w
  issued : ∀ id g, w.held.lookup id = some g → id ∈ w.issued
  /-- Passes run in a process. -/
  running : w.passes ≠ [] → w.up = true

/-- A restarted server holds every lease that a host holds, revoked. -/
theorem restart_restores [Net] {w w' : World} {cfg : Config} (h : w.restart cfg = some w') {id : String}
    {g : Grant} (hlisted : w.Listed id g) (hlive : w.Live id g) :
    ∃ l, w'.server.table.byID.lookup id = some l ∧ l.database = g.database ∧ l.revoked = true ∧
      g.expiry ≤ l.expiresAt := by
  unfold World.restart at h
  dsimp only at h
  split at h
  · next table hvalid hrestore =>
    cases h
    obtain ⟨r, hr, rfl, hdb, hexpiry⟩ := hlisted
    have hnow := hlive.2
    exact ⟨r.lease, (foldlM_restoreLease hrestore).2.1 r hr (by omega), hdb, rfl, hexpiry⟩
  · cases h

/-- What a restart makes of the world: another memory. -/
theorem restart_eq [Net] {w w' : World} {cfg : Config} (h : w.restart cfg = some w') :
    w'.up = true ∧ w'.held = w.held ∧ w'.file = w.file ∧ w'.now = w.now ∧ w'.issued = w.issued ∧
      w'.cfg = cfg.withDefaults ∧
      ∀ id l, w'.server.table.byID.lookup id = some l → ∃ r, l = LeaseRecord.lease r := by
  unfold World.restart at h
  dsimp only at h
  split at h
  · next table hvalid hrestore =>
    cases h
    refine ⟨rfl, rfl, rfl, rfl, rfl, rfl, fun id l hl => ?_⟩
    rcases (foldlM_restoreLease hrestore).2.2 id l hl with hl | hl
    · have : (LeaseTable.empty).byID.lookup id = none := GoMap.lookup_empty id
      rw [this] at hl
      cases hl
    · exact hl
  · cases h

variable [Replay] [Net]

theorem Safe.move {w w' : World} {m : Move} (h : Safe w) (hok : Move.safe w m = true)
    (hmove : w.move m = some w') : Safe w' := by
  cases m with
  | advance d =>
    cases hmove
    exact ⟨h.inv.quiet rfl rfl .refl rfl rfl rfl, h.covered.advance d, fun hup => (h.known hup).advance d,
      h.issued, h.running⟩
  | act a =>
    obtain ⟨hup, hact⟩ := act_of_move hmove
    have hknown := (h.known hup).act hact
    exact ⟨h.inv.act hact, h.covered.act (h.known hup) hup hok hact, fun _ => hknown, hknown.issued,
      fun _ => (up_act hact).trans hup⟩
  | crash =>
    cases hmove
    exact ⟨.of_idle rfl rfl rfl, .of_empty rfl rfl h.covered.listed, fun hup => absurd hup Bool.false_ne_true,
      h.issued, fun hne => absurd rfl hne⟩
  | restart cfg =>
    simp only [World.move] at hmove
    split at hmove
    · cases hmove
    obtain ⟨hup, hheld, hfile, hnow, hissued, hcfg, hfrom⟩ := restart_eq hmove
    have hold : ∀ id g, w'.Live id g → w.Live id g := by
      intro id g hg
      unfold Live at hg
      rwa [hheld, hnow] at hg
    refine ⟨.restart hmove, ⟨fun id g hg => ?_, fun id l hl => ?_, fun _ => ?_, fun id l hl hrev => ?_⟩,
      fun _ => ⟨fun id g hg => ?_, ?_⟩, ?_, fun _ => hup⟩
    · unfold Listed
      rw [hfile]
      exact h.covered.listed id g (hold id g hg)
    · obtain ⟨r, rfl⟩ := hfrom id l hl
      exact ⟨r.ttlMs, Int.mul_comm ..⟩
    · rw [hcfg]
      simpa [Move.safe] using hok
    · obtain ⟨r, rfl⟩ := hfrom id l hl
      cases hrev
    · obtain ⟨l, hl, hdb, -, hexpiry⟩ :=
        restart_restores hmove (h.covered.listed id g (hold id g hg)) (hold id g hg)
      exact ⟨l, hl, hdb, hexpiry⟩
    all_goals
      rw [hheld, hissued]
      exact h.issued

omit [Replay] [Net] in
theorem safe_initial (file : LeaseFile) (now : Int) : Safe (initial file now) := by
  have hheld : ∀ id, (initial file now).held.lookup id = none := GoMap.lookup_empty
  refine ⟨.of_idle rfl rfl rfl, .of_empty rfl rfl fun id g hg => ?_, nofun, fun id g hg => ?_,
    fun hne => absurd rfl hne⟩
  · have := hg.1
    rw [hheld] at this
    cases this
  · rw [hheld] at hg
    cases hg

/-- In a run of safe moves the file lists every lease that a host holds, with an expiry that
    is not before its own. So a restarted server holds it, revoked, and no pass holds its
    database. -/
theorem lease_file_covers {file : LeaseFile} {now : Int} {w : World} {ms : List Move}
    (hrun : run Move.safe ms (initial file now) = some w) :
    (∀ id g, w.Live id g → w.Listed id g) ∧
    (∀ cfg w', w.move (.restart cfg) = some w' → ∀ id g, w.Live id g →
      ∃ l, w'.server.table.byID.lookup id = some l ∧ l.database = g.database ∧ l.revoked = true ∧
        g.expiry ≤ l.expiresAt) ∧
    ∀ k ∈ w.passes, ∀ database ∈ k.held, ∀ id g, w.Live id g → g.database ≠ database := by
  have hsafe := run_keeps (P := Safe) (fun w m w' h hok hmove => h.move hok hmove) (safe_initial file now) hrun
  refine ⟨hsafe.covered.listed, fun cfg w' hmove id g hg => ?_, fun k hk database hdb id g hg => ?_⟩
  · simp only [World.move] at hmove
    split at hmove
    · cases hmove
    · exact restart_restores hmove (hsafe.covered.listed id g hg) hg
  · have hnone := hsafe.inv.held k hk database hdb
    have hup := hsafe.running (List.ne_nil_of_mem hk)
    obtain ⟨l, hl, hdb', -⟩ := (hsafe.known hup).live id g hg
    exact hdb' ▸ of_eq_none.mp hnone id l hl

end World

section Example

open Serve.World

/-- The process crashes and starts again, and a pass of owner 1 takes the database. -/
def exampleTakeover (ttl : Duration) : List Move :=
  [.crash, .restart (exampleConfig ttl), .act (.passBegin 1), .act (.passCheck 0 "db")]

/-- A host holds a lease, and the file does not list it until its expiry. -/
def missesGrant (w : World) (id : String) (g : Grant) : Bool :=
  w.held.lookup id = some g ∧ w.now < g.expiry ∧
    (w.file.getD []).all fun r => ¬ (r.leaseID = id ∧ g.expiry ≤ r.expiresAt)

theorem lease_file_covers_restarted :
    let _ := exampleReplay
    let _ := exampleNet
    ∃ w : World, run Move.safe (.restart (exampleConfig (10 * second)) :: exampleGrant ++
        exampleTakeover (10 * second)) (initial none 0) = some w ∧
      w.Live "a" ⟨"db", 1, 10 * second⟩ ∧ w.Listed "a" ⟨"db", 1, 10 * second⟩ := by
  intro replay net
  have heval : (run Move.safe (.restart (exampleConfig (10 * second)) :: exampleGrant ++
      exampleTakeover (10 * second)) (initial none 0)).any (fun w =>
        w.Live "a" ⟨"db", 1, 10 * second⟩) = true := by decide +kernel
  obtain ⟨w, hrun, hlive⟩ := (Option.any_eq_true ..).mp heval
  have hlive := of_decide_eq_true hlive
  exact ⟨w, hrun, hlive, (lease_file_covers hrun).1 _ _ hlive⟩

/-- With a time to live of ten seconds and a nanosecond the record expires first, and a pass
    takes the database in the last nanosecond of the lease. With one of ten seconds, an
    acquire that fails after its rename drops the record of the lease that is held. -/
theorem lease_file_misses_grants :
    let _ := exampleReplay
    let _ := exampleNet
    (∃ w : World, run (fun _ _ => true) (.restart (exampleConfig (10 * second + 1)) :: exampleGrant ++
        .advance 10000000000 :: exampleTakeover (10 * second + 1)) (initial none 0) = some w ∧
      missesGrant w "a" ⟨"db", 1, 10 * second + 1⟩ = true ∧ w.passes.map (·.held) = [["db"]]) ∧
    ∃ w : World, run (fun _ _ => true) (.restart (exampleConfig (10 * second)) :: exampleGrant ++
        .act (.acquire "db" "s5" (.ok "b") (.failedAfter "sync")) :: exampleTakeover (10 * second))
        (initial none 0) = some w ∧
      missesGrant w "a" ⟨"db", 1, 10 * second⟩ = true := by
  intro replay net
  have hcut : (run (fun _ _ => true) (.restart (exampleConfig (10 * second + 1)) :: exampleGrant ++
      .advance 10000000000 :: exampleTakeover (10 * second + 1)) (initial none 0)).any (fun w =>
        missesGrant w "a" ⟨"db", 1, 10 * second + 1⟩ = true ∧ w.passes.map (·.held) = [["db"]]) = true := by
    decide +kernel
  have hdropped : (run (fun _ _ => true) (.restart (exampleConfig (10 * second)) :: exampleGrant ++
      .act (.acquire "db" "s5" (.ok "b") (.failedAfter "sync")) :: exampleTakeover (10 * second))
      (initial none 0)).any (fun w => missesGrant w "a" ⟨"db", 1, 10 * second⟩ = true) = true := by
    decide +kernel
  obtain ⟨w, hrun, hmiss⟩ := (Option.any_eq_true ..).mp hcut
  obtain ⟨w', hrun', hmiss'⟩ := (Option.any_eq_true ..).mp hdropped
  exact ⟨⟨w, hrun, of_decide_eq_true hmiss⟩, w', hrun', of_decide_eq_true hmiss'⟩

end Example

end ArbiterCore.Serve
