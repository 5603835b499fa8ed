-- SUMMARY: State writes that fail: what they leave in memory, and what a repeated call leaves on disk (state.go).
import ArbiterCore.SNode.Accounting

/-!
# Failed state writes

Most mutators persist a clone and publish it to memory afterwards. Four of them change
the maps in memory first and persist those. A failed write of such a mutator leaves
its effect in memory only, where an idempotence check may find it on the next call.
-/

namespace ArbiterCore

open LocalState

/-- The entries of the state, in no order. -/
def LocalState.entries (s : LocalState) :=
  (s.watermarks.lookup, s.lastAcks.lookup, s.baseRoots.lookup, s.baseSnapshotIDs.lookup,
    s.unpromotedSums.lookup, s.intakeParts.lookup, s.promotedUnsafeParts.lookup,
    s.promotionIntents.lookup, s.registrationSeq, s.owedCleanupAcks.lookup, s.ackedSafeInventories.lookup)

variable [LtHash] {s next : LocalState} {k : PartitionKey} {w : StateWrite} {r : Option LocalState}

/-! ## Changes before the write -/

/-- The call changes the maps in memory before it persists them. -/
def StateWrite.ChangesFirst (s : LocalState) : StateWrite → Prop
  | .addUnpromoted k hash => ∃ acc part, parseAccumulatorHex (s.unpromotedSum k) = .ok acc ∧
      parseAccumulatorHex hash = .ok part ∧ s.unpromotedSums.lookup k ≠ some (accumulatorHex (acc + part))
  | .drainUnpromoted k hashes => ∃ acc left, parseAccumulatorHex (s.unpromotedSum k) = .ok acc ∧
      subHashes acc hashes = .ok left ∧ s.unpromotedSums.lookup k ≠ some (accumulatorHex left)
  | .addUnpromotedPart k name hash => s.intakeParts.lookup (k, name) = none ∧
      ∃ acc part, parseAccumulatorHex (s.unpromotedSum k) = .ok acc ∧ parseAccumulatorHex hash = .ok part
  | .removeUnpromotedPart k name hash => s.intakeParts.lookup (k, name) ≠ some "" ∧
      (∀ h, s.intakeParts.lookup (k, name) = some h → h = hash) ∧
      ∃ acc part, parseAccumulatorHex (s.unpromotedSum k) = .ok acc ∧ parseAccumulatorHex hash = .ok part
  | _ => False

omit [LtHash] in
theorem insert_entries_iff {sum : String} :
    entries { s with unpromotedSums := s.unpromotedSums.insert k sum } = s.entries ↔
      s.unpromotedSums.lookup k = some sum := by
  simp only [entries, Prod.mk.injEq, true_and, and_true]
  constructor
  · intro h
    rw [← h, GoMap.lookup_insert_self]
  · intro h
    funext k'
    rw [GoMap.lookup_insert]
    split
    · next hk => rw [hk, h]
    · rfl

omit [LtHash] in
/-- A part gets another record. -/
theorem insertPart_entries {name hash : String} (sum : String)
    (h : s.intakeParts.lookup (k, name) ≠ some hash) :
    entries { s with
      unpromotedSums := s.unpromotedSums.insert k sum
      intakeParts := s.intakeParts.insert (k, name) hash } ≠ s.entries := by
  intro heq
  simp only [entries, Prod.mk.injEq] at heq
  obtain ⟨-, -, -, -, -, hparts, -⟩ := heq
  exact h (by rw [← hparts, GoMap.lookup_insert_self])

/-- A call changes the memory first if it is of one of the four mutators and has a change. -/
theorem StateWrite.changesFirst_iff : w.ChangesFirst s ↔
    w.inPlace = true ∧ ∃ next, w.apply s = .ok (some next) ∧ next.entries ≠ s.entries := by
  cases w with
  | addUnpromoted k hash =>
    simp only [ChangesFirst, inPlace, apply, LocalState.addUnpromoted, Except.bind_eq_ok, Except.pure_eq_ok,
      Option.some.injEq, true_and]
    constructor
    · rintro ⟨acc, part, hacc, hpart, hne⟩
      exact ⟨_, ⟨acc, hacc, part, hpart, rfl⟩, mt insert_entries_iff.mp hne⟩
    · rintro ⟨_, ⟨acc, hacc, part, hpart, rfl⟩, hne⟩
      exact ⟨acc, part, hacc, hpart, mt insert_entries_iff.mpr hne⟩
  | drainUnpromoted k hashes =>
    simp only [ChangesFirst, inPlace, apply, LocalState.drainUnpromoted, Except.bind_eq_ok, Except.pure_eq_ok,
      Option.some.injEq, true_and]
    constructor
    · rintro ⟨acc, left, hacc, hleft, hne⟩
      exact ⟨_, ⟨acc, hacc, left, hleft, rfl⟩, mt insert_entries_iff.mp hne⟩
    · rintro ⟨_, ⟨acc, hacc, left, hleft, rfl⟩, hne⟩
      exact ⟨acc, left, hacc, hleft, mt insert_entries_iff.mpr hne⟩
  | addUnpromotedPart k name hash =>
    simp only [ChangesFirst, inPlace, true_and]
    constructor
    · rintro ⟨hnone, acc, part, hacc, hpart⟩
      have hnew : s.intakeParts.lookup (k, name) ≠ some hash := by simp [hnone]
      refine ⟨_, ?_, insertPart_entries (accumulatorHex (acc + part)) hnew⟩
      simp only [apply, LocalState.addUnpromotedPart, hnone, hacc, hpart]
      rfl
    · rintro ⟨next, happly, -⟩
      simp only [apply, LocalState.addUnpromotedPart] at happly
      split at happly
      · split at happly <;> cases happly
      · next hnone =>
        simp only [Except.bind_eq_ok] at happly
        obtain ⟨acc, hacc, part, hpart, -⟩ := happly
        exact ⟨hnone, acc, part, hacc, hpart⟩
  | removeUnpromotedPart k name hash =>
    simp only [ChangesFirst, inPlace, true_and]
    constructor
    · rintro ⟨hremoved, hsame, acc, part, hacc, hpart⟩
      have hsub : s.subtractPart k name hash = .ok _ :=
        Except.bind_eq_ok.mpr ⟨acc, hacc, Except.bind_eq_ok.mpr ⟨part, hpart, rfl⟩⟩
      refine ⟨_, ?_, insertPart_entries (accumulatorHex (acc - part)) hremoved⟩
      cases hlook : s.intakeParts.lookup (k, name) with
      | none => simp only [apply, LocalState.removeUnpromotedPart, hlook, hsub, Except.map]
      | some previous =>
        obtain rfl := hsame previous hlook
        have hne : previous ≠ "" := fun h => hremoved (by rw [hlook, h])
        simp only [apply, LocalState.removeUnpromotedPart, hlook, hsub, Except.map, if_neg hne, ne_eq,
          not_true, if_false]
    · rintro ⟨next, happly, -⟩
      obtain ⟨hnone, -⟩ | ⟨hremoved, hsame, _, -, hsub⟩ := removeUnpromotedPart_ok happly
      · cases hnone
      simp only [subtractPart, Except.bind_eq_ok] at hsub
      obtain ⟨acc, hacc, part, hpart, -⟩ := hsub
      exact ⟨hremoved, hsame, acc, part, hacc, hpart⟩
  | _ => simp [ChangesFirst, inPlace]

/-! ## Effects -/

/-- The state `t` records the effect of a call that was made in the state `s`. -/
def StateWrite.Recorded (s t : LocalState) : StateWrite → Prop
  | .beginPromotion k intent => t.pendingPromotion k = some intent
  | .recordAck k seq ack base snap => ∃ pending, t.ledger k = ⟨seq, some ack, base, snap, pending⟩
  | .recordSettledNotApplied k seq ack base snap =>
    ∃ pending, t.ledger k = ⟨seq, some ack, base, snap, pending⟩ ∧ ∀ i ∈ pending, i.promotionSeq ≠ seq
  | .recordRefreshedAck k ack => t.lastAck k = some ack
  | .recordAppliedPromotion k seq ack base snap hashes names =>
    t.ledger k = ⟨seq, some ack, base, snap, none⟩ ∧ (∀ n ∈ names, n ≠ "" → n ∈ t.promoted k) ∧
      accOf (t.unpromotedSum k) = accOf (s.unpromotedSum k) - sumOf hashes
  | .addUnpromoted k hash => accOf (t.unpromotedSum k) = accOf (s.unpromotedSum k) + accOf hash
  | .drainUnpromoted k hashes => accOf (t.unpromotedSum k) = accOf (s.unpromotedSum k) - sumOf hashes
  | .addUnpromotedPart k name hash => t.intakeParts.lookup (k, name) = some hash ∧
      (s.intakeParts.lookup (k, name) = none →
        accOf (t.unpromotedSum k) = accOf (s.unpromotedSum k) + accOf hash)
  | .removeUnpromotedPart k name hash => t.intakeParts.lookup (k, name) = some "" ∧
      (s.intakeParts.lookup (k, name) ≠ some "" →
        accOf (t.unpromotedSum k) = accOf (s.unpromotedSum k) - accOf hash)
  | .recordExecutedCleanup cmd ack =>
    let names := cmd.parts.map (·.partName)
    t.owedCleanupAcks.lookup (cleanupAckKey ack) = some ack ∧ (∀ n ∈ names, n ∉ t.promoted cmd.key) ∧
      (cmd.rejectedBlockSeq ≠ 0 → ∀ n ∈ names, t.intakeParts.getD (cmd.key, n) "" = "") ∧
      Moved s t cmd.key 0
  | .clearOwedCleanupAck ack => t.owedCleanupAcks.lookup (cleanupAckKey ack) ≠ some ack
  | .forgetTable table => t.hasTable table = false
  | .recordRebuiltSafeInventories inventories => (inventories.map (·.key)).Nodup → ∀ inv ∈ inventories,
      t.ackedSafeInventories.lookup inv.key = some ⟨inv.publishSeq, inv.parts, true⟩
  | .nextRegistrationSeq now => t.registrationSeq = max (s.registrationSeq + 1) now

section

omit [LtHash]

theorem mem_appendNew {existing names : List String} {n : String} :
    n ∈ appendNew existing names ↔ n ∈ existing ∨ n ∈ names ∧ n ≠ "" := by
  induction names generalizing existing with
  | nil => simp [appendNew]
  | cons p ps ih =>
    rw [appendNew]
    split <;> grind

theorem promoted_excludePromoted {names : List String} {n : String} (hn : n ∈ names) (hne : n ≠ "") :
    n ∈ (s.excludePromoted k names).promoted k := by
  rw [excludePromoted, if_neg (List.ne_nil_of_mem hn), promoted, GoMap.getD_insert_self]
  exact mem_appendNew.mpr (.inr ⟨hn, hne⟩)

theorem promoted_forgetPromotedParts {names : List String} {n : String} (hn : n ∈ names) :
    n ∉ (s.forgetPromotedParts k names).1.promoted k := by
  have hkept : n ∉ (s.promoted k).filter (· ∉ names) := by simp [hn]
  simp only [forgetPromotedParts]
  split
  · next hlen =>
    rwa [List.filter_sublist.eq_of_length hlen] at hkept
  · split
    · simp [promoted, GoMap.getD, GoMap.lookup_erase]
    · simpa only [promoted, GoMap.getD_insert_self] using hkept

theorem owed_oweCleanupAck {ack : CleanupAck} :
    (s.oweCleanupAck ack).1.owedCleanupAcks.lookup (cleanupAckKey ack) = some ack := by
  simp only [oweCleanupAck]
  split
  · assumption
  · exact GoMap.lookup_insert_self ..

theorem promoted_oweCleanupAck {ack : CleanupAck} : (s.oweCleanupAck ack).1.promoted k = s.promoted k := by
  simp only [oweCleanupAck]
  split <;> rfl

theorem hasTable_dropTable (table : String) : (s.dropTable table).hasTable table = false := by
  have hany : ∀ {κ ν : Type} [DecidableEq κ] (m : GoMap κ ν) (p : κ → Bool),
      (m.eraseWhere p).keys.any p = false := by
    intro κ ν _ m p
    rw [List.any_eq_false]
    intro k hk hp
    obtain ⟨v, hv⟩ := GoMap.mem_keys.mp hk
    rw [GoMap.lookup_eraseWhere, if_pos hp] at hv
    cases hv
  simp only [hasTable, dropTable, hany, Bool.or_self]

end

/-- A removed part is marked, and a mark stays. -/
theorem removeRejectedParts_marks {parts : List PartRef} {removed : Bool}
    (h : s.removeRejectedParts k parts = .ok (next, removed)) {n : String}
    (hn : n ∈ parts.map (·.partName) ∨ s.intakeParts.getD (k, n) "" = "") :
    next.intakeParts.getD (k, n) "" = "" := by
  induction parts generalizing s removed with
  | nil =>
    cases h
    simpa using hn
  | cons p ps ih =>
    simp only [removeRejectedParts] at h
    split at h
    · next hempty =>
      refine ih h ?_
      rcases hn with hn | hn
      · rcases List.mem_cons.mp hn with rfl | hn
        · exact .inr hempty
        · exact .inl hn
      · exact .inr hn
    · simp only [Except.bind_eq_ok, Except.pure_eq_ok] at h
      obtain ⟨mid, hmid, ⟨last, _⟩, hlast, heq⟩ := h
      cases heq
      refine ih hlast ?_
      rw [subtractPart_ok hmid, GoMap.getD_insert]
      grind

/-- A call that returns without an error has its effect in the state that it leaves. -/
theorem StateWrite.recorded (h : w.apply s = .ok r) : w.Recorded s (r.getD s) := by
  cases w with
  | beginPromotion k intent =>
    obtain ⟨rfl, hpending⟩ | rfl := beginPromotion_ok h
    · exact hpending
    · exact GoMap.lookup_insert_self ..
  | recordAck k seq ack base snap =>
    cases recordAck_ok h
    exact ⟨_, (recordAck_ledger h).trans (if_pos rfl)⟩
  | recordSettledNotApplied k seq ack base snap =>
    obtain ⟨next, rfl, hledger⟩ := recordSettledNotApplied_ok h
    refine ⟨_, (hledger k).trans (if_pos rfl), fun i hi => ?_⟩
    simpa using (Option.filter_eq_some_iff.mp hi).2
  | recordRefreshedAck k ack =>
    obtain ⟨next, -, rfl, -, -, hledger⟩ := recordRefreshedAck_ok h
    exact congrArg Ledger.lastAck ((hledger k).trans (if_pos rfl))
  | recordAppliedPromotion k seq ack base snap hashes names =>
    cases recordAppliedPromotion_ok h
    refine ⟨appliedPromotion_ledger.trans (if_pos rfl), fun n => promoted_excludePromoted, ?_⟩
    rw [Option.getD_some, unpromotedSum, (Prod.mk.inj appliedPromotion_counts).1,
      GoMap.getD_insert_self, accOf_accumulatorHex]
  | addUnpromoted k hash =>
    cases addUnpromoted_ok h
    simp [Recorded, unpromotedSum]
  | drainUnpromoted k hashes =>
    cases drainUnpromoted_ok h
    simp [Recorded, unpromotedSum]
  | addUnpromotedPart k name hash =>
    obtain ⟨rfl, hlook⟩ | ⟨-, rfl⟩ := addUnpromotedPart_ok h
    · exact ⟨hlook, fun hnone => by simp [hlook] at hnone⟩
    · simp [Recorded, unpromotedSum]
  | removeUnpromotedPart k name hash =>
    obtain ⟨rfl, hlook⟩ | ⟨-, -, next, rfl, hsub⟩ := removeUnpromotedPart_ok h
    · exact ⟨hlook, fun hne => absurd hlook hne⟩
    · cases subtractPart_ok hsub
      simp [Recorded, unpromotedSum]
  | recordExecutedCleanup cmd ack =>
    obtain ⟨-, mid, removed, hmid, hnext⟩ := recordExecutedCleanup_ok h
    have hcounts : (r.getD s).counts = mid.counts := by
      rw [hnext, oweCleanupAck_counts, forgetPromotedParts_counts]
    refine ⟨?_, fun n hn => ?_, fun hrejected n hn => ?_, ?_⟩
    · rw [hnext]
      exact owed_oweCleanupAck
    · rw [hnext, promoted_oweCleanupAck]
      exact promoted_forgetPromotedParts hn
    · rw [(Prod.mk.inj hcounts).2]
      rw [accountRejected, if_pos hrejected, Except.bind_eq_ok] at hmid
      obtain ⟨_, -, hmid⟩ := hmid
      exact removeRejectedParts_marks hmid (.inl hn)
    · exact ((accountRejected_moved hmid).trans (.of_counts hcounts)).trans_eq (add_zero 0)
  | clearOwedCleanupAck ack =>
    obtain ⟨rfl, hlook⟩ | ⟨-, rfl⟩ := clearOwedCleanupAck_ok h
    · exact hlook
    · simp [Recorded, GoMap.lookup_erase]
  | forgetTable table =>
    obtain ⟨-, ⟨rfl, hnone⟩ | rfl⟩ := forgetTable_ok h
    · exact hnone
    · exact hasTable_dropTable table
  | recordRebuiltSafeInventories inventories =>
    simp only [apply, LocalState.recordRebuiltSafeInventories, Except.bind_eq_ok, Except.pure_eq_ok] at h
    obtain ⟨_, -, rfl⟩ := h
    exact fun hkeys inv hinv => GoMap.lookup_foldl_insert_of_nodup hkeys hinv
  | nextRegistrationSeq now =>
    cases h
    rfl

/-! ## Memory and file -/

namespace Store

/-- The file holds the state in memory. -/
def Synced (st : Store) : Prop := st.disk = st.mem

variable {st st' : Store} {fault : WriteFault} {e : GoError}

/-- A write that fails before the rename leaves the memory alone, unless the mutator
    has changed it already. -/
theorem write_beforeRename :
    (st.write w .beforeRename e).2.mem.entries = st.mem.entries ↔ ¬ w.ChangesFirst st.mem := by
  rw [StateWrite.changesFirst_iff, write]
  cases hap : w.apply st.mem with
  | error e' => simp
  | ok r =>
    cases r with
    | none => simp
    | some next => cases hin : w.inPlace <;> simp

/-- A call that returns without an error has its effect in the file, unless it wrote
    nothing because it found the effect in memory alone. -/
theorem write_recorded (h : st.write w fault e = (.ok (), st')) :
    w.Recorded st.mem st'.mem ∧
      (w.Recorded st.mem st'.disk ↔ (w.apply st.mem = .ok none → w.Recorded st.mem st.disk)) := by
  unfold write at h
  cases hap : w.apply st.mem with
  | error e' =>
    rw [hap] at h
    cases h
  | ok r =>
    rw [hap] at h
    have hrec := w.recorded hap
    cases r with
    | none =>
      cases h
      exact ⟨hrec, by simp⟩
    | some next =>
      cases fault with
      | none =>
        cases h
        exact ⟨hrec, by simpa using hrec⟩
      | beforeRename => cases h
      | afterRename => cases h

/-- A failed write of a clone leaves the memory alone, wherever it fails. -/
theorem write_clone (hclone : w.inPlace = false) (hfault : fault ≠ .none) :
    (st.write w fault e).2.mem = st.mem ∧
      ((∀ next, w.apply st.mem ≠ .ok (some next)) → (st.write w fault e).2 = st) := by
  unfold write
  cases hap : w.apply st.mem with
  | error e' => exact ⟨rfl, fun _ => rfl⟩
  | ok r =>
    cases r with
    | none => exact ⟨rfl, fun _ => rfl⟩
    | some next =>
      refine ⟨?_, fun h => absurd rfl (h next)⟩
      cases fault with
      | none => exact absurd rfl hfault
      | beforeRename => simp [hclone]
      | afterRename => simp [hclone]

end Store

/-! ## Repeated calls -/

/-- A call that is repeated until it returns: the places where its writes failed. -/
structure Job where
  call : StateWrite
  failures : List WriteFault
  failed : ∀ f ∈ failures, f ≠ .none

namespace Job

/-- The same call, made once without a failure. -/
def once (j : Job) : Job := ⟨j.call, [], by simp⟩

/-- No write of a mutator that changes the memory first fails. -/
def Repeatable (j : Job) : Prop := j.call.inPlace = true → j.failures = []

/-- The attempts of a job, the last of which meets no failure. -/
def attempts (e : GoError) (w : StateWrite) (faults : List WriteFault) (st : Store) : Store :=
  (faults ++ [WriteFault.none]).foldl (fun st f => (st.write w f e).2) st

def run (e : GoError) (st : Store) (j : Job) : Store := attempts e j.call j.failures st

variable {e : GoError} {w : StateWrite} {faults : List WriteFault} {st : Store}

theorem attempts_nil {next : LocalState} (h : w.apply st.mem = .ok (some next)) :
    attempts e w [] st = ⟨next, next⟩ := by
  simp [attempts, Store.write, h]

/-- However often the write of a clone fails, in the end it is as if it never had. -/
theorem attempts_clone (hclone : w.inPlace = false) (hfaults : ∀ f ∈ faults, f ≠ .none) :
    attempts e w faults st = attempts e w [] st := by
  induction faults generalizing st with
  | nil => rfl
  | cons f faults ih =>
    obtain ⟨hf, hfaults⟩ := List.forall_mem_cons.mp hfaults
    obtain ⟨hmem, hsame⟩ : (st.write w f e).2.mem = st.mem ∧ (_ → (st.write w f e).2 = st) :=
      Store.write_clone hclone hf
    have hstep : attempts e w (f :: faults) st = attempts e w [] (st.write w f e).2 := ih hfaults
    rw [hstep]
    by_cases hnext : ∃ next, w.apply st.mem = .ok (some next)
    · -- the last attempt finds the memory that the first one found
      obtain ⟨next, hnext⟩ := hnext
      rw [attempts_nil hnext, attempts_nil (hmem ▸ hnext)]
    · rw [hsame fun next h => hnext ⟨next, h⟩]

theorem run_eq_once {j : Job} (hj : j.Repeatable) : j.run e st = j.once.run e st := by
  cases hclone : j.call.inPlace with
  | false => exact attempts_clone hclone j.failed
  | true => rw [run, run, hj hclone]; rfl

theorem once_synced (j : Job) (h : st.Synced) : (j.once.run e st).Synced := by
  simp only [run, once, attempts, List.nil_append, List.foldl_cons, List.foldl_nil, Store.write]
  cases j.call.apply st.mem with
  | error e' => exact h
  | ok r => cases r with
    | none => exact h
    | some next => exact rfl

/-- A run of jobs whose failed writes are all of clones: file and memory agree after
    each job, and are as if no write had failed. -/
theorem runs_eq_once {jobs : List Job} (hjobs : ∀ j ∈ jobs, j.Repeatable) (h : st.Synced) :
    (jobs.foldl (run e) st).Synced ∧ jobs.foldl (run e) st = (jobs.map once).foldl (run e) st := by
  induction jobs generalizing st with
  | nil => exact ⟨h, rfl⟩
  | cons j jobs ih =>
    obtain ⟨hj, hjobs⟩ := List.forall_mem_cons.mp hjobs
    rw [List.foldl_cons, List.map_cons, List.foldl_cons, run_eq_once hj]
    exact ih hjobs (once_synced j h)

end Job

/-- When failed writes are atomic. A write that fails before the rename leaves the memory
    alone just when the mutator does not change it first. A call that returns without an
    error has its effect in memory, and in the file just when it wrote or the file had the
    effect. In a run of repeated calls whose failed writes are all of clones, memory and
    file end as if every call had been made once. -/
theorem state_writes_atomic_iff (e : GoError) :
    (∀ (st : Store) (w : StateWrite), (st.write w .beforeRename e).2.mem.entries = st.mem.entries ↔
      ¬ w.ChangesFirst st.mem) ∧
    (∀ (st st' : Store) (w : StateWrite) (fault : WriteFault), st.write w fault e = (.ok (), st') →
      w.Recorded st.mem st'.mem ∧
        (w.Recorded st.mem st'.disk ↔ (w.apply st.mem = .ok none → w.Recorded st.mem st.disk))) ∧
    ∀ (st : Store) (jobs : List Job), st.Synced → (∀ j ∈ jobs, j.Repeatable) →
      (jobs.foldl (Job.run e) st).Synced ∧
        jobs.foldl (Job.run e) st = (jobs.map Job.once).foldl (Job.run e) st :=
  ⟨fun _ _ => Store.write_beforeRename, fun _ _ _ _ h => Store.write_recorded h,
    fun _ _ hst hjobs => Job.runs_eq_once hjobs hst⟩

namespace SmallNode

def freshStore : Store := ⟨newLocalState, newLocalState⟩

/-- Intake records the part `u1`. -/
def recordPart : StateWrite := .addUnpromotedPart ⟨"t", "all"⟩ "u1" "0x1"

/-- A registration number is reserved; the write fails once before and once after the rename. -/
def reserveSeq : Job :=
  ⟨.nextRegistrationSeq 5, [.beforeRename, .afterRename], by decide⟩

end SmallNode

omit [LtHash] in
open SmallNode in
/-- Two failed reservations and a third attempt reserve one number, in memory and on disk. -/
theorem state_writes_atomic_iff_reserveSeq : letI : LtHash := gate.toLtHash
    freshStore.Synced ∧ (∀ j ∈ [reserveSeq], j.Repeatable) ∧
      ([reserveSeq].foldl (Job.run (errorf "write")) freshStore).Synced ∧
      ([reserveSeq].foldl (Job.run (errorf "write")) freshStore).disk.registrationSeq = 5 := by
  let _ : LtHash := gate.toLtHash
  have hjobs : ∀ j ∈ [reserveSeq], j.Repeatable := by
    simp [reserveSeq, Job.Repeatable, StateWrite.inPlace]
  obtain ⟨hsynced, -⟩ := (state_writes_atomic_iff (errorf "write")).2.2 freshStore [reserveSeq] rfl hjobs
  exact ⟨rfl, hjobs, hsynced, rfl⟩

omit [LtHash] in
open SmallNode in
/-- The write of a recorded part fails before the rename. The part is in memory, so the
    repeated call returns without an error and without a write: the file never gets it. -/
theorem failed_intake_record_is_lost : letI : LtHash := gate.toLtHash
    let failed := freshStore.write recordPart .beforeRename (errorf "write")
    let repeated := failed.2.write recordPart .none (errorf "write")
    let once := freshStore.write recordPart .none (errorf "write")
    failed.1 = .error (errorf "write") ∧ failed.2.disk = freshStore.disk ∧
      failed.2.mem.intakeParts.lookup (⟨"t", "all"⟩, "u1") = some "0x1" ∧
      repeated.1 = .ok () ∧ repeated.2.disk.intakeParts.lookup (⟨"t", "all"⟩, "u1") = none ∧
      once.1 = .ok () ∧ once.2.disk.intakeParts.lookup (⟨"t", "all"⟩, "u1") = some "0x1" :=
  ⟨rfl, rfl, rfl, rfl, rfl, rfl, rfl⟩

end ArbiterCore
