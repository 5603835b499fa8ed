-- SUMMARY: The promotion ledger invariant, over every run of the state mutators with failed writes and crashes.
import ArbiterCore.SNode.PromoteSteps

/-!
# The promotion ledger

The state store runs the mutators of the promotion handlers under the handlers'
guards, and every other mutator freely. Each write may fail before or after it
became durable, and a crash loads what is durable. `Ledger.WF` ties the five
entries of a partition's ledger together along every such run.
-/

namespace ArbiterCore

open Conc

variable [HouseGate] {r : Role} {cmd : PromoteSafePartition} {k : PartitionKey}

/-- The ledger of a partition is well formed. -/
structure Ledger.WF (l : Ledger) : Prop where
  pending_seq : ∀ i, l.pending = some i → l.watermark < i.promotionSeq
  pending_base : ∀ i, l.pending = some i → i.basePartitionRoot = l.baseRoot
  pending_post : ∀ i, l.pending = some i → i.postPartitionRoot =
    accumulatorHex (accOf i.basePartitionRoot + sumOf i.candidatePartHashes)
  ack_seq : ∀ a, l.lastAck = some a → a.promotionSeq = l.watermark
  ack_post : ∀ a, l.lastAck = some a → a.applied = true → a.postPartitionCommitment = l.baseRoot

namespace Ledger

/-- A write takes the ledger `l` to `l'`: it stays well formed, and its watermark
    does not decrease. -/
structure Advances (l l' : Ledger) : Prop where
  wf : l'.WF
  watermark : l.watermark ≤ l'.watermark

/-- A ledger without an intent whose last acknowledgement is a refusal. -/
theorem WF.refused {seq : Nat} {ack : PromotionAck} {base snap : String}
    (hseq : ack.promotionSeq = seq) (happlied : ack.applied = false) :
    WF ⟨seq, some ack, base, snap, none⟩ where
  pending_seq := nofun
  pending_base := nofun
  pending_post := nofun
  ack_seq a ha := by
    cases ha
    exact hseq
  ack_post a ha h := by
    cases ha
    rw [happlied] at h
    cases h

variable {l : Ledger}

/-- A pending intent that matches a command makes the command's base the ledger's. -/
theorem WF.base_of_unpublished (h : l.WF) {v : PartitionView} (hv : v.ledger = l)
    (hun : Unpublished r cmd v) {i : PromotionIntent} (hi : l.pending = some i) :
    cmd.basePartitionRoot = l.baseRoot ∧ i.promotionSeq = cmd.promotionSeq := by
  obtain ⟨post, -, hm, -⟩ := hun i (hv ▸ hi)
  exact ⟨(promotionIntentMatchesCommand_base hm).symm.trans (h.pending_base i hi),
    promotionIntentMatchesCommand_seq hm⟩

end Ledger

/-! ## Writes -/

section Writes

variable {s next : LocalState} {sw : StateWrite} {v : PartitionView}

/-- A guarded write of a promotion advances its ledger. -/
theorem PromotionWrite.advances (hwf : (s.ledger cmd.key).WF) (hv : v.ledger = s.ledger cmd.key)
    (hg : PromotionWrite r cmd v sw) (hap : sw.apply s = .ok (some next)) :
    (s.ledger cmd.key).Advances (next.ledger cmd.key) := by
  have hpend : s.pendingPromotion cmd.key = (s.ledger cmd.key).pending := rfl
  cases hg with
  | @begin post before hseq hbase hpost hun =>
    have hl : next.ledger cmd.key =
        { s.ledger cmd.key with pending := some (promotionIntentFor cmd post before) } := by
      rcases LocalState.beginPromotion_ok hap with ⟨hnone, -⟩ | hsome
      · cases hnone
      · cases hsome
        exact LocalState.insertIntent_ledger.trans (if_pos rfl)
    rw [hl]
    rw [hv] at hseq hbase
    refine ⟨⟨?_, ?_, ?_, hwf.ack_seq, hwf.ack_post⟩, le_refl _⟩
    · rintro i ⟨⟩
      exact hseq
    · rintro i ⟨⟩
      exact hbase
    · rintro i ⟨⟩
      exact lthashCombineHexAll_ok hpost
  | refused detail hseq hbase hun =>
    have hnone : (s.ledger cmd.key).pending = none := by
      cases hp : (s.ledger cmd.key).pending with
      | none => rfl
      | some i => exact absurd (hwf.base_of_unpublished hv hun hp).1 (hv ▸ hbase)
    have hl : next.ledger cmd.key = _ := LocalState.recordAck_ledger hap
    rw [if_pos rfl, hpend, hnone] at hl
    rw [hl]
    rw [hv] at hseq
    exact ⟨.refused rfl rfl, hseq.le⟩
  | settled detail hseq hun =>
    have hnone : (s.ledger cmd.key).pending.filter (·.promotionSeq ≠ cmd.promotionSeq) = none := by
      cases hp : (s.ledger cmd.key).pending with
      | none => rfl
      | some i => simp [Option.filter, (hwf.base_of_unpublished hv hun hp).2]
    obtain ⟨_, hsome, hl⟩ := LocalState.recordSettledNotApplied_ok hap
    cases hsome
    rw [hl, if_pos rfl, hpend, hnone]
    rw [hv] at hseq
    exact ⟨.refused rfl rfl, hseq.le⟩
  | refreshed mappings hack hseq hw happlied hlegacy =>
    obtain ⟨_, previous, hsome, hprev, href, hl⟩ := LocalState.recordRefreshedAck_ok hap
    cases hsome
    rw [hl, if_pos rfl]
    obtain ⟨hseq', hw', -, -, -, hpost, happ⟩ := href
    refine ⟨⟨hwf.pending_seq, hwf.pending_base, hwf.pending_post, ?_, ?_⟩, le_refl _⟩
    · rintro a ⟨⟩
      exact hw'.symm
    · rintro a ⟨⟩ ha
      rw [← hpost]
      exact hwf.ack_post previous hprev (happ.trans ha)
  | applied mappings hseq hpending hroot =>
    cases LocalState.recordAppliedPromotion_ok hap
    rw [LocalState.appliedPromotion_ledger, if_pos rfl]
    rw [hv] at hseq
    refine ⟨⟨nofun, nofun, nofun, ?_, ?_⟩, hseq.le⟩
    · rintro a ⟨⟩
      rfl
    · rintro a ⟨⟩ -
      rfl

/-- Every other write advances every ledger: it changes none, or forgets a table
    that has no intent and keeps its watermarks. -/
theorem StateWrite.advances (hwf : (s.ledger k).WF) (hsw : sw.ledgerKey = none)
    (hap : sw.apply s = .ok (some next)) : (s.ledger k).Advances (next.ledger k) := by
  by_cases hf : ∃ t, sw = .forgetTable t ∧ k.table = t
  · obtain ⟨t, rfl, ht⟩ := hf
    obtain ⟨hun, ⟨hnone, -⟩ | hsome⟩ := LocalState.forgetTable_ok hap
    · cases hnone
    · cases hsome
      rw [LocalState.dropTable_ledger, if_pos ht, hun.pending k ht]
      exact ⟨⟨nofun, nofun, nofun, nofun, nofun⟩, le_refl _⟩
  · have hsame : next.ledger k = s.ledger k := by
      refine apply_ledger_of_ne hap (by rw [hsw]; nofun) fun t ht hk => hf ⟨t, ht, hk⟩
    rw [hsame]
    exact ⟨hwf, le_refl _⟩

end Writes

/-! ## Runs of the store -/

/-- One step of the state store. -/
inductive LedgerStep (r : Role) (st : Store) : Store → Prop where
  /-- A promotion or settle handler writes, under its guard on what it reads. -/
  | promotion {cmd : PromoteSafePartition} {v : PartitionView} {sw : StateWrite}
      {fault : WriteFault} {e : GoError} {res : Except GoError Unit} {st' : Store}
      (hv : v.ledger = st.mem.ledger cmd.key) (hg : PromotionWrite r cmd v sw)
      (hs : st.write sw fault e = (res, st')) : LedgerStep r st st'
  /-- Any other mutator: intake, cleanups, `ForgetTable`, rebuilt inventories. -/
  | other {sw : StateWrite} {fault : WriteFault} {e : GoError} {res : Except GoError Unit}
      {st' : Store} (hsw : sw.ledgerKey = none) (hs : st.write sw fault e = (res, st')) :
      LedgerStep r st st'
  | crash : LedgerStep r st st.restart

/-- The ledgers in memory and on disk are well formed, and a crash would not lower
    a watermark. -/
structure Store.LedgerInv (st : Store) (k : PartitionKey) : Prop where
  mem : (st.mem.ledger k).WF
  disk : (st.disk.ledger k).WF
  watermark : (st.mem.ledger k).watermark ≤ (st.disk.ledger k).watermark

namespace Store.LedgerInv

variable {st st' : Store}

/-- A write that advances every ledger keeps the invariant, wherever it fails. -/
theorem write (h : st.LedgerInv k) {sw : StateWrite} {fault : WriteFault} {e : GoError}
    {res : Except GoError Unit} (hs : st.write sw fault e = (res, st'))
    (hadv : ∀ next, sw.apply st.mem = .ok (some next) →
      (st.mem.ledger k).Advances (next.ledger k)) :
    st'.LedgerInv k ∧ (st.mem.ledger k).watermark ≤ (st'.mem.ledger k).watermark := by
  rcases Store.write_cases hs with rfl | ⟨next, hap, ⟨-, rfl⟩ | ⟨-, hm, hd⟩⟩
  · exact ⟨h, le_refl _⟩
  · have hn := hadv next hap
    exact ⟨⟨hn.wf, hn.wf, le_refl _⟩, hn.watermark⟩
  -- a failed write leaves the ledgers in memory alone and may reach the disk
  have hn := hadv next hap
  have hmem : st'.mem.ledger k = st.mem.ledger k := by
    rcases hm with hm | ⟨hin, hm⟩
    · rw [hm]
    · rw [hm]
      exact StateWrite.inPlace_ledger hin hap
  refine ⟨⟨by rw [hmem]; exact h.mem, ?_, ?_⟩, by rw [hmem]⟩
  · rcases hd with hd | hd
    · rw [hd]
      exact h.disk
    · rw [hd]
      exact hn.wf
  · rw [hmem]
    rcases hd with hd | hd
    · rw [hd]
      exact h.watermark
    · rw [hd]
      exact hn.watermark

theorem initial : Store.LedgerInv ⟨newLocalState, newLocalState⟩ k :=
  ⟨⟨nofun, nofun, nofun, nofun, nofun⟩, ⟨nofun, nofun, nofun, nofun, nofun⟩, le_refl _⟩

theorem step (h : ∀ k, st.LedgerInv k) (hs : LedgerStep r st st') :
    ∀ k, st'.LedgerInv k ∧ (st.mem.ledger k).watermark ≤ (st'.mem.ledger k).watermark := by
  intro k
  cases hs with
  | @promotion cmd v sw fault e res _ hv hg hs =>
    refine (h k).write hs fun next hap => ?_
    by_cases hk : k = cmd.key
    · subst hk
      exact hg.advances (h _).mem hv hap
    · rw [hg.ledger_of_ne hap hk]
      exact ⟨(h k).mem, le_refl _⟩
  | other hsw hs => exact (h k).write hs fun next hap => StateWrite.advances (h k).mem hsw hap
  | crash => exact ⟨⟨(h k).disk, (h k).disk, le_refl _⟩, (h k).watermark⟩

theorem run (h : ∀ k, st.LedgerInv k) (hs : Relation.ReflTransGen (LedgerStep r) st st') :
    ∀ k, st'.LedgerInv k ∧ (st.mem.ledger k).watermark ≤ (st'.mem.ledger k).watermark := by
  induction hs with
  | refl => exact fun k => ⟨h k, le_refl _⟩
  | tail _ hs ih =>
    intro k
    obtain ⟨hinv, hle⟩ := step (fun k => (ih k).1) hs k
    exact ⟨hinv, (ih k).2.trans hle⟩

end Store.LedgerInv

/-- In every run of the mutators under the handlers' guards, with failed writes
    and crashes: a pending intent is ahead of the watermark, on the base root and
    closed under its candidates; the last acknowledgement is at the watermark and,
    if applied, its post root is the base root; and no watermark ever decreases. -/
theorem promotion_ledger_wf (r : Role) (k : PartitionKey) {st st' : Store}
    (h : Relation.ReflTransGen (LedgerStep r) ⟨newLocalState, newLocalState⟩ st)
    (h' : Relation.ReflTransGen (LedgerStep r) st st') :
    (st.mem.ledger k).WF ∧ (st.disk.ledger k).WF ∧ st.mem.watermark k ≤ st'.mem.watermark k := by
  have hinv : ∀ k, st.LedgerInv k :=
    fun k => (Store.LedgerInv.run (fun _ => Store.LedgerInv.initial) h k).1
  exact ⟨(hinv k).mem, (hinv k).disk, (Store.LedgerInv.run hinv h' k).2⟩

namespace SmallNode

/-- A promotion whose base the fresh node does not have. -/
def promoteElsewhere : PromoteSafePartition :=
  ⟨"t", "all", 1, "s", "0x1", [⟨"t", "all", "0x1", "u1"⟩]⟩

end SmallNode

omit [HouseGate] in
open SmallNode in
/-- The refusal of a promotion reaches the disk in a write that fails late, so that
    the crash moves the watermark. -/
theorem promotion_ledger_wf_promoteElsewhere : let _ := gate
    ∃ st st', Relation.ReflTransGen (LedgerStep role) ⟨newLocalState, newLocalState⟩ st ∧
      Relation.ReflTransGen (LedgerStep role) st st' ∧
      st.mem.watermark ⟨"t", "all"⟩ = 0 ∧ st'.mem.watermark ⟨"t", "all"⟩ = 1 ∧
      (st.mem.ledger ⟨"t", "all"⟩).WF ∧ (st.disk.ledger ⟨"t", "all"⟩).WF := by
  let _ := gate
  have hguard : PromotionWrite role promoteElsewhere ⟨newLocalState.ledger ⟨"t", "all"⟩, [], []⟩ _ :=
    .refused "base CAS mismatch" (by decide) (by decide) nofun
  have hrun : Relation.ReflTransGen (LedgerStep role) ⟨newLocalState, newLocalState⟩ _ :=
    .single (.promotion rfl hguard (rfl : Store.write _ _ .afterRename (errorf "sync") = _))
  obtain ⟨hmem, hdisk, -⟩ := promotion_ledger_wf role ⟨"t", "all"⟩ hrun (.single .crash)
  exact ⟨_, _, hrun, .single .crash, rfl, rfl, hmem, hdisk⟩

end ArbiterCore
