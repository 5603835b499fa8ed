-- SUMMARY: Promotions refine the write-ahead protocol, so their acknowledgements agree.
import ArbiterCore.Base.WriteAhead
import ArbiterCore.SNode.PromoteSteps

/-!
# Agreement of promotion acknowledgements

The promotions of one partition are an instance of the write-ahead protocol: the
ledger is its journal, the content root of hg_safe its root and REPLACE PARTITION
its publication. `Refines` relates a track, which is what the world holds about
one partition, to a protocol state, and every step of a promotion is matched by
steps of the protocol.
-/

namespace ArbiterCore

open Conc

variable [HouseGate]

/-- The promotion commands that the arbiter issues: a sequence number names one
    command of a partition, and the candidates of a command do not sum to zero. -/
structure Commands where
  issued : PromoteSafePartition → Prop
  seq_unique : ∀ c c', issued c → issued c' → c.key = c'.key →
    c.promotionSeq = c'.promotionSeq → c = c'
  sum_ne_zero : ∀ c, issued c → sumOf (candidateHashes c) ≠ 0

/-- The issued commands of one partition. -/
abbrev Commands.Of (cs : Commands) (k : PartitionKey) : Type :=
  { c : PromoteSafePartition // cs.issued c ∧ c.key = k }

theorem Commands.Of.schema_eq {cs : Commands} {k : PartitionKey} (c : cs.Of k) {r : Role} :
    c.1.schema r = r.schemas k.table :=
  congrArg (fun k : PartitionKey => r.schemas k.table) c.2.2

/-- The protocol of one partition. -/
def Commands.protocol (cs : Commands) (k : PartitionKey) :
    WriteAhead.Protocol (cs.Of k) LtHash.Acc where
  seq c := c.1.promotionSeq
  base c := accOf c.1.basePartitionRoot
  delta c := sumOf (candidateHashes c.1)
  seq_injective := fun c d h =>
    Subtype.ext (cs.seq_unique c.1 d.1 c.2.1 d.2.1 (c.2.2.trans d.2.2.symm) h)
  delta_ne_zero c := cs.sum_ne_zero c.1 c.2.1

/-- What the world holds about the promotions of one partition. -/
structure Track where
  disk : Ledger
  ledger : Ledger
  safe : List StoredPart
  published : List Publication
  acks : List PromotionAck

def World.track (w : World) (r : Role) (k : PartitionKey) : Track where
  disk := w.store.disk.ledger k
  ledger := w.state.ledger k
  safe := w.partition r k .hgSafe
  published := w.published.filter (·.cmd.key = k)
  acks := w.acks.filter (·.key = k)

variable {r : Role} {cs : Commands} {k : PartitionKey} {w w' : World}

/-- The acknowledgement `ack` carries the decision `d`. -/
structure AckFor (ack : PromotionAck) (d : cs.Of k × Bool) : Prop where
  key : ack.key = k
  seq : ack.promotionSeq = d.1.1.promotionSeq
  applied : ack.applied = d.2
  post : (if d.2 then lthashCombineHexAll d.1.1.basePartitionRoot (candidateHashes d.1.1) else .ok "")
    = .ok ack.postPartitionCommitment

/-- The intent `i` is one of the command `c`. -/
def IntentOf (i : PromotionIntent) (c : PromoteSafePartition) : Prop :=
  ∃ post, lthashCombineHexAll c.basePartitionRoot (candidateHashes c) = .ok post ∧
    promotionIntentMatchesCommand i c post = true

/-- A track stands where the protocol state `s` does. -/
structure Refines (r : Role) (cs : Commands) (k : PartitionKey) (t : Track)
    (s : WriteAhead.State (cs.Of k) LtHash.Acc) : Prop where
  durable : t.disk = t.ledger
  watermark : t.ledger.watermark = s.watermark
  base : accOf t.ledger.baseRoot = s.base
  root : contentRoot (r.schemas k.table) t.safe = s.root
  unpending : t.ledger.pending = none → s.intent = none
  pending : ∀ i, t.ledger.pending = some i → i.basePartitionRoot = t.ledger.baseRoot ∧
    ∃ c : cs.Of k, s.intent = some c ∧ IntentOf i c.1
  decision : ∀ ack, t.ledger.lastAck = some ack → ∃ d, s.decision = some d ∧ AckFor ack d
  published : t.published.map (·.cmd) = s.published.map (·.1)
  roots : ∀ p ∈ t.published,
    contentRoot (r.schemas k.table) p.before = accOf p.cmd.basePartitionRoot ∧
      contentRoot (r.schemas k.table) p.after =
        accOf p.cmd.basePartitionRoot + sumOf (candidateHashes p.cmd)
  sent : ∀ ack ∈ t.acks, ∃ d ∈ s.sent, AckFor ack d

namespace Refines

variable {t : Track} {s : WriteAhead.State (cs.Of k) LtHash.Acc}

/-- A pending intent that matches a command is that command's. -/
theorem intent_of_match (h : Refines r cs k t s) (c : cs.Of k) {i : PromotionIntent} {post : String}
    (hi : t.ledger.pending = some i) (hm : promotionIntentMatchesCommand i c.1 post = true) :
    s.intent = some c := by
  obtain ⟨-, c', hc', post', -, hm'⟩ := h.pending i hi
  have hseq : c'.1.promotionSeq = c.1.promotionSeq :=
    (promotionIntentMatchesCommand_seq hm').symm.trans (promotionIntentMatchesCommand_seq hm)
  rw [hc', (cs.protocol k).seq_injective hseq]

/-- A partition that is not yet published is free for the command. -/
theorem free (h : Refines r cs k t s) (c : cs.Of k) {v : PartitionView} (hv : v.ledger = t.ledger)
    (hsafe : v.safe = t.safe) (hun : Unpublished r c.1 v) :
    s.intent = none ∨ s.intent = some c ∧ s.root = s.base := by
  cases hp : t.ledger.pending with
  | none => exact .inl (h.unpending hp)
  | some i =>
    obtain ⟨post, -, hm, hroot⟩ := hun i (by rw [hv, hp])
    refine .inr ⟨h.intent_of_match c hp hm, ?_⟩
    have hbase : c.1.basePartitionRoot = t.ledger.baseRoot :=
      (promotionIntentMatchesCommand_base hm).symm.trans (h.pending i hp).1
    rw [hsafe, c.schema_eq, hbase, h.base, h.root] at hroot
    exact hroot

/-- The view of a partition is consistent. -/
theorem consistent (h : Refines r cs k (w.track r k) s) (hs : WriteAhead.Reachable (cs.protocol k) s) :
    Consistent r k (w.view r k) where
  settled hp := by
    have hroot : contentRoot (r.schemas k.table) (w.view r k).safe = s.root := h.root
    rw [hroot, (hs.inv.settled (h.unpending hp)).1]
    exact h.base.symm
  intent i hi := (h.pending i hi).1

end Refines

/-! ## Steps -/

section Steps

variable {s : WriteAhead.State (cs.Of k) LtHash.Acc} {t : Track}

/-- The track with another ledger, in memory and on disk. -/
def Track.journaled (t : Track) (l : Ledger) : Track := { t with disk := l, ledger := l }

/-- A refusal, recorded over the base it found. -/
theorem Refines.refuse (h : Refines r cs k t s) (c : cs.Of k)
    (hseq : t.ledger.watermark < c.1.promotionSeq)
    (hfree : s.intent = none ∨ s.intent = some c ∧ s.root = s.base) (detail snap : String) :
    ∃ s', WriteAhead.Step (cs.protocol k) s s' ∧ Refines r cs k
      (t.journaled ⟨c.1.promotionSeq, some (notAppliedAck r c.1 detail), t.ledger.baseRoot, snap, none⟩)
      s' := by
  refine ⟨_, .refuse c (h.watermark ▸ hseq) hfree, ?_⟩
  exact { h with
    durable := rfl
    watermark := rfl
    unpending := fun _ => rfl
    pending := nofun
    decision := fun ack hack => by
      cases hack
      exact ⟨_, rfl, c.2.2, rfl, rfl, rfl⟩ }

/-- A guarded state write is matched by the protocol. -/
theorem Refines.write (h : Refines r cs k t s) (c : cs.Of k) {v : PartitionView}
    (hv : v.ledger = t.ledger) (hsafe : v.safe = t.safe) {sw : StateWrite} {st next : LocalState}
    (hst : st.ledger k = t.ledger) (hg : PromotionWrite r c.1 v sw)
    (hap : sw.apply st = .ok (some next)) :
    ∃ s', Relation.ReflTransGen (WriteAhead.Step (cs.protocol k)) s s' ∧
      Refines r cs k (t.journaled (next.ledger k)) s' := by
  have hkey : c.1.key = k := c.2.2
  have hpend : st.pendingPromotion k = t.ledger.pending := congrArg Ledger.pending hst
  cases hg with
  | @begin post before hseq hbase hpost hun =>
    have hl : next.ledger k = { t.ledger with pending := some (promotionIntentFor c.1 post before) } := by
      rcases LocalState.beginPromotion_ok hap with ⟨hnone, -⟩ | hsome
      · cases hnone
      · cases hsome
        rw [hkey, LocalState.insertIntent_ledger, if_pos rfl, hst]
    rw [hl]
    rw [hv] at hseq hbase
    refine ⟨_, .single (.begin c (h.watermark ▸ hseq) ?_ ?_), ?_⟩
    · exact (congrArg accOf hbase).trans h.base
    · exact (h.free c hv hsafe hun).imp_right And.left
    exact { h with
      durable := rfl
      unpending := nofun
      pending := fun i hi => by
        cases hi
        exact ⟨hbase, c, rfl, post, hpost, promotionIntentFor_matches ..⟩ }
  | refused detail hseq hbase hun =>
    -- an intent of the command would have the base that the ledger has
    have hnone : t.ledger.pending = none := by
      cases hp : t.ledger.pending with
      | none => rfl
      | some i =>
        obtain ⟨post, -, hm, -⟩ := hun i (by rw [hv, hp])
        rw [hv, ← promotionIntentMatchesCommand_base hm] at hbase
        exact absurd (h.pending i hp).1 hbase
    have hl : next.ledger k = _ := LocalState.recordAck_ledger hap
    rw [if_pos hkey.symm, hkey, hpend, hnone, hv] at hl
    rw [hv] at hseq
    obtain ⟨s', hstep, href⟩ := h.refuse c hseq (.inl (h.unpending hnone)) detail _
    exact ⟨s', .single hstep, by rw [hl]; exact href⟩
  | settled detail hseq hun =>
    have hnone : (t.ledger.pending).filter (·.promotionSeq ≠ c.1.promotionSeq) = none := by
      cases hp : t.ledger.pending with
      | none => rfl
      | some i =>
        obtain ⟨post, -, hm, -⟩ := hun i (by rw [hv, hp])
        simp [Option.filter, promotionIntentMatchesCommand_seq hm]
    obtain ⟨_, hsome, hl⟩ := LocalState.recordSettledNotApplied_ok hap
    cases hsome
    have hl := hl k
    rw [if_pos hkey.symm, hkey, hpend, hnone, hv] at hl
    rw [hv] at hseq
    obtain ⟨s', hstep, href⟩ := h.refuse c hseq (h.free c hv hsafe hun) detail _
    exact ⟨s', .single hstep, by rw [hl]; exact href⟩
  | @refreshed ack mappings hack hseq hw happlied hlegacy =>
    obtain ⟨_, _, hsome, -, -, hl⟩ := LocalState.recordRefreshedAck_ok hap
    cases hsome
    have hl := hl k
    rw [if_pos hkey.symm, hkey, hst] at hl
    rw [hl]
    obtain ⟨d, hd, hfor⟩ := h.decision ack (by rw [← hv]; exact hack)
    exact ⟨s, .refl, { h with
      durable := rfl
      decision := fun a ha => by
        cases ha
        exact ⟨d, hd, hfor.key, hfor.seq, hfor.applied, hfor.post⟩ }⟩
  | @applied post mappings hseq hpending hroot =>
    obtain ⟨hpost, i, hi, hm⟩ := hpending
    have hc : s.intent = some c := h.intent_of_match c (by rw [← hv]; exact hi) hm
    rw [hsafe, c.schema_eq, h.root] at hroot
    have hsum : accOf post = accOf c.1.basePartitionRoot + sumOf (candidateHashes c.1) := by
      rw [lthashCombineHexAll_ok hpost, accOf_accumulatorHex]
    have hl : next.ledger k = ⟨c.1.promotionSeq, some (appliedAck r c.1 post mappings), post,
        c.1.baseSafeSnapshotID, none⟩ := by
      cases LocalState.recordAppliedPromotion_ok hap
      exact LocalState.appliedPromotion_ledger.trans (if_pos hkey.symm)
    rw [hl]
    refine ⟨_, .single (.apply c hc (hroot.trans hsum)), ?_⟩
    exact { h with
      durable := rfl
      watermark := rfl
      base := hroot.symm
      unpending := fun _ => rfl
      pending := nofun
      decision := fun a ha => by
        cases ha
        exact ⟨_, rfl, hkey, rfl, rfl, hpost⟩ }

/-- The publication of the command's shadow is matched by the protocol. -/
theorem Refines.publish (h : Refines r cs k t s) (c : cs.Of k) {v : PartitionView}
    (hv : v.ledger = t.ledger) (hsafe : v.safe = t.safe) {post : String}
    (hpending : Pending c.1 post v) (hon : OnBase r c.1 v) {new : List StoredPart}
    (hroot : contentRoot (r.schemas k.table) new = accOf post) :
    ∃ s', WriteAhead.Step (cs.protocol k) s s' ∧ Refines r cs k
      { t with safe := new, published := t.published ++ [⟨c.1, t.safe, new⟩] } s' := by
  obtain ⟨hpost, i, hi, hm⟩ := hpending
  rw [hv] at hi
  have hc : s.intent = some c := h.intent_of_match c hi hm
  have hbase : c.1.basePartitionRoot = t.ledger.baseRoot :=
    (promotionIntentMatchesCommand_base hm).symm.trans (h.pending i hi).1
  have hon' : contentRoot (r.schemas k.table) t.safe = accOf c.1.basePartitionRoot := by
    rw [← hsafe, hbase, ← hv, ← c.schema_eq]
    exact hon
  have hstay : s.root = s.base := by
    rw [← h.root, hon', hbase, h.base]
  have hsum : accOf post = accOf c.1.basePartitionRoot + sumOf (candidateHashes c.1) := by
    rw [lthashCombineHexAll_ok hpost, accOf_accumulatorHex]
  refine ⟨_, .publish c hc hstay, ?_⟩
  exact { h with
    root := by
      change _ = s.root + sumOf (candidateHashes c.1)
      rw [hroot, hsum, ← hon', h.root]
    published := by simp [h.published]
    roots := fun p hp => by
      rcases List.mem_append.mp hp with hp | hp
      · exact h.roots p hp
      · rw [List.mem_singleton.mp hp]
        exact ⟨hon', hroot.trans hsum⟩ }

theorem Refines.send (h : Refines r cs k t s) {ack : PromotionAck}
    (hack : t.ledger.lastAck = some ack) :
    ∃ s', WriteAhead.Step (cs.protocol k) s s' ∧
      Refines r cs k { t with acks := t.acks ++ [ack] } s' := by
  obtain ⟨d, hd, hfor⟩ := h.decision ack hack
  refine ⟨_, .send d hd, { h with sent := fun a ha => ?_ }⟩
  rcases List.mem_append.mp ha with ha | ha
  · obtain ⟨e, he, hfor'⟩ := h.sent a ha
    exact ⟨e, List.mem_append_left _ he, hfor'⟩
  · rw [List.mem_singleton.mp ha]
    exact ⟨d, List.mem_append_right _ (List.mem_singleton_self d), hfor⟩

end Steps

/-! ## Promotion steps -/

section World

variable {s : WriteAhead.State (cs.Of k) LtHash.Acc} {sound : Prop}

/-- Every step of a promotion is matched by steps of its partition's protocol. -/
theorem PromotionStep.refines (h : Refines r cs k (w.track r k) s) (c : cs.Of k) (hsound : sound)
    (hs : PromotionStep r atomicWrites c.1 sound w w') :
    ∃ s', Relation.ReflTransGen (WriteAhead.Step (cs.protocol k)) s s' ∧
      Refines r cs k (w'.track r k) s' := by
  obtain ⟨cmd, hissued, rfl⟩ := c
  cases hs with
  | idle => exact ⟨s, .refl, h⟩
  | shadow t ht =>
    refine ⟨s, .refl, ?_⟩
    have hsafe : (w.setTable .hgPromote cmd.tableID t).partition r cmd.key .hgSafe =
        w.partition r cmd.key .hgSafe := by
      rw [World.partition, World.setTable_parts_of_ne (by simp)]
      rfl
    rw [World.track, hsafe]
    exact h
  | journal hg hf hs =>
    rcases atomicWrites_cases hf hs with rfl | ⟨next, hap, rfl⟩
    · exact ⟨s, .refl, h⟩
    · exact h.write ⟨cmd, hissued, rfl⟩ rfl rfl rfl hg hap
  | publish new hseq hpending hroot hcopy hbase hnew =>
    have hall : AllIn (cmd.schema r) cmd.partitionID new := hcopy.allIn (allIn_partitionOf _)
    obtain ⟨s', hstep, href⟩ := h.publish ⟨cmd, hissued, rfl⟩ rfl rfl hpending (hbase hsound)
      (hcopy.contentRoot.trans hroot)
    refine ⟨s', .single hstep, ?_⟩
    obtain ⟨hstate, hstore, hacks, hpub⟩ := World.replaced_frame hnew
    have hself : ∀ p : Publication, p.cmd = cmd → [p].filter (·.cmd.key = cmd.key) = [p] :=
      fun p hp => by simp [hp]
    rw [World.track, hstate, hstore, hacks, hpub, World.replaced_safe hnew hall,
      List.filter_append, hself _ rfl]
    exact href
  | @send ack hack hseq =>
    obtain ⟨s', hstep, href⟩ := h.send hack
    refine ⟨s', .single hstep, ?_⟩
    obtain ⟨d, -, hfor⟩ := h.decision ack hack
    have hself : [ack].filter (·.key = cmd.key) = [ack] := by simp [hfor.key]
    rw [World.track, List.filter_append, hself]
    exact href

/-- A step of a promotion leaves the track of every other partition alone. -/
theorem PromotionStep.track_of_ne {cmd : PromoteSafePartition}
    (hs : PromotionStep r atomicWrites cmd sound w w') (hk : k ≠ cmd.key)
    (hdurable : w.store.disk.ledger k = w.store.mem.ledger k)
    (hkey : ∀ ack, (w.state.ledger cmd.key).lastAck = some ack → ack.key = cmd.key) :
    w'.track r k = w.track r k := by
  have hview := hs.view_of_ne hk
  have hledger : w'.state.ledger k = w.state.ledger k := congrArg PartitionView.ledger hview
  have hsafe : w'.partition r k .hgSafe = w.partition r k .hgSafe := congrArg PartitionView.safe hview
  have hrest : w'.store.disk.ledger k = w.store.disk.ledger k ∧
      w'.published.filter (·.cmd.key = k) = w.published.filter (·.cmd.key = k) ∧
      w'.acks.filter (·.key = k) = w.acks.filter (·.key = k) := by
    cases hs with
    | idle => exact ⟨rfl, rfl, rfl⟩
    | shadow t ht => exact ⟨rfl, rfl, rfl⟩
    | journal hg hf hs =>
      refine ⟨?_, rfl, rfl⟩
      rcases atomicWrites_cases hf hs with rfl | ⟨next, hap, rfl⟩
      · rfl
      · exact (hg.ledger_of_ne hap hk).trans hdurable.symm
    | publish new hseq hpending hroot hcopy hbase hnew =>
      obtain ⟨-, hstore, hacks, hpub⟩ := World.replaced_frame hnew
      rw [hstore, hacks, hpub, List.filter_append]
      simp [Ne.symm hk]
    | send hack hseq =>
      refine ⟨rfl, rfl, ?_⟩
      rw [List.filter_append]
      simp [hkey _ hack, Ne.symm hk]
  rw [World.track, hledger, hsafe, hrest.1, hrest.2.1, hrest.2.2]
  rfl

end World

/-! ## The system of promotions -/

/-- The world before the first promotion. -/
structure Fresh (w : World) : Prop where
  store : w.store = ⟨newLocalState, newLocalState⟩
  safe : ∀ table, w.tables .hgSafe table = .empty
  published : w.published = []
  acks : w.acks = []

/-- What other code does next to the promotions: it leaves the promotion ledgers
    and the tables hg_safe and hg_promote alone. -/
structure Elsewhere (w w' : World) : Prop where
  disk : w'.store.disk.ledger = w.store.disk.ledger
  ledger : w'.state.ledger = w.state.ledger
  safe : w'.tables .hgSafe = w.tables .hgSafe
  promote : w'.tables .hgPromote = w.tables .hgPromote
  published : w'.published = w.published
  acks : w'.acks = w.acks

/-- Promotions and settles of the issued commands, in any order and with any
    repetition; one at a time in each partition. -/
def promotionSystem (r : Role) (cs : Commands) :
    System Op World PartitionKey (Except GoError Unit) where
  machine := machine r atomicWrites
  start k _ p := ∃ (c : cs.Of k) (settle : Bool), p = (handlePromote r c.1 settle).run
  env := Elsewhere
  crash := World.crash

omit [HouseGate] in
theorem Elsewhere.view_eq (h : Elsewhere w w') : w'.view r k = w.view r k := by
  simp only [World.view, World.partition, World.parts, h.ledger, h.safe, h.promote]

omit [HouseGate] in
theorem Elsewhere.track_eq (h : Elsewhere w w') : w'.track r k = w.track r k := by
  simp only [World.track, World.partition, World.parts, h.disk, h.ledger, h.safe, h.published, h.acks]

/-- Every partition follows its protocol. -/
def Tracked (r : Role) (cs : Commands) (w : World) : Prop :=
  ∀ k, ∃ s, WriteAhead.Reachable (cs.protocol k) s ∧ Refines r cs k (w.track r k) s

theorem Tracked.consistent (h : Tracked r cs w) : Consistent r k (w.view r k) := by
  obtain ⟨s, hs, href⟩ := h k
  exact href.consistent hs

omit [HouseGate] in
theorem Fresh.track (h : Fresh w) (k : PartitionKey) :
    w.track r k = ⟨newLocalState.ledger k, newLocalState.ledger k, [], [], []⟩ := by
  simp [World.track, World.partition, World.parts, World.state, h.store, h.safe, h.published,
    h.acks, partitionOf, Table.empty]

theorem Tracked.of_fresh (h : Fresh w) : Tracked r cs w := by
  intro k
  refine ⟨_, .refl, ?_⟩
  rw [h.track k]
  exact {
    durable := rfl
    watermark := rfl
    base := accOf_empty
    root := rfl
    unpending := fun _ => rfl
    pending := nofun
    decision := nofun
    published := rfl
    roots := nofun
    sent := nofun }

theorem Tracked.step (h : Tracked r cs w) (c : cs.Of k)
    (hs : PromotionStep r atomicWrites c.1 True w w') : Tracked r cs w' := by
  intro k'
  obtain ⟨s, hs', href⟩ := h k'
  by_cases hk : k' = k
  · subst hk
    obtain ⟨s₁, hsteps, href₁⟩ := hs.refines href c trivial
    exact ⟨s₁, hs'.trans hsteps, href₁⟩
  have hk' : k' ≠ c.1.key := by rw [c.2.2]; exact hk
  refine ⟨s, hs', ?_⟩
  rw [hs.track_of_ne hk' href.durable fun ack hack => ?_]
  · exact href
  rw [c.2.2] at hack ⊢
  obtain ⟨s₀, -, href₀⟩ := h k
  obtain ⟨d, -, hfor⟩ := href₀.decision ack hack
  exact hfor.key

theorem Tracked.crash (h : Tracked r cs w) : Tracked r cs w.crash := by
  intro k
  obtain ⟨s, hs, href⟩ := h k
  refine ⟨s, hs, ?_⟩
  have ht : w.crash.track r k = w.track r k := by
    change (⟨w.store.disk.ledger k, w.store.disk.ledger k, _, _, _⟩ : Track) = _
    rw [show w.store.disk.ledger k = w.state.ledger k from href.durable]
    simp only [World.track, show w.store.disk.ledger k = w.state.ledger k from href.durable]
    rfl
  rw [ht]
  exact href

/-- The promotions keep out of each other's way and follow the protocol. -/
def promotionOutline (r : Role) (cs : Commands) : Outline (promotionSystem r cs) where
  contract k := viewContract (fun w => w.view r k) fun w w' =>
    ∃ c : cs.Of k, PromotionStep r atomicWrites c.1 True w w'
  post _ _ _ := True
  inv := Tracked r cs
  rely_refl _ _ := rfl
  rely_trans _ _ _ _ h h' := h'.trans h
  post_stable _ _ _ _ _ h := h
  start_wp := by
    rintro k w p hinv ⟨c, settle, rfl⟩
    obtain ⟨cmd, hissued, rfl⟩ := c
    have hwp : promoteSafe r atomicWrites cmd True (handlePromote r cmd settle) (w.view r cmd.key) :=
      handlePromote_wp fun _ => hinv.consistent
    exact (hwp.run rfl).weaken (fun _ _ h => h) fun _ _ hs => ⟨⟨cmd, hissued, rfl⟩, hs⟩
  guar_rely := by
    rintro k k' hk w w' - ⟨c, hs⟩
    exact hs.view_of_ne (by rw [c.2.2]; exact hk)
  env_rely _ _ _ _ h := h.view_eq
  guar_inv := by
    rintro k w w' hinv ⟨c, hs⟩
    exact hinv.step c hs
  env_inv := by
    intro w w' hinv h k
    rw [h.track_eq]
    exact hinv k
  crash_inv _ h := h.crash
  leave_rely _ _ _ _ _ := rfl
  leave_inv _ _ h := h

/-! ## Agreement -/

/-- The effective REPLACEs of one promotion of a partition. -/
def World.publications (w : World) (k : PartitionKey) (seq : Nat) : List Publication :=
  w.published.filter fun p => p.cmd.key = k ∧ p.cmd.promotionSeq = seq

/-- The publication took hg_safe from the command's base to base plus candidates. -/
structure Publication.Moves (r : Role) (p : Publication) : Prop where
  before : contentRoot (p.cmd.schema r) p.before = accOf p.cmd.basePartitionRoot
  after : contentRoot (p.cmd.schema r) p.after =
    accOf p.cmd.basePartitionRoot + sumOf (candidateHashes p.cmd)

omit [HouseGate] in
theorem filter_eq_singleton_of_nodup {α β : Type} [DecidableEq β] {f : α → β} {l : List α}
    (hl : (l.map f).Nodup) {a : α} (ha : a ∈ l) : l.filter (f · = f a) = [a] := by
  induction l with
  | nil => cases ha
  | cons b l ih =>
    rw [List.map_cons, List.nodup_cons] at hl
    rcases List.mem_cons.mp ha with rfl | ha
    · have hnone : l.filter (f · = f a) = [] :=
        List.filter_eq_nil_iff.mpr fun c hc h =>
          hl.1 (List.mem_map.mpr ⟨c, hc, by simpa using h⟩)
      simp [hnone]
    · have hne : f b ≠ f a := fun h => hl.1 (h ▸ List.mem_map_of_mem ha)
      simp [hne, ih hl.2 ha]

omit [HouseGate] in
theorem World.publications_eq (w : World) (k : PartitionKey) (seq : Nat) :
    w.publications k seq = (w.track r k).published.filter (·.cmd.promotionSeq = seq) := by
  simp only [World.publications, World.track, List.filter_filter]
  exact List.filter_congr fun p _ => by rw [Bool.decide_and, Bool.and_comm]

section Decided

variable {s : WriteAhead.State (cs.Of k) LtHash.Acc} (h : Refines r cs k (w.track r k) s)
  (hs : WriteAhead.Reachable (cs.protocol k) s) {d : cs.Of k × Bool} (hd : d ∈ s.sent)
include h hs

/-- The sequence numbers of a partition's publications increase. -/
theorem Refines.publications_nodup :
    ((w.track r k).published.map (·.cmd.promotionSeq)).Nodup := by
  have hmap : (w.track r k).published.map (·.cmd.promotionSeq) = s.published.map (cs.protocol k).seq := by
    have := congrArg (List.map PromoteSafePartition.promotionSeq) h.published
    rwa [List.map_map, List.map_map] at this
  rw [hmap]
  exact (List.pairwise_map.mpr hs.inv.increasing).imp Nat.ne_of_lt

include hd

theorem Refines.publication_of_applied (happlied : d.2 = true) :
    ∃ p, w.publications k d.1.1.promotionSeq = [p] ∧ p.Moves r := by
  have hmem : d.1.1 ∈ (w.track r k).published.map (·.cmd) := by
    rw [h.published]
    exact List.mem_map_of_mem ((hs.decided hd).mp happlied)
  obtain ⟨p, hp, hcmd⟩ := List.mem_map.mp hmem
  refine ⟨p, ?_, ?_⟩
  · rw [World.publications_eq (r := r), ← hcmd]
    exact filter_eq_singleton_of_nodup (h.publications_nodup hs) hp
  · obtain ⟨hbefore, hafter⟩ := h.roots p hp
    have hsch : p.cmd.schema r = r.schemas k.table := by rw [hcmd, d.1.schema_eq]
    exact ⟨by rw [hsch, hbefore], by rw [hsch, hafter]⟩

theorem Refines.no_publication_of_refused (hrefused : d.2 = false) :
    w.publications k d.1.1.promotionSeq = [] := by
  rw [World.publications_eq (r := r), List.filter_eq_nil_iff]
  intro p hp hseq
  -- the publication's command is the decided one, as they share a sequence number
  have hmem : p.cmd ∈ s.published.map (·.1) := by
    rw [← h.published]
    exact List.mem_map_of_mem hp
  obtain ⟨c, hc, hcmd⟩ := List.mem_map.mp hmem
  have heq : c = d.1 := (cs.protocol k).seq_injective (by
    change c.1.promotionSeq = d.1.1.promotionSeq
    rw [hcmd]
    simpa using hseq)
  have happlied := (hs.decided hd).mpr (heq ▸ hc)
  rw [hrefused] at happlied
  cases happlied

end Decided

/-- In every run of promote and settle deliveries, two acknowledgements of one
    promotion agree on whether it was applied and on the post root; an applied
    promotion was published exactly once, by a REPLACE that took hg_safe from the
    command's base to base plus candidates; a refused one never was. -/
theorem promotion_acks_agree (r : Role) (cs : Commands) (k : PartitionKey)
    {c : Config Op World PartitionKey (Except GoError Unit)}
    (h : Reach (promotionSystem r cs) Fresh c) :
    (∀ a ∈ c.world.acks, ∀ b ∈ c.world.acks, a.key = k → b.key = k →
      a.promotionSeq = b.promotionSeq →
        a.applied = b.applied ∧ a.postPartitionCommitment = b.postPartitionCommitment) ∧
    (∀ a ∈ c.world.acks, a.key = k → a.applied = true →
      ∃ p, c.world.publications k a.promotionSeq = [p] ∧ p.Moves r) ∧
    (∀ a ∈ c.world.acks, a.key = k → a.applied = false →
      c.world.publications k a.promotionSeq = []) := by
  obtain ⟨s, hs, href⟩ := (h.outlined (promotionOutline r cs) fun _ => Tracked.of_fresh).inv k
  have hsent : ∀ a ∈ c.world.acks, a.key = k → ∃ d ∈ s.sent, AckFor a d :=
    fun a ha hk => href.sent a (List.mem_filter.mpr ⟨ha, by simpa using hk⟩)
  refine ⟨fun a ha b hb hka hkb hseq => ?_, fun a ha hka happlied => ?_, fun a ha hka hrefused => ?_⟩
  · obtain ⟨d, hd, hda⟩ := hsent a ha hka
    obtain ⟨e, he, heb⟩ := hsent b hb hkb
    have hde : d = e := hs.agree hd he (hda.seq.symm.trans (hseq.trans heb.seq))
    subst hde
    exact ⟨hda.applied.trans heb.applied.symm, Except.ok.inj (hda.post.symm.trans heb.post)⟩
  · obtain ⟨d, hd, hda⟩ := hsent a ha hka
    rw [hda.seq]
    exact href.publication_of_applied hs hd (hda.applied ▸ happlied)
  · obtain ⟨d, hd, hda⟩ := hsent a ha hka
    rw [hda.seq]
    exact href.no_publication_of_refused hs hd (hda.applied ▸ hrefused)

namespace SmallNode

/-- One part with one row. -/
def onePart : Table := ⟨[⟨"u1", "all", "", "f1", "", 1, [⟨"r1", "a"⟩]⟩], by decide⟩

/-- The promotion of that part. -/
def promoteOne : PromoteSafePartition := ⟨"t", "all", 1, "s", "", [⟨"t", "all", "0x1", "u1"⟩]⟩

def commands : letI := gate; Commands :=
  letI := gate
  { issued := (· = promoteOne)
    seq_unique := by rintro _ _ rfl rfl _ _; rfl
    sum_ne_zero := by rintro _ rfl; decide }

/-- The outcomes of an undisturbed promotion. -/
def promoteOneAnswers : List Answer :=
  List.replicate 11 .ok ++ { names := ["s1"] } :: List.replicate 3 .ok ++
    { names := ["a1"] } :: List.replicate 6 .ok

end SmallNode

omit [HouseGate] in
open SmallNode in
/-- The promotion of one part ends applied, with one publication. -/
theorem promotion_acks_agree_promoteOne : letI := gate
    ∃ c, Reach (promotionSystem role commands) Fresh c ∧ c.world.acks.map (·.applied) = [true] ∧
      ∃ p, c.world.publications ⟨"t", "all"⟩ 1 = [p] ∧ p.Moves role := by
  let _ := gate
  have hinit : Reach (promotionSystem role commands) Fresh (.idle (world onePart)) :=
    .init _ ⟨rfl, fun _ => rfl, rfl, rfl⟩
  obtain ⟨a, w, hrun, hack⟩ : ∃ a w, (promotionSystem role commands).machine.replay
      (handlePromote role promoteOne false).run promoteOneAnswers (world onePart) =
        some (.ret a, w) ∧ ∃ ack, w.acks = [ack] ∧ ack.applied = true ∧ ack.promotionSeq = 1 ∧
          ack.key = ⟨"t", "all"⟩ :=
    ⟨_, _, rfl, _, rfl, rfl, rfl, rfl⟩
  obtain ⟨ack, hacks, happlied, hseq, hkey⟩ := hack
  have hreach := hinit.runs (i := ⟨"t", "all"⟩) ⟨⟨promoteOne, rfl, rfl⟩, false, rfl⟩ hrun
  obtain ⟨-, hpub, -⟩ := promotion_acks_agree role commands ⟨"t", "all"⟩ hreach
  refine ⟨_, hreach, ?_, ?_⟩
  · change w.acks.map (·.applied) = [true]
    rw [hacks, List.map_singleton, happlied]
  · obtain ⟨p, hp, hmoves⟩ := hpub ack (by change ack ∈ w.acks; simp [hacks]) hkey happlied
    exact ⟨p, hseq ▸ hp, hmoves⟩

end ArbiterCore
