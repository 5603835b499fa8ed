-- SUMMARY: The steps a promotion may take, and the proof that the handlers take no others.
import ArbiterCore.SNode.Matching
import ArbiterCore.SNode.Scan

/-!
# The steps of a promotion

`PromotionStep` is the abstract automaton of one promotion command: it works on
its shadow, journals, publishes and acknowledges, each under a guard on what it
knows of its partition. `handlePromote_wp` shows that the handlers, run against
any interference that leaves the partition alone, take only such steps.
-/

namespace ArbiterCore

open Conc

/-- What the promotion lock protects: the ledger of a partition and its parts in
    hg_safe and hg_promote. -/
structure PartitionView where
  ledger : Ledger
  safe : List StoredPart
  promote : List StoredPart

namespace World

variable (w : World) (r : Role) (k : PartitionKey)

/-- The active parts of one partition. -/
def partition (db : Database) : List StoredPart :=
  partitionOf (r.schemas k.table) k.partition (w.parts db k.table)

def view : PartitionView :=
  ⟨w.state.ledger k, w.partition r k .hgSafe, w.partition r k .hgPromote⟩

end World

variable [HouseGate]

/-- The schema of a command's table. -/
abbrev PromoteSafePartition.schema (cmd : PromoteSafePartition) (r : Role) : TableSchema :=
  r.schemas cmd.tableID

/-- The roots of hg_safe and of a pending intent are those of the ledger. -/
structure Consistent (r : Role) (k : PartitionKey) (v : PartitionView) : Prop where
  settled : v.ledger.pending = none → contentRoot (r.schemas k.table) v.safe = accOf v.ledger.baseRoot
  intent : ∀ i, v.ledger.pending = some i → i.basePartitionRoot = v.ledger.baseRoot

/-- A pending intent, if there is one, is the command's and is not yet published. -/
def Unpublished (r : Role) (cmd : PromoteSafePartition) (v : PartitionView) : Prop :=
  ∀ i, v.ledger.pending = some i →
    ∃ post, lthashCombineHexAll cmd.basePartitionRoot (candidateHashes cmd) = .ok post ∧
      promotionIntentMatchesCommand i cmd post = true ∧
      contentRoot (cmd.schema r) v.safe = accOf cmd.basePartitionRoot

/-- hg_safe holds what the ledger's base root says. -/
def OnBase (r : Role) (cmd : PromoteSafePartition) (v : PartitionView) : Prop :=
  contentRoot (cmd.schema r) v.safe = accOf v.ledger.baseRoot

/-- The command's intent is pending with the post root `post`. -/
def Pending (cmd : PromoteSafePartition) (post : String) (v : PartitionView) : Prop :=
  lthashCombineHexAll cmd.basePartitionRoot (candidateHashes cmd) = .ok post ∧
    ∃ i, v.ledger.pending = some i ∧ promotionIntentMatchesCommand i cmd post = true

/-- The state writes of a promotion command, with their guards. -/
inductive PromotionWrite (r : Role) (cmd : PromoteSafePartition) (v : PartitionView) :
    StateWrite → Prop where
  | begin {post : String} (before : List Part) (hseq : v.ledger.watermark < cmd.promotionSeq)
      (hbase : cmd.basePartitionRoot = v.ledger.baseRoot)
      (hpost : lthashCombineHexAll cmd.basePartitionRoot (candidateHashes cmd) = .ok post)
      (hpending : Unpublished r cmd v) :
      PromotionWrite r cmd v (.beginPromotion cmd.key (promotionIntentFor cmd post before))
  | refused (detail : String) (hseq : v.ledger.watermark < cmd.promotionSeq)
      (hbase : cmd.basePartitionRoot ≠ v.ledger.baseRoot) (hpending : Unpublished r cmd v) :
      PromotionWrite r cmd v (.recordAck cmd.key cmd.promotionSeq (notAppliedAck r cmd detail)
        v.ledger.baseRoot v.ledger.baseSnapshotID)
  | settled (detail : String) (hseq : v.ledger.watermark < cmd.promotionSeq)
      (hpending : Unpublished r cmd v) :
      PromotionWrite r cmd v (.recordSettledNotApplied cmd.key cmd.promotionSeq
        (notAppliedAck r cmd detail) v.ledger.baseRoot v.ledger.baseSnapshotID)
  | refreshed {ack : PromotionAck} (mappings : SafePartMappings)
      (hack : v.ledger.lastAck = some ack) (hseq : ack.promotionSeq = cmd.promotionSeq)
      (hw : cmd.promotionSeq ≤ v.ledger.watermark) (happlied : ack.applied = true)
      (hlegacy : ack.safePartitionParts = []) :
      PromotionWrite r cmd v (.recordRefreshedAck cmd.key
        { ack with parts := mappings.candidates, safePartitionParts := mappings.partition })
  | applied {post : String} (mappings : SafePartMappings)
      (hseq : v.ledger.watermark < cmd.promotionSeq) (hpending : Pending cmd post v)
      (hroot : contentRoot (cmd.schema r) v.safe = accOf post) :
      PromotionWrite r cmd v (.recordAppliedPromotion cmd.key cmd.promotionSeq
        (appliedAck r cmd post mappings) post cmd.baseSafeSnapshotID (candidateHashes cmd)
        (candidateNames cmd))

/-- One step of a promotion command. It publishes over the base root if `sound`,
    that is, if the partition was consistent when the command took its lock. -/
inductive PromotionStep (r : Role) (faults : Faults) (cmd : PromoteSafePartition) (sound : Prop) :
    World → World → Prop where
  | idle (w : World) : PromotionStep r faults cmd sound w w
  /-- It rebuilds its partition of the shadow. -/
  | shadow {w : World} (t : Table)
      (h : ∀ pid, pid ≠ cmd.partitionID → partitionOf (cmd.schema r) pid t.parts =
        partitionOf (cmd.schema r) pid (w.parts .hgPromote cmd.tableID)) :
      PromotionStep r faults cmd sound w (w.setTable .hgPromote cmd.tableID t)
  /-- It journals. -/
  | journal {w : World} {sw : StateWrite} {fault : WriteFault} {e : GoError}
      {res : Except GoError Unit} {store : Store}
      (h : PromotionWrite r cmd (w.view r cmd.key) sw) (hf : faults sw fault = true)
      (hs : w.store.write sw fault e = (res, store)) :
      PromotionStep r faults cmd sound w (w.written sw fault store)
  /-- It publishes its shadow, which holds base plus candidates. -/
  | publish {w w' : World} {post : String} (new : List StoredPart)
      (hseq : (w.state.ledger cmd.key).watermark < cmd.promotionSeq)
      (hpending : Pending cmd post (w.view r cmd.key))
      (hroot : contentRoot (cmd.schema r) (w.partition r cmd.key .hgPromote) = accOf post)
      (hcopy : CopyOf new (w.partition r cmd.key .hgPromote))
      (hbase : sound → OnBase r cmd (w.view r cmd.key))
      (hnew : w.replaced (cmd.schema r) cmd new = some w') : PromotionStep r faults cmd sound w w'
  /-- It sends its journaled acknowledgement. -/
  | send {w : World} {ack : PromotionAck}
      (hack : (w.state.ledger cmd.key).lastAck = some ack)
      (hseq : ack.promotionSeq = cmd.promotionSeq) :
      PromotionStep r faults cmd sound w { w with acks := w.acks ++ [ack] }

/-! ## REPLACE PARTITION -/

variable {db : Database}

section Replace

variable {r : Role} {cmd : PromoteSafePartition} {w w' : World} {new : List StoredPart}

omit [HouseGate]

theorem World.replaced_frame (h : w.replaced (cmd.schema r) cmd new = some w') :
    w'.state = w.state ∧ w'.store = w.store ∧ w'.acks = w.acks ∧
      w'.published = w.published ++ [⟨cmd, w.partition r cmd.key .hgSafe, new⟩] := by
  simp only [World.replaced, Option.map_eq_some_iff] at h
  obtain ⟨t, -, rfl⟩ := h
  refine ⟨rfl, rfl, rfl, ?_⟩
  simp only [World.partition, PromoteSafePartition.key, PromoteSafePartition.schema,
    r.schemas_tableID]

theorem World.replaced_safe (h : w.replaced (cmd.schema r) cmd new = some w')
    (hall : AllIn (cmd.schema r) cmd.partitionID new) : w'.partition r cmd.key .hgSafe = new := by
  simp only [World.replaced, Option.map_eq_some_iff] at h
  obtain ⟨t, ht, rfl⟩ := h
  change partitionOf (cmd.schema r) cmd.partitionID
    ((w.setTable .hgSafe (cmd.schema r).tableID t).parts .hgSafe cmd.tableID) = new
  rw [r.schemas_tableID, World.setTable_parts_self, Table.add_parts ht, Table.keep_parts,
    partitionOf_append, hall.partitionOf_self, partitionOf_filter_ne, List.nil_append]

theorem PartitionKey.ne_of_table {k k' : PartitionKey} (h : k ≠ k') (ht : k.table = k'.table) :
    k.partition ≠ k'.partition := fun hp => h (by cases k; cases k'; simp_all)

/-- REPLACE PARTITION changes no other partition. -/
theorem World.replaced_partition_of_ne (h : w.replaced (cmd.schema r) cmd new = some w')
    (hall : AllIn (cmd.schema r) cmd.partitionID new) {k : PartitionKey}
    (hne : k ≠ cmd.key ∨ db ≠ .hgSafe) : w'.partition r k db = w.partition r k db := by
  simp only [World.replaced, Option.map_eq_some_iff] at h
  obtain ⟨t, ht, rfl⟩ := h
  change partitionOf _ k.partition ((w.setTable .hgSafe (cmd.schema r).tableID t).parts db k.table) =
    partitionOf _ k.partition (w.parts db k.table)
  rw [r.schemas_tableID] at ht ⊢
  by_cases hdb : db = .hgSafe ∧ k.table = cmd.tableID
  · obtain ⟨rfl, htable⟩ := hdb
    have hk : k ≠ cmd.key := hne.resolve_right (· rfl)
    have hpid : k.partition ≠ cmd.key.partition := PartitionKey.ne_of_table hk htable
    rw [htable, World.setTable_parts_self, Table.add_parts ht, Table.keep_parts,
      partitionOf_append, hall.partitionOf_ne hpid, List.append_nil]
    exact partitionOf_filter_of_ne hpid _
  · rw [World.setTable_parts_of_ne hdb]

end Replace

/-! ## Rules for the operations of a promotion -/

variable {r : Role} {faults : Faults} {cmd : PromoteSafePartition} {sound : Prop} {α β : Type}
  {E : PartitionView → Prop} {v : PartitionView} {post : String}

/-- Weakest precondition of a handler that acts for the command `cmd`. -/
abbrev promoteWp (r : Role) (faults : Faults) (cmd : PromoteSafePartition) (sound : Prop)
    (p : Handler α) (Q : α → PartitionView → Prop) (E : PartitionView → Prop)
    (v : PartitionView) : Prop :=
  wpV (machine r faults) (fun w => w.view r cmd.key) (PromotionStep r faults cmd sound) p Q E v

section Rules

variable {Q : α → PartitionView → Prop}

theorem promoteWp_state {Q : LocalState → PartitionView → Prop}
    (h : ∀ s, s.ledger cmd.key = v.ledger → Q s v) :
    promoteWp r faults cmd sound (ask .state) Q E v := by
  refine wpV_ask fun w s w' hw hs => ?_
  obtain ⟨a, ha⟩ := hs
  cases ha
  exact ⟨.idle w, by rw [hw]; exact h _ (congrArg PartitionView.ledger hw)⟩

/-- A query answers `f a w` and leaves the world alone, or fails. -/
theorem promoteWp_query {op : Op (Except GoError α)} {f : Answer → World → α}
    (hop : ∀ a w, op.run r faults a w = a.query w (f a w))
    (hQ : ∀ a (w : World), w.view r cmd.key = v → Q (f a w) v) (hE : E v) :
    promoteWp r faults cmd sound (call op) Q E v := by
  refine wpV_call fun w res w' hw hs => ?_
  obtain ⟨a, ha⟩ := hs
  obtain ⟨rfl, hres⟩ := Answer.query_cases ((hop a w).symm.trans ha)
  refine ⟨.idle w', ?_⟩
  rw [hw]
  rcases hres with rfl | ⟨e, rfl⟩
  · exact hQ a w' hw
  · exact hE

theorem promoteWp_schemaFor {Q : TableSchema → PartitionView → Prop} (hQ : Q (cmd.schema r) v)
    (hE : E v) : promoteWp r faults cmd sound (call (.schemaFor cmd.tableID)) Q E v :=
  promoteWp_query (fun _ _ => rfl) (fun _ _ _ => hQ) hE

theorem promoteWp_activeParts {Q : List Part → PartitionView → Prop}
    (hQ : ∀ w : World, w.view r cmd.key = v → Q (listing (w.parts db cmd.tableID)) v) (hE : E v) :
    promoteWp r faults cmd sound (call (.activeParts db (cmd.schema r).tableID)) Q E v := by
  rw [r.schemas_tableID]
  exact promoteWp_query (fun _ _ => rfl) (fun _ => hQ) hE

theorem promoteWp_scanParts {names : List String} {Q : List PartScanResult → PartitionView → Prop}
    (hQ : ∀ w : World, w.view r cmd.key = v →
      Q (scanned (cmd.schema r) (w.parts db cmd.tableID) names) v) (hE : E v) :
    promoteWp r faults cmd sound (call (.scanParts db (cmd.schema r) names)) Q E v := by
  refine promoteWp_query (fun a w => ?_) (fun _ => hQ) hE
  rw [← r.schemas_tableID cmd.tableID]
  rfl

/-- A view that differs in the shadow only. -/
def Shadowed (v v' : PartitionView) : Prop := v'.ledger = v.ledger ∧ v'.safe = v.safe

omit [HouseGate] in
theorem Shadowed.refl (v : PartitionView) : Shadowed v v := ⟨rfl, rfl⟩

omit [HouseGate] in
theorem Shadowed.trans {v v' v'' : PartitionView} (h : Shadowed v v') (h' : Shadowed v' v'') :
    Shadowed v v'' := ⟨h'.1.trans h.1, h'.2.trans h.2⟩

end Rules

section Statements

variable {Q : Unit → PartitionView → Prop}

/-- A statement that changes at most this partition of hg_promote. -/
theorem promoteWp_shadow {op : Op (Except GoError Unit)}
    (hop : ∀ a w res w', op.run r faults a w = some (res, w') → w' = w ∨
      ∃ t : Table, w' = w.setTable .hgPromote cmd.tableID t ∧
        ∀ pid, pid ≠ cmd.partitionID → partitionOf (cmd.schema r) pid t.parts =
          partitionOf (cmd.schema r) pid (w.parts .hgPromote cmd.tableID))
    (hQ : ∀ v', Shadowed v v' → Q () v') (hE : ∀ v', Shadowed v v' → E v') :
    promoteWp r faults cmd sound (call op) Q E v := by
  refine wpV_call fun w res w' hw hs => ?_
  obtain ⟨a, ha⟩ := hs
  have key : PromotionStep r faults cmd sound w w' ∧ Shadowed v (w'.view r cmd.key) := by
    rcases hop a w res w' ha with rfl | ⟨t, rfl, ht⟩
    · exact ⟨.idle w', hw ▸ Shadowed.refl _⟩
    refine ⟨.shadow t ht, ?_, ?_⟩
    · rw [← hw]; rfl
    · rw [← hw]
      simp only [World.view, World.partition]
      rw [World.setTable_parts_of_ne (by simp)]
  refine ⟨key.1, ?_⟩
  cases res with
  | ok _ => exact hQ _ key.2
  | error e => exact hE _ key.2

theorem promoteWp_attachPartition {src : Database} (hQ : ∀ v', Shadowed v v' → Q () v')
    (hE : ∀ v', Shadowed v v' → E v') :
    promoteWp r faults cmd sound (call (.attachPartition src (cmd.schema r) cmd.partitionID)) Q E v := by
  refine promoteWp_shadow (fun a w res w' h => ?_) hQ hE
  simp only [Op.run, Option.bind_eq_some_iff, World.attached, Option.map_eq_some_iff] at h
  obtain ⟨new, hnew, _, ⟨t, ht, rfl⟩, hst⟩ := h
  rw [r.schemas_tableID] at ht hst
  have hall := (copyOf_renamed hnew).allIn (allIn_partitionOf _)
  have hother : ∀ pid, pid ≠ cmd.partitionID → partitionOf (cmd.schema r) pid t.parts =
      partitionOf (cmd.schema r) pid (w.parts .hgPromote cmd.tableID) := by
    intro pid hpid
    rw [Table.add_parts ht, partitionOf_append, hall.partitionOf_ne hpid, List.append_nil]
    rfl
  rcases Answer.statement_cases hst with ⟨-, rfl⟩ | ⟨-, rfl | rfl⟩
  · exact .inr ⟨t, rfl, hother⟩
  · exact .inl rfl
  · exact .inr ⟨t, rfl, hother⟩

theorem promoteWp_dropPartition (hQ : ∀ v', Shadowed v v' → Q () v')
    (hE : ∀ v', Shadowed v v' → E v') :
    promoteWp r faults cmd sound
      (call (.dropPartition .hgPromote (cmd.schema r) cmd.partitionID)) Q E v := by
  refine promoteWp_shadow (fun a w res w' h => ?_) hQ hE
  simp only [Op.run, World.partitionDropped, r.schemas_tableID] at h
  have hother : ∀ pid, pid ≠ cmd.partitionID → partitionOf (cmd.schema r) pid
      ((w.tables .hgPromote cmd.tableID).keep (·.partition (cmd.schema r) ≠ cmd.partitionID)).parts =
      partitionOf (cmd.schema r) pid (w.parts .hgPromote cmd.tableID) :=
    fun pid hpid => partitionOf_filter_of_ne hpid _
  rcases Answer.statement_cases h with ⟨-, rfl⟩ | ⟨-, rfl | rfl⟩
  · exact .inr ⟨_, rfl, hother⟩
  · exact .inl rfl
  · exact .inr ⟨_, rfl, hother⟩

/-- DROP PART of a shadow part of this partition. -/
theorem promoteWp_dropPart {name : String} (hn : name ∈ v.promote.map (·.name))
    (hQ : Q () { v with promote := v.promote.filter (·.name ≠ name) })
    (hE : ∀ v', Shadowed v v' → E v') :
    promoteWp r faults cmd sound
      (call (.dropPart .hgPromote (cmd.schema r).tableID name .shadow)) Q E v := by
  refine wpV_call fun w res w' hw hs => ?_
  obtain ⟨a, ha⟩ := hs
  subst hw
  rw [r.schemas_tableID] at ha
  obtain ⟨p, hp, hpn⟩ := List.mem_map.mp hn
  have hpt : p ∈ w.parts .hgPromote cmd.tableID := List.mem_of_mem_filter hp
  have hpp : p.partition (cmd.schema r) = cmd.partitionID :=
    (allIn_partitionOf (w.parts .hgPromote cmd.tableID) : AllIn (cmd.schema r) cmd.partitionID _) p hp
  -- the name is in the table, so the statement says so or fails otherwise
  have hpresent : (w.parts .hgPromote cmd.tableID).filter (·.name = name) ≠ [] :=
    List.ne_nil_of_mem (List.mem_filter.mpr ⟨hpt, by simpa using hpn⟩)
  have hother : ∀ pid, pid ≠ cmd.partitionID → partitionOf (cmd.schema r) pid
      ((w.tables .hgPromote cmd.tableID).keep (·.name ≠ name)).parts =
      partitionOf (cmd.schema r) pid (w.parts .hgPromote cmd.tableID) := by
    intro pid hpid
    rw [Table.keep_parts, partitionOf, List.filter_filter]
    refine List.filter_congr fun q hq => ?_
    by_cases hqn : q.name = name
    · have : q = p := Table.eq_of_name hq hpt (hqn.trans hpn.symm)
      simp [this, hpp, hpid.symm]
    · simp [hqn]
  have hview : (w.partDropped .hgPromote cmd.tableID name).view r cmd.key =
      { w.view r cmd.key with
        promote := (w.view r cmd.key).promote.filter (·.name ≠ name) } := by
    simp only [World.view, World.partition, World.partDropped, PromoteSafePartition.key]
    rw [World.setTable_parts_of_ne (by simp), World.setTable_parts_self, Table.keep_parts]
    simp only [PartitionView.mk.injEq, true_and]
    refine ⟨rfl, ?_⟩
    rw [partitionOf, partitionOf, List.filter_filter, List.filter_filter]
    exact List.filter_congr fun q _ => Bool.and_comm ..
  have hstep : PromotionStep r faults cmd sound w (w.partDropped .hgPromote cmd.tableID name) :=
    .shadow _ hother
  simp only [machine, Op.run, runDropPart, World.noteDrop, if_pos hpresent] at ha
  split at ha
  · cases ha
    exact ⟨hstep, by rw [hview]; exact hQ⟩
  split at ha
  · cases ha
  cases ha
  split
  · exact ⟨hstep, hE _ (by rw [hview]; exact ⟨rfl, rfl⟩)⟩
  · exact ⟨.idle w, hE _ (Shadowed.refl _)⟩

/-- REPLACE PARTITION of a shadow that holds base plus candidates. -/
theorem promoteWp_replacePartition (hseq : v.ledger.watermark < cmd.promotionSeq)
    (hpending : Pending cmd post v) (hroot : contentRoot (cmd.schema r) v.promote = accOf post)
    (hbase : sound → OnBase r cmd v)
    (hQ : ∀ v', v'.ledger = v.ledger → contentRoot (cmd.schema r) v'.safe = accOf post → Q () v')
    (hE : ∀ v', E v') :
    promoteWp r faults cmd sound (call (.replacePartition (cmd.schema r) cmd)) Q E v := by
  refine wpV_call fun w res w' hw hs => ?_
  obtain ⟨a, ha⟩ := hs
  subst hw
  simp only [machine, Op.run, Option.bind_eq_some_iff] at ha
  obtain ⟨new, hnew, w₁, hw₁, hst⟩ := ha
  rw [r.schemas_tableID] at hnew
  have hcopy : CopyOf new (w.partition r cmd.key .hgPromote) := copyOf_renamed hnew
  have hstep : PromotionStep r faults cmd sound w w₁ :=
    .publish new hseq hpending hroot hcopy hbase hw₁
  have hview : (w₁.view r cmd.key).ledger = (w.view r cmd.key).ledger ∧
      contentRoot (cmd.schema r) (w₁.view r cmd.key).safe = accOf post := by
    have hall : AllIn (cmd.schema r) cmd.partitionID new := hcopy.allIn (allIn_partitionOf _)
    refine ⟨congrArg (LocalState.ledger · cmd.key) (World.replaced_frame hw₁).1, ?_⟩
    change contentRoot (cmd.schema r) (w₁.partition r cmd.key .hgSafe) = accOf post
    rw [World.replaced_safe hw₁ hall, hcopy.contentRoot]
    exact hroot
  rcases Answer.statement_cases hst with ⟨rfl, rfl⟩ | ⟨⟨e, rfl⟩, rfl | rfl⟩
  · exact ⟨hstep, hQ _ hview.1 hview.2⟩
  · exact ⟨.idle w', hE _⟩
  · exact ⟨hstep, hE _⟩

/-- A guarded state write that persists a clone. -/
theorem promoteWp_write {sw : StateWrite} (hsw : sw.inPlace = false)
    (hg : PromotionWrite r cmd v sw)
    (hQ : ∀ s next, s.ledger cmd.key = v.ledger → sw.apply s = .ok next →
      Q () { v with ledger := (next.getD s).ledger cmd.key })
    (hE : E v) : promoteWp r faults cmd sound (call (.write sw)) Q E v := by
  refine wpV_call fun w res w' hw hs => ?_
  obtain ⟨a, ha⟩ := hs
  subst hw
  simp only [machine, Op.run, runWrite] at ha
  split at ha
  · next hf =>
    cases ha
    refine ⟨.journal hg hf rfl, ?_⟩
    generalize hwr : w.store.write sw a.fault (a.err.getD (errorf "write")) = out
    obtain ⟨res, store⟩ := out
    cases res with
    | ok _ =>
      obtain ⟨next, hap, hmem⟩ := Store.write_ok hwr
      have h := hQ w.store.mem next rfl hap
      rw [← hmem] at h
      exact h
    | error e =>
      have hmem : store.mem = w.store.mem := by
        rcases Store.write_cases hwr with rfl | ⟨next, -, ⟨h, -⟩ | ⟨-, hm, -⟩⟩
        · rfl
        · cases h
        · rcases hm with hm | ⟨hin, -⟩
          · exact hm
          · rw [hsw] at hin; cases hin
      have hv : (w.written sw a.fault store).view r cmd.key = w.view r cmd.key := by
        change (⟨store.mem.ledger cmd.key, _, _⟩ : PartitionView) = _
        rw [hmem]
        rfl
      change E _
      rw [hv]
      exact hE
  · cases ha

theorem promoteWp_sendAck {ack : PromotionAck} (hack : v.ledger.lastAck = some ack)
    (hseq : ack.promotionSeq = cmd.promotionSeq) (hQ : Q () v) (hE : E v) :
    promoteWp r faults cmd sound (sendAck ack) Q E v := by
  refine wpV_call fun w res w' hw hs => ?_
  obtain ⟨a, ha⟩ := hs
  subst hw
  have hstep : PromotionStep r faults cmd sound w { w with acks := w.acks ++ [ack] } := .send hack hseq
  rcases Answer.statement_cases ha with ⟨rfl, rfl⟩ | ⟨⟨e, rfl⟩, rfl | rfl⟩
  · exact ⟨hstep, hQ⟩
  · exact ⟨.idle w', hE⟩
  · exact ⟨hstep, hE⟩

theorem promoteWp_exec {op : Op (Except GoError Unit)} {query : String}
    (h : promoteWp r faults cmd sound (call op) Q E v) :
    promoteWp r faults cmd sound (exec op query) Q E v :=
  wpV_mapError h

end Statements

/-! ## The shadow helpers -/

theorem dropPartitionIfPresent_wp :
    promoteWp r faults cmd sound (dropPartitionIfPresent .hgPromote (cmd.schema r) cmd.partitionID)
      (fun _ => Shadowed v) (Shadowed v) v := by
  refine wpV_bind (promoteWp_activeParts (fun w _ => ?_) (.refl v))
  split
  · exact wpV_pure (.refl v)
  · refine wpV_bind (wpV_fromExcept (fun partition _ => ?_) (.refl v))
    exact promoteWp_exec (promoteWp_dropPartition (fun _ h => h) (fun _ h => h))

theorem prepareShadow_wp {partition : String} :
    promoteWp r faults cmd sound (prepareShadow cmd (cmd.schema r) partition)
      (fun _ => Shadowed v) (Shadowed v) v := by
  refine wpV_bind (wpV_mapError (promoteWp_query (fun _ _ => rfl) (fun a _ _ => ?_) (.refl v)))
  split
  · exact wpV_throw (.refl v)
  refine dropPartitionIfPresent_wp.bind (fun _ v₁ h₁ => ?_) (fun _ h => h)
  split
  · exact wpV_pure h₁
  · exact promoteWp_exec (promoteWp_attachPartition (fun _ h => h₁.trans h) (fun _ h => h₁.trans h))

theorem candidatesCoverUnsafePartition_wp :
    promoteWp r faults cmd sound (candidatesCoverUnsafePartition cmd (cmd.schema r))
      (fun _ => Shadowed v) (Shadowed v) v := by
  refine wpV_bind (promoteWp_activeParts (fun w _ => ?_) (.refl v))
  split
  · exact wpV_throw (.refl v)
  · exact wpV_pure (.refl v)

theorem shadowPartitionParts_wp :
    promoteWp r faults cmd sound (shadowPartitionParts (cmd.schema r) cmd.partitionID)
      (fun _ v' => v' = v) (fun v' => v' = v) v :=
  wpV_bind (promoteWp_activeParts (fun _ _ => wpV_pure rfl) rfl)

/-- Distinct names of shadow parts of this partition. -/
def ShadowNames (v : PartitionView) (names : List String) : Prop :=
  names.Nodup ∧ ∀ n ∈ names, n ∈ v.promote.map (·.name)

omit [HouseGate] in
theorem assignHashes_names {scan : List String} {hashes : GoMap String String}
    {parts : List ShadowPart} {res : List ShadowPart × GoMap String String}
    (h : assignHashes scan hashes parts = .ok res) :
    res.1.map (·.name) = parts.map (·.name) := by
  induction parts generalizing hashes res with
  | nil =>
    cases h
    rfl
  | cons p ps ih =>
    simp only [assignHashes] at h
    split at h
    · simp only [Except.bind_eq_ok, Except.pure_eq_ok] at h
      obtain ⟨rest, ha, rfl⟩ := h
      rw [List.map_cons, List.map_cons, ih ha]
    · split at h
      · cases h
      · simp only [Except.bind_eq_ok, Except.pure_eq_ok] at h
        obtain ⟨rest, ha, rfl⟩ := h
        rw [List.map_cons, List.map_cons, ih ha]

theorem unsafeOriginShadowParts_wp {base : List String} :
    promoteWp r faults cmd sound (unsafeOriginShadowParts (cmd.schema r) cmd.partitionID base)
      (fun out v' => v' = v ∧ ShadowNames v (out.map (·.name))) (fun v' => v' = v) v := by
  refine wpV_bind (promoteWp_activeParts (fun w hw => ?_) rfl)
  have hperm : ((partsInLogicalPartition (listing (w.parts .hgPromote cmd.tableID)) (cmd.schema r)
      cmd.partitionID).map (·.name)).Perm (v.promote.map (·.name)) := by
    rw [← hw]
    exact partition_names_perm ..
  have hnodup : (v.promote.map (·.name)).Nodup := by
    rw [← hw]
    exact (w.tables .hgPromote cmd.tableID).nodup.sublist (List.filter_sublist.map _)
  have hnames : ShadowNames v (((partsInLogicalPartition (listing (w.parts .hgPromote cmd.tableID))
      (cmd.schema r) cmd.partitionID).filter (·.name ∉ base)).map (·.name)) := by
    have hsub := (List.filter_sublist (l := partsInLogicalPartition
      (listing (w.parts .hgPromote cmd.tableID)) (cmd.schema r) cmd.partitionID)
      (p := (·.name ∉ base))).map (·.name)
    exact ⟨(hperm.nodup_iff.mpr hnodup).sublist hsub, fun n hn => hperm.mem_iff.mp (hsub.subset hn)⟩
  dsimp only
  split
  · exact wpV_throw rfl
  split
  · refine wpV_pure ⟨rfl, ?_⟩
    rw [List.map_map]
    exact hnames
  refine wpV_bind (wpV_mapError (promoteWp_scanParts (fun _ _ => ?_) rfl))
  refine wpV_bind (wpV_fromExcept (fun hashes _ => ?_) rfl)
  refine wpV_bind (wpV_fromExcept (fun res hres => ?_) rfl)
  split
  · exact wpV_throw rfl
  · refine wpV_pure ⟨rfl, ?_⟩
    rw [assignHashes_names hres, List.map_map]
    exact hnames

/-- The parts to drop are shadow parts. -/
theorem matchShadowCandidates_drop {shadow : List ShadowPart} {res : List String × List String}
    (h : matchShadowCandidates cmd shadow = .ok res)
    (hs : ShadowNames v (shadow.map (·.name))) : ShadowNames v res.2 := by
  have hperm := (inNameOrder_perm shadow).map (·.name)
  obtain ⟨-, -, -, -, hdrop⟩ := matchShadowCandidates_eq_ok.mp h
  have hsub := (Bag.leaveBy_sublist ShadowPart.key (inNameOrder shadow)
    (candidateKeys cmd.candidateParts)).map (·.name)
  rw [hdrop]
  exact ⟨(hperm.nodup_iff.mpr hs.1).sublist hsub,
    fun n hn => hs.2 n (hperm.mem_iff.mp (hsub.subset hn))⟩

theorem dropShadowParts_wp {names : List String} (h : ShadowNames v names) :
    promoteWp r faults cmd sound (dropShadowParts (cmd.schema r) names)
      (fun _ => Shadowed v) (Shadowed v) v := by
  induction names generalizing v with
  | nil => exact wpV_pure (.refl v)
  | cons n ns ih =>
    have hnd := List.nodup_cons.mp h.1
    refine wpV_bind (promoteWp_exec (promoteWp_dropPart (h.2 n (List.mem_cons_self ..)) ?_
      (fun _ h => h)))
    refine (ih ⟨hnd.2, fun m hm => ?_⟩).mono (fun _ _ h => h) (fun _ h => h)
    -- the other names are still there
    obtain ⟨p, hp, hpm⟩ := List.mem_map.mp (h.2 m (List.mem_cons_of_mem _ hm))
    refine List.mem_map.mpr ⟨p, List.mem_filter.mpr ⟨hp, ?_⟩, hpm⟩
    have : m ≠ n := fun heq => hnd.1 (heq ▸ hm)
    simpa [hpm] using this

theorem attachCandidateSubset_wp {partition : String} :
    promoteWp r faults cmd sound (attachCandidateSubset cmd (cmd.schema r) partition)
      (fun _ => Shadowed v) (Shadowed v) v := by
  have hcleanup : ∀ v', Shadowed v v' → promoteWp r faults cmd sound
      (dropPartitionIfPresent .hgPromote (cmd.schema r) cmd.partitionID) (fun _ => Shadowed v)
      (Shadowed v) v' := fun v' hv' =>
    dropPartitionIfPresent_wp.mono (fun _ _ h => hv'.trans h) (fun _ h => hv'.trans h)
  refine wpV_onError ?_ hcleanup
  refine shadowPartitionParts_wp.bind (fun base v₁ h₁ => ?_) (fun _ h => h ▸ .refl v)
  subst h₁
  refine wpV_bind (promoteWp_exec (promoteWp_attachPartition (fun v₂ h₂ => ?_) (fun _ h => h)))
  refine (wpV_mapError unsafeOriginShadowParts_wp).bind (fun attached v₃ h₃ => ?_)
    (fun _ h => h ▸ h₂)
  obtain ⟨rfl, hnames⟩ := h₃
  refine wpV_bind (wpV_mapError (wpV_fromExcept (fun res hres => ?_) h₂))
  have hdrop := matchShadowCandidates_drop hres hnames
  refine (dropShadowParts_wp hdrop).bind (fun _ v₄ h₄ => ?_) (fun _ h => h₂.trans h)
  refine shadowPartitionParts_wp.bind (fun final v₅ h₅ => ?_)
    (fun _ h => h ▸ h₂.trans h₄)
  subst h₅
  dsimp only
  split
  · exact wpV_throw (h₂.trans h₄)
  · exact wpV_pure (h₂.trans h₄)

theorem attachCandidateParts_wp {partition : String} :
    promoteWp r faults cmd sound (attachCandidateParts cmd (cmd.schema r) partition)
      (fun _ => Shadowed v) (Shadowed v) v := by
  refine candidatesCoverUnsafePartition_wp.bind (fun ok v₁ h₁ => ?_) (fun _ h => h)
  split
  · exact promoteWp_exec (promoteWp_attachPartition (fun _ h => h₁.trans h) (fun _ h => h₁.trans h))
  · exact attachCandidateSubset_wp.mono (fun _ _ h => h₁.trans h) (fun _ h => h₁.trans h)

/-! ## The handlers -/

/-- A partition scan of hg_safe or hg_promote returns the content root. -/
theorem partitionContentScan_wp (parts : PartitionView → List StoredPart)
    (hparts : ∀ w : World, parts (w.view r cmd.key) = w.partition r cmd.key db) :
    promoteWp r faults cmd sound (partitionContentScan db (cmd.schema r) cmd.partitionID)
      (fun res v' => v' = v ∧ res.1 = accumulatorHex (contentRoot (cmd.schema r) (parts v)))
      (fun v' => v' = v) v := by
  refine wpV_bind (promoteWp_activeParts (fun w₁ hw₁ => ?_) rfl)
  have hperm : ((partsInLogicalPartition (listing (w₁.parts db cmd.tableID)) (cmd.schema r)
      cmd.partitionID).map (·.name)).Perm ((parts v).map (·.name)) := by
    rw [← hw₁, hparts]
    exact partition_names_perm ..
  dsimp only
  split
  · next hnil =>
    refine wpV_pure ⟨rfl, ?_⟩
    rw [hnil] at hperm
    have : parts v = [] := by simpa using hperm.symm.eq_nil
    rw [this]
    rfl
  · refine wpV_bind (promoteWp_scanParts (fun w₂ hw₂ => ?_) rfl)
    refine wpV_bind (wpV_fromExcept (fun root hroot => wpV_pure ⟨rfl, ?_⟩) rfl)
    have hsame : w₁.partition r cmd.key db = w₂.partition r cmd.key db := by
      rw [← hparts, ← hparts, hw₁, hw₂]
    rw [← hw₁, hparts] at hperm
    have hscan := scan_contentRoot (t := w₂.tables db cmd.tableID) hsame hperm
    rw [lthashCombineHexAll_ok hroot, accOf_empty, zero_add, ← hw₂, hparts]
    exact congrArg accumulatorHex hscan

theorem safeMappings_wp :
    promoteWp r faults cmd sound (safeMappings (cmd.schema r) cmd post)
      (fun _ v' => v' = v) (fun v' => v' = v) v := by
  refine wpV_bind (promoteWp_activeParts (fun _ _ => ?_) rfl)
  refine wpV_bind (promoteWp_scanParts (fun _ _ => ?_) rfl)
  exact wpV_fromExcept (fun _ _ => rfl) rfl

/-- The gate passes only a shadow that holds exactly base plus candidates. -/
theorem closureGate_wp {before : List Part} :
    promoteWp r faults cmd sound (closureGate (cmd.schema r) cmd before post)
      (fun _ v' => v' = v ∧ contentRoot (cmd.schema r) v.promote = accOf post)
      (fun _ => True) v := by
  refine (partitionContentScan_wp (·.promote) fun _ => rfl).bind (fun res v' h => ?_)
    (fun _ _ => trivial)
  obtain ⟨rfl, hroot⟩ := h
  have hdrop : ∀ e : GoError, promoteWp r faults cmd sound
      (do ignoreError (dropPartitionIfPresent .hgPromote (cmd.schema r) cmd.partitionID); throw e)
      (fun (_ : Unit) v'' => v'' = v' ∧ contentRoot (cmd.schema r) v'.promote = accOf post)
      (fun _ => True) v' := fun e =>
    wpV_bind (wpV_ignoreError (dropPartitionIfPresent_wp.mono
      (fun _ _ _ => wpV_throw trivial) (fun _ _ => wpV_throw trivial)))
  dsimp only
  split
  · exact hdrop _
  next hne =>
  split
  · exact hdrop _
  · refine wpV_pure ⟨rfl, ?_⟩
    rw [← not_not.mp hne, hroot, accOf_accumulatorHex]

omit [HouseGate] in
theorem promotionIntentFor_matches (cmd : PromoteSafePartition) (post : String)
    (before : List Part) :
    promotionIntentMatchesCommand (promotionIntentFor cmd post before) cmd post = true := by
  simp [promotionIntentMatchesCommand, promotionIntentFor]

omit [HouseGate] in
theorem promotionIntentMatchesCommand_base {intent : PromotionIntent}
    (h : promotionIntentMatchesCommand intent cmd post = true) :
    intent.basePartitionRoot = cmd.basePartitionRoot := by
  simp only [promotionIntentMatchesCommand, Bool.and_eq_true, beq_iff_eq] at h
  exact h.1.1.1.1.2

omit [HouseGate] in
theorem promotionIntentMatchesCommand_seq {intent : PromotionIntent}
    (h : promotionIntentMatchesCommand intent cmd post = true) :
    intent.promotionSeq = cmd.promotionSeq := by
  simp only [promotionIntentMatchesCommand, Bool.and_eq_true, beq_iff_eq] at h
  exact h.1.1.1.1.1

theorem buildAndReplace_wp (hseq : v.ledger.watermark < cmd.promotionSeq)
    (hbase : cmd.basePartitionRoot = v.ledger.baseRoot) (hun : Unpublished r cmd v)
    (hon : sound → OnBase r cmd v) :
    promoteWp r faults cmd sound (buildAndReplace cmd)
      (fun res v' => v'.ledger.watermark = v.ledger.watermark ∧ Pending cmd res.1 v' ∧
        contentRoot (cmd.schema r) v'.safe = accOf res.1)
      (fun _ => True) v := by
  refine wpV_bind (promoteWp_schemaFor ?_ trivial)
  refine wpV_bind (wpV_fromExcept (fun partition _ => ?_) trivial)
  refine wpV_bind (wpV_fromExcept (fun _ _ => ?_) trivial)
  refine wpV_bind (promoteWp_query (fun _ _ => rfl) (fun _ _ _ => ?_) trivial)
  refine prepareShadow_wp.bind (fun _ v₁ h₁ => ?_) (fun _ _ => trivial)
  refine wpV_bind (promoteWp_activeParts (fun w _ => ?_) trivial)
  refine attachCandidateParts_wp.bind (fun _ v₂ h₂ => ?_) (fun _ _ => trivial)
  refine wpV_bind (wpV_fromExcept (fun post hpost => ?_) trivial)
  refine closureGate_wp.bind (fun _ v₃ h₃ => ?_) (fun _ _ => trivial)
  obtain ⟨rfl, hroot⟩ := h₃
  -- the ledger and hg_safe are as they were before the shadow was built
  obtain ⟨hledger, hsafe⟩ := h₁.trans h₂
  have hguard : PromotionWrite r cmd v₃ (.beginPromotion cmd.key (promotionIntentFor cmd post
      (partsInLogicalPartition (listing (w.parts .hgSafe cmd.tableID)) (cmd.schema r)
        cmd.partitionID))) := by
    refine .begin _ (by rw [hledger]; exact hseq) (by rw [hledger]; exact hbase) hpost
      fun i hi => ?_
    rw [hledger] at hi
    rw [hsafe]
    exact hun i hi
  refine wpV_bind (wpV_mapError (promoteWp_write rfl hguard (fun s next hs hnext => ?_) trivial))
  have hpend : (next.getD s).pendingPromotion cmd.key = some (promotionIntentFor cmd post
      (partsInLogicalPartition (listing (w.parts .hgSafe cmd.tableID)) (cmd.schema r)
        cmd.partitionID)) := by
    rcases LocalState.beginPromotion_ok hnext with ⟨rfl, h⟩ | rfl
    · exact h
    · exact GoMap.lookup_insert_self ..
  have hw : (next.getD s).watermark cmd.key = v.ledger.watermark := by
    rw [← hledger, ← hs]
    rcases LocalState.beginPromotion_ok hnext with ⟨rfl, -⟩ | rfl <;> rfl
  have hb : (next.getD s).baseRoot cmd.key = v.ledger.baseRoot := by
    rw [← hledger, ← hs]
    rcases LocalState.beginPromotion_ok hnext with ⟨rfl, -⟩ | rfl <;> rfl
  have hon' : sound → OnBase r cmd { v₃ with ledger := (next.getD s).ledger cmd.key } := by
    intro h
    change contentRoot (cmd.schema r) v₃.safe = accOf ((next.getD s).baseRoot cmd.key)
    rw [hb, hsafe]
    exact hon h
  have hpending : ∀ {v' : PartitionView}, v'.ledger = (next.getD s).ledger cmd.key →
      Pending cmd post v' := fun hv' =>
    ⟨hpost, _, by rw [hv']; exact hpend, promotionIntentFor_matches ..⟩
  refine wpV_bind (promoteWp_exec (promoteWp_replacePartition ?_ (hpending rfl) hroot
    hon' (fun v₄ hl₄ hr₄ => ?_) (fun _ => trivial)))
  · exact lt_of_eq_of_lt hw hseq
  refine dropPartitionIfPresent_wp.bind (fun _ v₅ h₅ => ?_) (fun _ _ => trivial)
  refine safeMappings_wp.bind (fun mappings v₆ h₆ => ?_) (fun _ _ => trivial)
  subst h₆
  have hl : v₆.ledger = (next.getD s).ledger cmd.key := h₅.1.trans hl₄
  exact wpV_pure ⟨by rw [hl]; exact hw, hpending hl, by rw [h₅.2]; exact hr₄⟩

theorem reconcilePromotionIntent_wp {intent : PromotionIntent}
    (hpend : v.ledger.pending = some intent) :
    promoteWp r faults cmd sound (reconcilePromotionIntent cmd intent)
      (fun res v' => v'.ledger = v.ledger ∧
        match res with
        | some (post, _) => Pending cmd post v' ∧ contentRoot (cmd.schema r) v'.safe = accOf post
        | none => Unpublished r cmd v')
      (fun _ => True) v := by
  refine wpV_bind (wpV_fromExcept (fun post hpost => ?_) trivial)
  split
  · exact wpV_throw trivial
  next hmatch =>
  rw [not_not] at hmatch
  refine wpV_bind (promoteWp_schemaFor ?_ trivial)
  refine wpV_bind (wpV_fromExcept (fun _ _ => ?_) trivial)
  refine wpV_bind ((partitionContentScan_wp (·.safe) fun _ => rfl).bind (fun scan v₁ h₁ => wpV_pure ?_)
    (fun _ _ => trivial))
  obtain ⟨rfl, hroot⟩ := h₁
  refine wpV_bind (wpV_fromExcept (fun baseRoot hbase => ?_) trivial)
  split
  · next heq =>
    refine wpV_pure ⟨rfl, fun i hi => ⟨post, hpost, ?_, ?_⟩⟩
    · rw [hpend] at hi
      cases hi
      exact hmatch
    · rw [hroot, lthashCombineHexAll_ok hbase, sumOf_nil, add_zero] at heq
      exact accumulatorHex_injective heq
  · split
    · exact wpV_throw trivial
    · next hne =>
      refine dropPartitionIfPresent_wp.bind (fun _ v₂ h₂ => ?_) (fun _ _ => trivial)
      refine safeMappings_wp.bind (fun mappings v₃ h₃ => ?_) (fun _ _ => trivial)
      subst h₃
      refine wpV_pure ⟨h₂.1, ⟨hpost, intent, by rw [h₂.1]; exact hpend, hmatch⟩, ?_⟩
      rw [h₂.2, ← not_not.mp hne, hroot, accOf_accumulatorHex]

/-! ## The whole promotion -/

/-- From the view `v` the handler takes only steps of the command. -/
abbrev promoteSafe (r : Role) (faults : Faults) (cmd : PromoteSafePartition) (sound : Prop)
    (p : Handler Unit) (v : PartitionView) : Prop :=
  promoteWp r faults cmd sound p (fun _ _ => True) (fun _ => True) v

theorem finishAppliedPromotion_wp {mappings : SafePartMappings}
    (hseq : v.ledger.watermark < cmd.promotionSeq) (hpending : Pending cmd post v)
    (hroot : contentRoot (cmd.schema r) v.safe = accOf post) :
    promoteSafe r faults cmd sound (finishAppliedPromotion r cmd post mappings) v := by
  refine wpV_bind (wpV_mapError (promoteWp_write rfl (.applied mappings hseq hpending hroot)
    (fun s next _ hnext => ?_) trivial))
  obtain ⟨_, rfl, -⟩ := LocalState.recordAppliedPromotion_ok hnext
  refine promoteWp_sendAck ?_ rfl trivial trivial
  rw [Option.getD_some, LocalState.appliedPromotion_ledger, if_pos rfl]

theorem resendStoredAck_wp {ack : PromotionAck} (hack : v.ledger.lastAck = some ack)
    (hseq : ack.promotionSeq = cmd.promotionSeq) (hw : cmd.promotionSeq ≤ v.ledger.watermark) :
    promoteSafe r faults cmd sound (resendStoredAck cmd ack) v := by
  unfold resendStoredAck
  split
  · next hlegacy =>
    refine wpV_bind (wpV_mapError (wpV_fromExcept (fun _ _ => ?_) trivial))
    refine wpV_bind (promoteWp_schemaFor ?_ trivial)
    refine (wpV_mapError safeMappings_wp).bind (fun mappings v' h => ?_)
      (fun _ _ => trivial)
    subst h
    refine wpV_bind (wpV_mapError (promoteWp_write rfl
      (.refreshed mappings hack hseq hw hlegacy.1 hlegacy.2) (fun s next _ hnext => ?_) trivial))
    obtain ⟨next, _, rfl, -, -, hledger⟩ := LocalState.recordRefreshedAck_ok hnext
    refine promoteWp_sendAck ?_ hseq trivial trivial
    rw [Option.getD_some, hledger, if_pos rfl]
  · exact promoteWp_sendAck hack hseq trivial trivial

theorem dropSettledShadow_wp :
    promoteWp r faults cmd sound (dropSettledShadow cmd) (fun _ => Shadowed v) (Shadowed v) v := by
  refine wpV_bind (promoteWp_schemaFor ?_ (Shadowed.refl v))
  refine wpV_bind (wpV_fromExcept (fun _ _ => ?_) (Shadowed.refl v))
  exact dropPartitionIfPresent_wp

theorem settleNotApplied_wp (hseq : v.ledger.watermark < cmd.promotionSeq)
    (hpending : Unpublished r cmd v) : promoteSafe r faults cmd sound (settleNotApplied r cmd) v := by
  refine wpV_bind (promoteWp_state fun s hs => ?_)
  have hbase : s.baseRoot cmd.key = _ := congrArg Ledger.baseRoot hs
  have hsnap : s.baseSnapshotID cmd.key = _ := congrArg Ledger.baseSnapshotID hs
  rw [hbase, hsnap]
  refine wpV_bind (wpV_mapError (promoteWp_write rfl (.settled _ hseq hpending)
    (fun s next _ hnext => ?_) trivial))
  obtain ⟨next, rfl, hledger⟩ := LocalState.recordSettledNotApplied_ok hnext
  refine wpV_bind (wpV_ignoreError (dropSettledShadow_wp.mono (fun _ v' h => ?_) fun v' h => ?_))
  all_goals
    refine wpV_mapError (promoteWp_sendAck ?_ rfl trivial trivial)
    rw [h.1, Option.getD_some, hledger, if_pos rfl]

theorem applyPromotion_wp (hseq : v.ledger.watermark < cmd.promotionSeq)
    (hpending : Unpublished r cmd v) (hon : sound → OnBase r cmd v) :
    promoteSafe r faults cmd sound (applyPromotion r cmd) v := by
  refine wpV_bind (promoteWp_state fun s hs => ?_)
  have hbase : s.baseRoot cmd.key = _ := congrArg Ledger.baseRoot hs
  have hsnap : s.baseSnapshotID cmd.key = _ := congrArg Ledger.baseSnapshotID hs
  rw [hbase, hsnap]
  dsimp only
  split
  · next hne =>
    refine wpV_bind (promoteWp_write rfl (.refused _ hseq hne hpending)
      (fun s next _ hnext => ?_) trivial)
    obtain rfl := LocalState.recordAck_ok hnext
    refine promoteWp_sendAck ?_ rfl trivial trivial
    rw [Option.getD_some, LocalState.recordAck_ledger hnext, if_pos rfl]
  · next heq =>
    refine (wpV_mapError (buildAndReplace_wp hseq (not_not.mp heq) hpending hon)).bind
      (fun res v' h => ?_) (fun _ _ => trivial)
    obtain ⟨hw, hpend, hroot⟩ := h
    exact finishAppliedPromotion_wp (hw ▸ hseq) hpend hroot

/-- What promote and settle do once the watermark is below the command. -/
theorem reconciled_wp {context : String} {notApplied : Handler Unit}
    {onApplied : String → SafePartMappings → Handler Unit} (hs : sound → Consistent r cmd.key v)
    (hnone : ∀ v', v'.ledger = v.ledger → Unpublished r cmd v' → (sound → OnBase r cmd v') →
      promoteSafe r faults cmd sound notApplied v')
    (hsome : ∀ post mappings v', v'.ledger = v.ledger → Pending cmd post v' →
      contentRoot (cmd.schema r) v'.safe = accOf post →
      promoteSafe r faults cmd sound (onApplied post mappings) v') :
    promoteSafe r faults cmd sound
      (do
        let s ← ask .state
        match s.pendingPromotion cmd.key with
        | some intent =>
          match ← within context (reconcilePromotionIntent cmd intent) with
          | some (post, mappings) => onApplied post mappings
          | none => notApplied
        | none => notApplied) v := by
  refine wpV_bind (promoteWp_state fun s hstate => ?_)
  have hp : s.pendingPromotion cmd.key = v.ledger.pending := congrArg Ledger.pending hstate
  rw [hp]
  cases hpend : v.ledger.pending with
  | none =>
    refine hnone v rfl (fun i hi => ?_) fun h => (hs h).settled hpend
    rw [hpend] at hi
    cases hi
  | some intent =>
    refine (wpV_mapError (reconcilePromotionIntent_wp hpend)).bind (fun res v' h => ?_)
      (fun _ _ => trivial)
    obtain ⟨hledger, h⟩ := h
    cases res with
    | none =>
      refine hnone v' hledger h fun hsound => ?_
      obtain ⟨post, -, hmatch, hroot⟩ := h intent (hledger ▸ hpend)
      rw [OnBase, hroot, hledger, ← (hs hsound).intent intent hpend]
      exact congrArg accOf (promotionIntentMatchesCommand_base hmatch).symm
    | some res => exact hsome res.1 res.2 v' hledger h.1 h.2

/-- Promote and settle send the acknowledgement again once the watermark has reached the
    command. -/
theorem resend_wp {resend : PromotionAck → Handler Unit} {below : Handler Unit}
    (hreached : cmd.promotionSeq ≤ v.ledger.watermark → ∀ ack, v.ledger.lastAck = some ack →
      ack.promotionSeq = cmd.promotionSeq → promoteSafe r faults cmd sound (resend ack) v)
    (hbelow : v.ledger.watermark < cmd.promotionSeq → promoteSafe r faults cmd sound below v) :
    promoteSafe r faults cmd sound
      (do
        let s ← ask .state
        if cmd.promotionSeq ≤ s.watermark cmd.key then do
          let s ← ask .state
          match s.lastAck cmd.key with
          | some ack => if ack.promotionSeq = cmd.promotionSeq then resend ack else pure ()
          | none => pure ()
        else below) v := by
  refine wpV_bind (promoteWp_state fun s hstate => ?_)
  have hwm : s.watermark cmd.key = v.ledger.watermark := congrArg Ledger.watermark hstate
  rw [hwm]
  split
  · next hw =>
    refine wpV_bind (promoteWp_state fun s hs => ?_)
    have hlast : s.lastAck cmd.key = v.ledger.lastAck := congrArg Ledger.lastAck hs
    rw [hlast]
    cases hack : v.ledger.lastAck with
    | none => exact wpV_pure trivial
    | some ack =>
      dsimp only
      split
      · next hseq => exact hreached hw ack hack hseq
      · exact wpV_pure trivial
  · next hw => exact hbelow (not_le.mp hw)

theorem answerSettle_wp (hs : sound → Consistent r cmd.key v) :
    promoteSafe r faults cmd sound (answerSettle r cmd) v := by
  refine resend_wp (fun hw ack hack hseq => ?_) fun hseq => ?_
  · exact wpV_mapError (resendStoredAck_wp hack hseq hw)
  refine reconciled_wp hs (fun v' hl hun hon => ?_) fun post mappings v' hl hpend hroot => ?_
  · exact settleNotApplied_wp (by rw [hl]; exact hseq) hun
  · exact wpV_mapError (finishAppliedPromotion_wp (by rw [hl]; exact hseq) hpend hroot)

theorem promoteLocked_wp (hs : sound → Consistent r cmd.key v) :
    promoteSafe r faults cmd sound (promoteLocked r cmd) v := by
  refine resend_wp (fun hw ack hack hseq => ?_) fun hseq => ?_
  · exact resendStoredAck_wp hack hseq hw
  refine reconciled_wp hs (fun v' hl hun hon => ?_) fun post mappings v' hl hpend hroot => ?_
  · exact applyPromotion_wp (by rw [hl]; exact hseq) hun hon
  · exact finishAppliedPromotion_wp (by rw [hl]; exact hseq) hpend hroot

/-- A promotion or settle delivery takes only the steps of its command, whatever
    the other threads do outside its partition. -/
theorem handlePromote_wp {settle : Bool} (hs : sound → Consistent r cmd.key v) :
    promoteSafe r faults cmd sound (handlePromote r cmd settle) v := by
  refine wpV_bind (wpV_mapError (promoteWp_query (fun _ _ => rfl) (fun _ _ _ => ?_) trivial))
  refine wpV_bind (wpV_ask fun w b w' hw hsem => ?_)
  subst hw
  obtain ⟨a, ha⟩ := hsem
  obtain ⟨rfl, -⟩ := Answer.query_cases ha
  refine ⟨.idle w', ?_⟩
  cases b with
  | error e => exact wpV_pure trivial
  | ok _ =>
    dsimp only
    split
    · exact answerSettle_wp hs
    · exact promoteLocked_wp hs

/-! ## Other partitions -/

variable {w w' : World} {k : PartitionKey}

theorem PromotionWrite.ledgerKey {v : PartitionView} {sw : StateWrite}
    (h : PromotionWrite r cmd v sw) : sw.ledgerKey = some cmd.key := by
  cases h <;> rfl

/-- A promotion's state write changes no other ledger. -/
theorem PromotionWrite.ledger_of_ne {v : PartitionView} {sw : StateWrite} {s next : LocalState}
    (h : PromotionWrite r cmd v sw) (hap : sw.apply s = .ok (some next)) (hk : k ≠ cmd.key) :
    next.ledger k = s.ledger k := by
  refine StateWrite.apply_ledger_of_ne hap ?_ ?_
  · rw [h.ledgerKey]
    exact fun heq => hk (Option.some.inj heq).symm
  · rintro t rfl
    cases h

/-- A step of a promotion leaves the view of every other partition alone. -/
theorem PromotionStep.view_of_ne (h : PromotionStep r faults cmd sound w w') (hk : k ≠ cmd.key) :
    w'.view r k = w.view r k := by
  cases h with
  | idle => rfl
  | shadow t ht =>
    have hprom : (w.setTable .hgPromote cmd.tableID t).partition r k .hgPromote =
        w.partition r k .hgPromote := by
      change partitionOf _ k.partition ((w.setTable .hgPromote cmd.tableID t).parts .hgPromote k.table)
        = partitionOf _ k.partition (w.parts .hgPromote k.table)
      by_cases htable : k.table = cmd.tableID
      · rw [htable, World.setTable_parts_self]
        have hpid : k.partition ≠ cmd.key.partition := PartitionKey.ne_of_table hk htable
        exact ht _ hpid
      · rw [World.setTable_parts_of_ne (by simp [htable])]
    have hsafe : (w.setTable .hgPromote cmd.tableID t).partition r k .hgSafe =
        w.partition r k .hgSafe := by
      rw [World.partition, World.setTable_parts_of_ne (by simp)]
      rfl
    rw [World.view, hprom, hsafe]
    rfl
  | journal hg hf hs =>
    rename_i store
    have hl : store.mem.ledger k = w.store.mem.ledger k := by
      rcases Store.write_cases hs with rfl | ⟨next, hap, ⟨-, rfl⟩ | ⟨-, hm | ⟨-, hm⟩, -⟩⟩
      · rfl
      · exact hg.ledger_of_ne hap hk
      · rw [hm]
      · rw [hm]
        exact hg.ledger_of_ne hap hk
    change (⟨store.mem.ledger k, _, _⟩ : PartitionView) = _
    rw [hl]
    rfl
  | publish new hseq hpending hroot hcopy hbase hnew =>
    have hall : AllIn (cmd.schema r) cmd.partitionID new := hcopy.allIn (allIn_partitionOf _)
    rw [World.view, (World.replaced_frame hnew).1, World.replaced_partition_of_ne hnew hall (.inl hk),
      World.replaced_partition_of_ne hnew hall (.inl hk)]
    rfl
  | send => rfl

end ArbiterCore
