-- SUMMARY: What each state mutator does to the ledger and the accounting, and how writes reach the disk.
import ArbiterCore.SNode.State

/-!
# The state store

The promotion `Ledger` of a partition is its watermark, last acknowledgement, base
and pending intent. For every mutator one lemma says what it does to the ledgers.
`StateWrite` names the calls of mutators, and `Store` is the state in memory and on
disk.
-/

namespace ArbiterCore

/-- The promotion ledger of one partition. -/
structure Ledger where
  watermark : Nat
  lastAck : Option PromotionAck
  baseRoot : String
  baseSnapshotID : String
  pending : Option PromotionIntent

namespace LocalState

def ledger (s : LocalState) (k : PartitionKey) : Ledger :=
  ⟨s.watermark k, s.lastAck k, s.baseRoot k, s.baseSnapshotID k, s.pendingPromotion k⟩

variable {s next : LocalState} {k k' : PartitionKey} {seq : Nat} {ack : PromotionAck}
  {base snap : String} {r : Option LocalState}

/-! ## Parts of mutators -/

@[simp] theorem recordAckedSafeInventory_ledger :
    (s.recordAckedSafeInventory k ack).ledger k' = s.ledger k' := by
  unfold recordAckedSafeInventory
  split
  · rfl
  · split <;> rfl

@[simp] theorem keepAckedSafeInventory_ledger :
    (s.keepAckedSafeInventory k).ledger k' = s.ledger k' := by
  unfold keepAckedSafeInventory
  split <;> rfl

variable {names : List String}

@[simp] theorem excludePromoted_ledger : (s.excludePromoted k names).ledger k' = s.ledger k' := by
  unfold excludePromoted
  split <;> rfl

theorem advance_ledger :
    (s.advance k seq ack base snap).ledger k' =
      if k' = k then ⟨seq, some ack, base, snap, s.pendingPromotion k⟩ else s.ledger k' := by
  simp only [ledger, advance, watermark, lastAck, baseRoot, baseSnapshotID, pendingPromotion,
    GoMap.getD_insert, GoMap.lookup_insert]
  split
  · next h => rw [h]
  · rfl

/-! ## Promotion mutators -/

theorem promotionIntentsEqual_iff {a b : PromotionIntent} :
    promotionIntentsEqual a b = true ↔ a = b := by
  cases a; cases b
  simp [promotionIntentsEqual, promotionIntentCommandEqual, and_assoc]

/-- After a successful `BeginPromotion` the intent is the pending one. -/
theorem beginPromotion_ok {intent : PromotionIntent} (h : s.beginPromotion k intent = .ok r) :
    (r = none ∧ s.pendingPromotion k = some intent) ∨
      r = some { s with promotionIntents := s.promotionIntents.insert k intent } := by
  simp only [beginPromotion] at h
  split at h
  · next hk =>
    cases h
    exact .inr rfl
  next existing hk =>
  split at h
  · next heq =>
    cases h
    exact .inl ⟨rfl, by rw [pendingPromotion, hk, promotionIntentsEqual_iff.mp heq]⟩
  · split at h
    · cases h
      exact .inr rfl
    · cases h

theorem insertIntent_ledger {intent : PromotionIntent} :
    ledger { s with promotionIntents := s.promotionIntents.insert k intent } k' =
      if k' = k then { s.ledger k with pending := some intent } else s.ledger k' := by
  simp only [ledger, pendingPromotion, GoMap.lookup_insert]
  split
  · next h => rw [h]; rfl
  · rfl

theorem eraseIntent_ledger :
    ledger { s with promotionIntents := s.promotionIntents.erase k } k' =
      if k' = k then { s.ledger k with pending := none } else s.ledger k' := by
  simp only [ledger, pendingPromotion, GoMap.lookup_erase]
  split
  · next h => rw [h]; rfl
  · rfl

theorem recordAck_ok (h : s.recordAck k seq ack base snap = .ok r) :
    r = some ((s.keepAckedSafeInventory k).advance k seq ack base snap) := by
  cases h
  rfl

theorem recordAck_ledger (h : s.recordAck k seq ack base snap = .ok (some next)) :
    next.ledger k' =
      if k' = k then ⟨seq, some ack, base, snap, s.pendingPromotion k⟩ else s.ledger k' := by
  cases recordAck_ok h
  rw [advance_ledger, keepAckedSafeInventory_ledger]
  have hp : (s.keepAckedSafeInventory k).pendingPromotion k = s.pendingPromotion k :=
    congrArg Ledger.pending keepAckedSafeInventory_ledger
  rw [hp]

theorem recordSettledNotApplied_ok (h : s.recordSettledNotApplied k seq ack base snap = .ok r) :
    ∃ next, r = some next ∧ ∀ k', next.ledger k' =
      if k' = k then
        ⟨seq, some ack, base, snap, (s.pendingPromotion k).filter (·.promotionSeq ≠ seq)⟩
      else s.ledger k' := by
  have hp : (s.keepAckedSafeInventory k).pendingPromotion k = s.pendingPromotion k :=
    congrArg Ledger.pending keepAckedSafeInventory_ledger
  have hlookup : ((s.keepAckedSafeInventory k).advance k seq ack base snap).promotionIntents.lookup k
      = s.pendingPromotion k := hp
  simp only [recordSettledNotApplied, hlookup] at h
  split at h
  · next intent hi =>
    split at h
    · next hseq =>
      cases h
      refine ⟨_, rfl, fun k' => ?_⟩
      rw [eraseIntent_ledger, advance_ledger, advance_ledger, if_pos rfl, hi]
      split <;> simp [Option.filter, hseq]
    · next hseq =>
      cases h
      refine ⟨_, rfl, fun k' => ?_⟩
      rw [advance_ledger, hp, hi]
      simp [Option.filter, hseq]
  · next hi =>
    cases h
    refine ⟨_, rfl, fun k' => ?_⟩
    rw [advance_ledger, hp, hi]
    simp

theorem recordRefreshedAck_ok (h : s.recordRefreshedAck k ack = .ok r) :
    ∃ next previous, r = some next ∧ s.lastAck k = some previous ∧ s.refreshes k previous ack ∧
      ∀ k', next.ledger k' =
        if k' = k then { s.ledger k with lastAck := some ack } else s.ledger k' := by
  have hledger : ∀ k', ledger { s with lastAcks := s.lastAcks.insert k ack } k' =
      if k' = k then { s.ledger k with lastAck := some ack } else s.ledger k' := by
    intro k'
    simp only [ledger, lastAck, GoMap.lookup_insert]
    split
    · next h => rw [h]; rfl
    · rfl
  simp only [recordRefreshedAck] at h
  split at h
  · cases h
  next previous hprev =>
  split at h
  · next href =>
    have hset : ∀ k', (recordAckedSafeInventory { s with lastAcks := s.lastAcks.insert k ack }
        k ack).ledger k' = _ := fun k' => recordAckedSafeInventory_ledger.trans (hledger k')
    -- the inventory is recorded with the acknowledgement or left as it was
    split at h
    · cases h
      exact ⟨_, previous, rfl, hprev, href, hset⟩
    · split at h
      · cases h
        exact ⟨_, previous, rfl, hprev, href, hset⟩
      · cases h
        exact ⟨_, previous, rfl, hprev, href, hledger⟩
  · cases h

theorem appliedPromotion_ledger {sum : String} :
    (s.appliedPromotion k seq ack base snap sum names).ledger k' =
      if k' = k then ⟨seq, some ack, base, snap, none⟩ else s.ledger k' := by
  rw [appliedPromotion, eraseIntent_ledger, excludePromoted_ledger, excludePromoted_ledger,
    advance_ledger, advance_ledger, if_pos rfl, recordAckedSafeInventory_ledger]
  by_cases h : k' = k
  · simp [h]
  · simp only [if_neg h]
    rfl

theorem recordAppliedPromotion_ok [LtHash] {hashes : List String}
    (h : s.recordAppliedPromotion k seq ack base snap hashes names = .ok r) :
    r = some (s.appliedPromotion k seq ack base snap
      (accumulatorHex (accOf (s.unpromotedSum k) - sumOf hashes)) names) := by
  simp only [recordAppliedPromotion, Except.bind_eq_ok, Except.pure_eq_ok] at h
  obtain ⟨acc, hp, acc', hs, rfl⟩ := h
  rw [subHashes_ok hs, accOf_of_parse hp]

/-! ## Intake accounting -/

theorem addUnpromoted_ok [LtHash] {hash : String} (h : s.addUnpromoted k hash = .ok r) :
    r = some { s with unpromotedSums :=
      s.unpromotedSums.insert k (accumulatorHex (accOf (s.unpromotedSum k) + accOf hash)) } := by
  simp only [addUnpromoted, Except.bind_eq_ok, Except.pure_eq_ok] at h
  obtain ⟨acc, hs, part, hp, rfl⟩ := h
  rw [accOf_of_parse hs, accOf_of_parse hp]

theorem drainUnpromoted_ok [LtHash] {hashes : List String} (h : s.drainUnpromoted k hashes = .ok r) :
    r = some { s with unpromotedSums :=
      s.unpromotedSums.insert k (accumulatorHex (accOf (s.unpromotedSum k) - sumOf hashes)) } := by
  simp only [drainUnpromoted, Except.bind_eq_ok, Except.pure_eq_ok] at h
  obtain ⟨acc, hp, acc', hs, rfl⟩ := h
  rw [subHashes_ok hs, accOf_of_parse hp]

theorem addUnpromotedPart_ok [LtHash] {name hash : String}
    (h : s.addUnpromotedPart k name hash = .ok r) :
    (r = none ∧ s.intakeParts.lookup (k, name) = some hash) ∨
      (s.intakeParts.lookup (k, name) = none ∧ r = some { s with
        unpromotedSums := s.unpromotedSums.insert k
          (accumulatorHex (accOf (s.unpromotedSum k) + accOf hash))
        intakeParts := s.intakeParts.insert (k, name) hash }) := by
  simp only [addUnpromotedPart] at h
  split at h
  · next previous hprev =>
    split at h
    · next heq =>
      cases h
      exact .inl ⟨rfl, by rw [hprev, heq]⟩
    · cases h
  · next hnone =>
    simp only [Except.bind_eq_ok, Except.pure_eq_ok] at h
    obtain ⟨acc, hs, part, hp, rfl⟩ := h
    exact .inr ⟨hnone, by rw [accOf_of_parse hs, accOf_of_parse hp]⟩

theorem subtractPart_ok [LtHash] {name hash : String} (h : s.subtractPart k name hash = .ok next) :
    next = { s with
      unpromotedSums := s.unpromotedSums.insert k
        (accumulatorHex (accOf (s.unpromotedSum k) - accOf hash))
      intakeParts := s.intakeParts.insert (k, name) "" } := by
  simp only [subtractPart, Except.bind_eq_ok, Except.pure_eq_ok] at h
  obtain ⟨acc, hs, part, hp, rfl⟩ := h
  rw [accOf_of_parse hs, accOf_of_parse hp]

theorem removeUnpromotedPart_ok [LtHash] {name hash : String}
    (h : s.removeUnpromotedPart k name hash = .ok r) :
    (r = none ∧ s.intakeParts.lookup (k, name) = some "") ∨
      (s.intakeParts.lookup (k, name) ≠ some "" ∧
        (∀ h', s.intakeParts.lookup (k, name) = some h' → h' = hash) ∧
        ∃ next, r = some next ∧ s.subtractPart k name hash = .ok next) := by
  simp only [removeUnpromotedPart] at h
  have hsub : (s.subtractPart k name hash).map some = .ok r →
      ∃ next, r = some next ∧ s.subtractPart k name hash = .ok next := by
    intro h
    cases hs : s.subtractPart k name hash with
    | error e => rw [hs] at h; cases h
    | ok next =>
      rw [hs] at h
      cases h
      exact ⟨next, rfl, rfl⟩
  split at h
  · next hnone => exact .inr ⟨by simp [hnone], by simp [hnone], hsub h⟩
  next previous hprev =>
  split at h
  · next hempty =>
    cases h
    exact .inl ⟨rfl, by rw [hprev, hempty]⟩
  next hne =>
  split at h
  · cases h
  next heq =>
  refine .inr ⟨by simp [hprev, hne], fun h' hh => ?_, hsub h⟩
  rw [hprev] at hh
  cases hh
  exact not_not.mp heq

theorem subtractPart_ledger [LtHash] {name hash : String}
    (h : s.subtractPart k name hash = .ok next) : next.ledger k' = s.ledger k' := by
  rw [subtractPart_ok h]
  rfl

/-! ## Cleanups -/

theorem removeRejectedParts_ledger [LtHash] {parts : List PartRef} {res : LocalState × Bool}
    (h : s.removeRejectedParts k parts = .ok res) : res.1.ledger = s.ledger := by
  induction parts generalizing s res with
  | nil =>
    cases h
    rfl
  | cons p ps ih =>
    simp only [removeRejectedParts] at h
    split at h
    · exact ih h
    · simp only [Except.bind_eq_ok, Except.pure_eq_ok] at h
      obtain ⟨mid, hs, rest, hr, rfl⟩ := h
      exact (ih hr).trans (funext fun _ => subtractPart_ledger hs)

@[simp] theorem forgetPromotedParts_ledger :
    (s.forgetPromotedParts k names).1.ledger k' = s.ledger k' := by
  simp only [forgetPromotedParts]
  split
  · rfl
  · split <;> rfl

variable {a : CleanupAck}

@[simp] theorem oweCleanupAck_ledger : (s.oweCleanupAck a).1.ledger k' = s.ledger k' := by
  simp only [oweCleanupAck]
  split <;> rfl

theorem removeRejectedParts_unchanged [LtHash] {parts : List PartRef}
    (h : s.removeRejectedParts k parts = .ok (next, false)) : next = s := by
  induction parts with
  | nil =>
    simp only [removeRejectedParts, Except.ok.injEq, Prod.mk.injEq] at h
    exact h.1.symm
  | cons p ps ih =>
    simp only [removeRejectedParts] at h
    split at h
    · exact ih h
    · simp only [Except.bind_eq_ok, Except.pure_eq_ok, Prod.mk.injEq, Bool.true_eq_false,
        and_false, exists_false] at h

theorem forgetPromotedParts_unchanged (h : (s.forgetPromotedParts k names).2 = false) :
    (s.forgetPromotedParts k names).1 = s := by
  simp only [forgetPromotedParts] at h ⊢
  split
  · rfl
  · next hne =>
    simp only [hne, if_false] at h
    split at h <;> cases h

theorem oweCleanupAck_unchanged (h : (s.oweCleanupAck a).2 = false) :
    (s.oweCleanupAck a).1 = s := by
  simp only [oweCleanupAck] at h ⊢
  split
  · rfl
  · next hne => simp [hne] at h

theorem accountRejected_ok [LtHash] {cmd : UnsafeCleanup} {res : LocalState × Bool}
    (h : s.accountRejected cmd = .ok res) :
    s.removeRejectedParts cmd.key cmd.parts = .ok res ∨ res = (s, false) := by
  simp only [accountRejected] at h
  split at h
  · obtain ⟨_, -, hr⟩ := Except.bind_eq_ok.mp h
    exact .inl hr
  · exact .inr (Except.pure_eq_ok.mp h).symm

/-- A journaled cleanup leaves the state in which its rejected parts are
    accounted for, its parts are no longer excluded and its acknowledgement is
    owed, whether or not that takes a write. -/
theorem recordExecutedCleanup_ok [LtHash] {cmd : UnsafeCleanup}
    (h : s.recordExecutedCleanup cmd a = .ok r) :
    cleanupAckKey a = ⟨cmd.key, cmd.promotionSeq, cmd.rejectedBlockSeq⟩ ∧
      ∃ mid removed, s.accountRejected cmd = .ok (mid, removed) ∧
        r.getD s =
          ((mid.forgetPromotedParts cmd.key (cmd.parts.map (·.partName))).1.oweCleanupAck a).1 := by
  simp only [recordExecutedCleanup] at h
  split at h
  · cases h
  next hid =>
  simp only [not_or, not_not] at hid
  obtain ⟨ht, hp, hs, hb⟩ := hid
  refine ⟨by rw [cleanupAckKey, ht, hp, hs, hb]; rfl, ?_⟩
  simp only [Except.bind_eq_ok, Except.pure_eq_ok] at h
  obtain ⟨⟨mid, removed⟩, hacc, rfl⟩ := h
  refine ⟨mid, removed, hacc, ?_⟩
  split
  · rfl
  next hsame =>
  simp only [Bool.or_eq_true, not_or, Bool.not_eq_true] at hsame
  obtain ⟨⟨hrem, hforget⟩, howe⟩ := hsame
  have hmid : mid = s := by
    rcases accountRejected_ok hacc with hr | hr
    · exact removeRejectedParts_unchanged (hrem ▸ hr)
    · exact congrArg Prod.fst hr
  rw [oweCleanupAck_unchanged howe, forgetPromotedParts_unchanged hforget, hmid]
  rfl

theorem recordExecutedCleanup_ledger [LtHash] {cmd : UnsafeCleanup}
    (h : s.recordExecutedCleanup cmd a = .ok r) : (r.getD s).ledger = s.ledger := by
  obtain ⟨-, mid, removed, hacc, hr⟩ := recordExecutedCleanup_ok h
  have hmid : mid.ledger = s.ledger := by
    rcases accountRejected_ok hacc with hr | hr
    · exact removeRejectedParts_ledger hr
    · cases hr
      rfl
  funext k'
  rw [hr, oweCleanupAck_ledger, forgetPromotedParts_ledger, hmid]

theorem clearOwedCleanupAck_ok (h : s.clearOwedCleanupAck a = .ok r) :
    (r = none ∧ s.owedCleanupAcks.lookup (cleanupAckKey a) ≠ some a) ∨
      (s.owedCleanupAcks.lookup (cleanupAckKey a) = some a ∧
        r = some { s with owedCleanupAcks := s.owedCleanupAcks.erase (cleanupAckKey a) }) := by
  simp only [clearOwedCleanupAck] at h
  split at h
  · next howed =>
    cases h
    exact .inr ⟨howed, rfl⟩
  · next howed =>
    cases h
    exact .inl ⟨rfl, howed⟩

/-! ## The purge gate and dropped tables -/

theorem unpromotedRowsIn_none [LtHash] {l : List (PartitionKey × String)}
    (h : unpromotedRowsIn l = .ok none) {k : PartitionKey} {sum : String} (hm : (k, sum) ∈ l) :
    accOf sum = 0 := by
  induction l with
  | nil => cases hm
  | cons e rest ih =>
    obtain ⟨k₀, sum₀⟩ := e
    simp only [unpromotedRowsIn, Except.bind_eq_ok] at h
    obtain ⟨acc, hp, h⟩ := h
    split at h
    · cases h
    next hz =>
    rcases List.mem_cons.mp hm with heq | hm
    · cases heq
      rw [accOf_of_parse hp]
      exact not_not.mp hz
    · exact ih h hm

/-- Nothing holds the purge of a table. -/
structure Unheld [LtHash] (s : LocalState) (table : String) : Prop where
  pending : ∀ k, k.table = table → s.pendingPromotion k = none
  promoted : ∀ k, k.table = table → s.promoted k = []
  unpromoted : ∀ k, k.table = table → accOf (s.unpromotedSum k) = 0
  owed : ∀ ak a, s.owedCleanupAcks.lookup ak = some a → a.tableID ≠ table

theorem mem_owedCleanupAckList :
    a ∈ s.owedCleanupAckList ↔ ∃ ak, s.owedCleanupAcks.lookup ak = some a := by
  simp [owedCleanupAckList, ← GoMap.mem_toList]

/-- The checks pass only if nothing holds the table. -/
theorem purgeHold_none [LtHash] {table : String} (h : s.purgeHold table = .ok none) :
    s.Unheld table := by
  simp only [purgeHold] at h
  split at h
  · cases h
  next hint =>
  split at h
  · cases h
  next hprom =>
  simp only [Except.bind_eq_ok] at h
  obtain ⟨found, hu, h⟩ := h
  split at h
  · cases h
  split at h
  · cases h
  next ho =>
  rw [List.find?_eq_none] at hint hprom
  rw [owedCleanupAckOf, List.find?_eq_none] at ho
  refine ⟨fun k hk => ?_, fun k hk => ?_, fun k hk => ?_, fun ak a ha hta => ?_⟩
  · by_contra hne
    obtain ⟨i, hi⟩ := Option.ne_none_iff_exists'.mp hne
    exact hint k (GoMap.mem_keys.mpr ⟨i, hi⟩) (by simpa using hk)
  · rw [promoted, GoMap.getD]
    cases hl : s.promotedUnsafeParts.lookup k with
    | none => rfl
    | some parts =>
      have := hprom (k, parts) (GoMap.mem_toList.mpr hl)
      simpa [hk] using this
  · rw [unpromotedSum, GoMap.getD]
    cases hl : s.unpromotedSums.lookup k with
    | none => exact accOf_empty
    | some sum =>
      exact unpromotedRowsIn_none hu (k := k)
        (List.mem_filter.mpr ⟨GoMap.mem_toList.mpr hl, by simpa using hk⟩)
  · exact ho a (mem_owedCleanupAckList.mpr ⟨ak, ha⟩) (by simpa using hta)

theorem forgetTable_ok [LtHash] {table : String} (h : s.forgetTable table = .ok r) :
    s.Unheld table ∧
      (r = none ∧ s.hasTable table = false ∨ r = some (s.dropTable table)) := by
  simp only [forgetTable, Except.bind_eq_ok] at h
  obtain ⟨hold, hp, h⟩ := h
  split at h
  · cases h
  refine ⟨purgeHold_none hp, ?_⟩
  rw [Except.pure_eq_ok] at h
  split at h
  · exact .inr h.symm
  · next hnone => exact .inl ⟨h.symm, Bool.not_eq_true _ ▸ hnone⟩

theorem dropTable_ledger {table : String} :
    (s.dropTable table).ledger k =
      if k.table = table then ⟨s.watermark k, none, "", "", s.pendingPromotion k⟩
      else s.ledger k := by
  simp only [ledger, dropTable, watermark, lastAck, baseRoot, baseSnapshotID, pendingPromotion,
    GoMap.getD, GoMap.lookup_eraseWhere, decide_eq_true_eq]
  split <;> rfl

/-! ## Rebuilt inventories -/

theorem recordRebuiltSafeInventories_ok {invs : List RebuiltSafeInventory}
    (h : s.recordRebuiltSafeInventories invs = .ok r) :
    (∀ k, s.pendingPromotion k = none) ∧
      ∃ m, r = some { s with ackedSafeInventories := m } := by
  simp only [recordRebuiltSafeInventories, Except.bind_eq_ok, Except.pure_eq_ok] at h
  obtain ⟨_, hc, h⟩ := h
  refine ⟨fun k => ?_, _, h.symm⟩
  simp only [checkRebuild] at hc
  split at hc
  · cases hc
  next hkeys =>
  by_contra hne
  obtain ⟨i, hi⟩ := Option.ne_none_iff_exists'.mp hne
  have hmem := GoMap.mem_keys.mpr ⟨i, hi⟩
  rw [not_not.mp hkeys] at hmem
  cases hmem

end LocalState

/-! ## Writes -/

/-- A call of a state mutator. -/
inductive StateWrite where
  | beginPromotion (k : PartitionKey) (intent : PromotionIntent)
  | recordAck (k : PartitionKey) (seq : Nat) (ack : PromotionAck) (base snap : String)
  | recordSettledNotApplied (k : PartitionKey) (seq : Nat) (ack : PromotionAck) (base snap : String)
  | recordRefreshedAck (k : PartitionKey) (ack : PromotionAck)
  | recordAppliedPromotion (k : PartitionKey) (seq : Nat) (ack : PromotionAck) (base snap : String)
      (partLtHashHexes unsafePartNames : List String)
  | addUnpromoted (k : PartitionKey) (partLtHashHex : String)
  | addUnpromotedPart (k : PartitionKey) (partName partLtHashHex : String)
  | removeUnpromotedPart (k : PartitionKey) (partName partLtHashHex : String)
  | drainUnpromoted (k : PartitionKey) (partLtHashHexes : List String)
  | recordExecutedCleanup (cmd : UnsafeCleanup) (ack : CleanupAck)
  | clearOwedCleanupAck (ack : CleanupAck)
  | forgetTable (table : String)
  | recordRebuiltSafeInventories (inventories : List LocalState.RebuiltSafeInventory)
  | nextRegistrationSeq (nowMillis : UInt64)
  deriving DecidableEq

namespace StateWrite

def apply [LtHash] (s : LocalState) : StateWrite → Mutation
  | .beginPromotion k intent => s.beginPromotion k intent
  | .recordAck k seq ack base snap => s.recordAck k seq ack base snap
  | .recordSettledNotApplied k seq ack base snap => s.recordSettledNotApplied k seq ack base snap
  | .recordRefreshedAck k ack => s.recordRefreshedAck k ack
  | .recordAppliedPromotion k seq ack base snap hashes names =>
    s.recordAppliedPromotion k seq ack base snap hashes names
  | .addUnpromoted k hash => s.addUnpromoted k hash
  | .addUnpromotedPart k name hash => s.addUnpromotedPart k name hash
  | .removeUnpromotedPart k name hash => s.removeUnpromotedPart k name hash
  | .drainUnpromoted k hashes => s.drainUnpromoted k hashes
  | .recordExecutedCleanup cmd ack => s.recordExecutedCleanup cmd ack
  | .clearOwedCleanupAck ack => s.clearOwedCleanupAck ack
  | .forgetTable table => s.forgetTable table
  | .recordRebuiltSafeInventories inventories => s.recordRebuiltSafeInventories inventories
  | .nextRegistrationSeq now => s.nextRegistrationSeq now

/-- The mutators that assign to the maps in memory and persist those; the others
    persist a clone first. -/
def inPlace : StateWrite → Bool
  | .addUnpromoted .. | .addUnpromotedPart .. | .removeUnpromotedPart .. | .drainUnpromoted .. => true
  | _ => false

/-- The partition whose promotion ledger a write is about. -/
def ledgerKey : StateWrite → Option PartitionKey
  | .beginPromotion k _ | .recordAck k .. | .recordSettledNotApplied k .. |
    .recordRefreshedAck k _ | .recordAppliedPromotion k .. => some k
  | _ => none

/-- Apart from dropped tables, a write changes the ledger of its partition only. -/
theorem apply_ledger_of_ne [LtHash] {w : StateWrite} {s : LocalState} {r : Option LocalState}
    (h : w.apply s = .ok r) {k : PartitionKey} (hk : w.ledgerKey ≠ some k)
    (ht : ∀ t, w = .forgetTable t → k.table ≠ t) : (r.getD s).ledger k = s.ledger k := by
  have hne : ∀ {k' : PartitionKey}, some k' ≠ some k → k ≠ k' := fun h heq => h (by rw [heq])
  cases w with
  | beginPromotion k' intent =>
    rcases LocalState.beginPromotion_ok h with ⟨rfl, -⟩ | rfl
    · rfl
    · exact LocalState.insertIntent_ledger.trans (if_neg (hne hk))
  | recordAck k' seq ack base snap =>
    cases LocalState.recordAck_ok h
    exact (LocalState.recordAck_ledger h).trans (if_neg (hne hk))
  | recordSettledNotApplied k' seq ack base snap =>
    obtain ⟨next, rfl, hl⟩ := LocalState.recordSettledNotApplied_ok h
    exact (hl k).trans (if_neg (hne hk))
  | recordRefreshedAck k' ack =>
    obtain ⟨next, -, rfl, -, -, hl⟩ := LocalState.recordRefreshedAck_ok h
    exact (hl k).trans (if_neg (hne hk))
  | recordAppliedPromotion k' seq ack base snap hashes names =>
    cases LocalState.recordAppliedPromotion_ok h
    exact LocalState.appliedPromotion_ledger.trans (if_neg (hne hk))
  | addUnpromoted k' hash =>
    cases LocalState.addUnpromoted_ok h
    rfl
  | drainUnpromoted k' hashes =>
    cases LocalState.drainUnpromoted_ok h
    rfl
  | addUnpromotedPart k' name hash =>
    rcases LocalState.addUnpromotedPart_ok h with ⟨rfl, -⟩ | ⟨-, rfl⟩ <;> rfl
  | removeUnpromotedPart k' name hash =>
    rcases LocalState.removeUnpromotedPart_ok h with ⟨rfl, -⟩ | ⟨-, -, next, rfl, hs⟩
    · rfl
    · exact LocalState.subtractPart_ledger hs
  | recordExecutedCleanup cmd ack => exact congrFun (LocalState.recordExecutedCleanup_ledger h) k
  | clearOwedCleanupAck ack =>
    rcases LocalState.clearOwedCleanupAck_ok h with ⟨rfl, -⟩ | ⟨-, rfl⟩ <;> rfl
  | forgetTable t =>
    rcases (LocalState.forgetTable_ok h).2 with ⟨rfl, -⟩ | rfl
    · rfl
    · exact LocalState.dropTable_ledger.trans (if_neg (ht t rfl))
  | recordRebuiltSafeInventories inventories =>
    obtain ⟨-, m, rfl⟩ := LocalState.recordRebuiltSafeInventories_ok h
    rfl
  | nextRegistrationSeq now =>
    cases h
    rfl

/-- The writes that change the memory first leave every ledger alone. -/
theorem inPlace_ledger [LtHash] {w : StateWrite} {s next : LocalState} (hw : w.inPlace = true)
    (h : w.apply s = .ok (some next)) {k : PartitionKey} : next.ledger k = s.ledger k := by
  refine apply_ledger_of_ne h ?_ ?_
  · cases w <;> simp_all [inPlace, ledgerKey]
  · rintro t rfl
    cases hw

end StateWrite

/-! ## Memory and disk -/

/-- Where a state write fails, if it does: before the rename of the temporary
    file nothing is durable, after it (the directory sync) the new state is. -/
inductive WriteFault where
  | none
  | beforeRename
  | afterRename
  deriving DecidableEq

/-- The state in memory, and the state that a restart loads. -/
structure Store where
  mem : LocalState
  disk : LocalState

namespace Store

/-- One call of a mutator whose write meets `fault`; `e` is the error of a
    failed write. -/
def write [LtHash] (st : Store) (w : StateWrite) (fault : WriteFault) (e : GoError) :
    Except GoError Unit × Store :=
  match w.apply st.mem with
  | .error e' => (.error e', st)
  | .ok none => (.ok (), st)
  | .ok (some next) =>
    match fault with
    | .none => (.ok (), ⟨next, next⟩)
    | .beforeRename => (.error e, ⟨if w.inPlace then next else st.mem, st.disk⟩)
    | .afterRename => (.error e, ⟨if w.inPlace then next else st.mem, next⟩)

/-- A restart loads what is durable. -/
def restart (st : Store) : Store := ⟨st.disk, st.disk⟩

/-- What a write can do to memory and disk. -/
theorem write_cases [LtHash] {st st' : Store} {w : StateWrite} {fault : WriteFault} {e : GoError}
    {res : Except GoError Unit} (h : st.write w fault e = (res, st')) :
    (st' = st) ∨ ∃ next, w.apply st.mem = .ok (some next) ∧
      ((res = .ok () ∧ st' = ⟨next, next⟩) ∨
        (∃ e, res = .error e) ∧ (st'.mem = st.mem ∨ w.inPlace = true ∧ st'.mem = next) ∧
          (st'.disk = st.disk ∨ st'.disk = next)) := by
  simp only [write] at h
  split at h
  · cases h
    exact .inl rfl
  · cases h
    exact .inl rfl
  next next hap =>
  refine .inr ⟨next, hap, ?_⟩
  cases fault with
  | none =>
    cases h
    exact .inl ⟨rfl, rfl⟩
  | beforeRename =>
    cases h
    refine .inr ⟨⟨e, rfl⟩, ?_, .inl rfl⟩
    cases hw : w.inPlace <;> simp
  | afterRename =>
    cases h
    refine .inr ⟨⟨e, rfl⟩, ?_, .inr rfl⟩
    cases hw : w.inPlace <;> simp

/-- A successful call leaves the mutator's state in memory. -/
theorem write_ok [LtHash] {st st' : Store} {w : StateWrite} {fault : WriteFault} {e : GoError}
    (h : st.write w fault e = (.ok (), st')) :
    ∃ r, w.apply st.mem = .ok r ∧ st'.mem = r.getD st.mem := by
  simp only [write] at h
  split at h
  · cases h
  · next hap =>
    cases h
    exact ⟨none, hap, rfl⟩
  next next hap =>
  cases fault with
  | none =>
    cases h
    exact ⟨some next, hap, rfl⟩
  | beforeRename => cases h
  | afterRename => cases h

end Store

end ArbiterCore
