-- SUMMARY: The unpromoted sums of the journal against the recorded parts, over every run of the mutators.
import Mathlib.Algebra.BigOperators.Finprod
import ArbiterCore.SNode.World

/-!
# The accounting of unpromoted rows

The journal keeps one sum for each partition, and a hash for each part that intake
recorded. A promotion changes the sum alone. So the sum is what was recorded less what
was taken out, and a table whose sums are zero can be forgotten.
-/

namespace ArbiterCore

open LtHash (Acc)
open LocalState

variable [LtHash] {s next : LocalState} {k k' : PartitionKey}

/-! ## Recorded parts -/

/-- The sum of the parts of a partition that intake recorded and no cleanup removed. -/
noncomputable def LocalState.recordedSum (s : LocalState) (k : PartitionKey) : Acc :=
  ∑ᶠ name, accOf (s.intakeParts.getD (k, name) "")

/-- What a write takes out of the sum of a partition without a recorded part; it is
    negative for what is added without one. -/
def StateWrite.takes (s : LocalState) (k : PartitionKey) : StateWrite → Acc
  | .addUnpromoted k' hash => if k' = k then -accOf hash else 0
  | .drainUnpromoted k' hashes => if k' = k then sumOf hashes else 0
  | .recordAppliedPromotion k' _ _ _ _ hashes _ => if k' = k then sumOf hashes else 0
  | .removeUnpromotedPart k' name hash =>
    if k' = k ∧ s.intakeParts.lookup (k', name) = none then accOf hash else 0
  | _ => 0

/-- The sum of a partition moved as its recorded parts did, less `taken`. -/
def Moved (s next : LocalState) (k : PartitionKey) (taken : Acc) : Prop :=
  accOf (next.unpromotedSum k) + taken + s.recordedSum k =
    accOf (s.unpromotedSum k) + next.recordedSum k

/-- The sums and the recorded parts. -/
def LocalState.counts (s : LocalState) : GoMap PartitionKey String × GoMap (PartitionKey × String) String :=
  (s.unpromotedSums, s.intakeParts)

theorem Moved.of_counts (h : next.counts = s.counts) : Moved s next k 0 := by
  obtain ⟨hsums, hparts⟩ := Prod.mk.inj h
  rw [Moved, recordedSum, recordedSum, unpromotedSum, unpromotedSum, hsums, hparts, add_zero]

theorem Moved.trans_eq {a b : Acc} (h : Moved s next k a) (hab : a = b) : Moved s next k b := hab ▸ h

theorem Moved.trans {mid : LocalState} {a b : Acc} (h : Moved s mid k a) (h' : Moved mid next k b) :
    Moved s next k (a + b) := by
  unfold Moved at *
  grind

/-- The sum of a partition changes alone. -/
theorem Moved.of_sum {taken : Acc} (h : next.counts = (s.unpromotedSums.insert k (accumulatorHex
      (accOf (s.unpromotedSum k) - taken)), s.intakeParts)) :
    Moved s next k' (if k = k' then taken else 0) := by
  obtain ⟨hsums, hparts⟩ := Prod.mk.inj h
  rw [Moved, recordedSum, recordedSum, hparts, unpromotedSum, hsums, GoMap.getD_insert]
  by_cases hk : k = k'
  · subst hk
    rw [if_pos rfl, if_pos rfl, accOf_accumulatorHex, sub_add_cancel]
  · rw [if_neg (Ne.symm hk), if_neg hk, add_zero]
    rfl

/-- A part is recorded with a hash, or marked as removed. -/
theorem recordedSum_insert {name hash : String}
    (hnext : next.intakeParts = s.intakeParts.insert (k, name) hash) :
    next.recordedSum k + accOf (s.intakeParts.getD (k, name) "") = s.recordedSum k + accOf hash := by
  have hfinite : ∀ s : LocalState,
      (Function.support fun name => accOf (s.intakeParts.getD (k, name) "")).Finite := by
    intro s
    refine (s.intakeParts.keys.map (·.2)).finite_toSet.subset fun name hname => ?_
    by_contra hnone
    have hkey : (k, name) ∉ s.intakeParts.keys := fun hmem => hnone (List.mem_map.mpr ⟨_, hmem, rfl⟩)
    exact hname (by simp only [GoMap.getD_of_not_mem_keys hkey, accOf_empty])
  have hothers : (∑ᶠ (name') (_ : name' ≠ name), accOf (next.intakeParts.getD (k, name') "")) =
      ∑ᶠ (name') (_ : name' ≠ name), accOf (s.intakeParts.getD (k, name') "") :=
    finsum_congr fun name' => finsum_congr fun hne => by
      rw [hnext, GoMap.getD_insert_of_ne fun h => hne (Prod.mk.inj h).2]
  rw [recordedSum, recordedSum, ← add_finsum_cond_ne name (hfinite next),
    ← add_finsum_cond_ne name (hfinite s), hothers, hnext, GoMap.getD_insert_self]
  grind

/-- The sum and the hash of a part change together. -/
theorem Moved.of_insert {name hash : String} {acc taken : Acc}
    (hsums : next.unpromotedSums = s.unpromotedSums.insert k (accumulatorHex acc))
    (hparts : next.intakeParts = s.intakeParts.insert (k, name) hash)
    (htaken : k = k' → acc + taken + accOf (s.intakeParts.getD (k, name) "") =
      accOf (s.unpromotedSum k) + accOf hash) :
    Moved s next k' (if k = k' then taken else 0) := by
  rw [Moved, unpromotedSum, hsums, GoMap.getD_insert]
  by_cases hk : k = k'
  · subst hk
    have hrec := recordedSum_insert hparts
    have := htaken rfl
    rw [if_pos rfl, if_pos rfl, accOf_accumulatorHex]
    grind
  · have hother : next.recordedSum k' = s.recordedSum k' := finsum_congr fun name' => by
      rw [hparts, GoMap.getD_insert_of_ne fun h => hk (Prod.mk.inj h).1.symm]
    rw [if_neg (Ne.symm hk), if_neg hk, hother, add_zero]
    rfl

theorem subtractPart_moved {name hash : String} (h : s.subtractPart k name hash = .ok next) :
    Moved s next k' (if k = k' then accOf hash - accOf (s.intakeParts.getD (k, name) "") else 0) := by
  simp only [subtractPart, Except.bind_eq_ok, Except.pure_eq_ok] at h
  obtain ⟨acc, hacc, part, hpart, rfl⟩ := h
  refine .of_insert rfl rfl fun _ => ?_
  rw [accOf_of_parse hacc, accOf_of_parse hpart, accOf_empty]
  grind

/-! ## The mutators -/

section

omit [LtHash]

variable {ack : PromotionAck}

theorem keepAckedSafeInventory_counts : (s.keepAckedSafeInventory k).counts = s.counts := by
  unfold keepAckedSafeInventory
  split <;> rfl

theorem recordAckedSafeInventory_counts : (s.recordAckedSafeInventory k ack).counts = s.counts := by
  unfold recordAckedSafeInventory
  split_ifs <;> rfl

theorem excludePromoted_counts {names : List String} :
    (s.excludePromoted k names).counts = s.counts := by
  unfold excludePromoted
  split <;> rfl

theorem appliedPromotion_counts {seq : Nat} {base snap sum : String} {names : List String} :
    (s.appliedPromotion k seq ack base snap sum names).counts =
      (s.unpromotedSums.insert k sum, s.intakeParts) :=
  excludePromoted_counts.trans recordAckedSafeInventory_counts

theorem forgetPromotedParts_counts {names : List String} :
    (s.forgetPromotedParts k names).1.counts = s.counts := by
  simp only [forgetPromotedParts]
  split_ifs <;> rfl

theorem oweCleanupAck_counts {ack : CleanupAck} : (s.oweCleanupAck ack).1.counts = s.counts := by
  simp only [oweCleanupAck]
  split <;> rfl

end

/-- A cleanup takes out what intake recorded under the names. -/
theorem removeRejectedParts_moved {parts : List PartRef} {res : LocalState × Bool}
    (hcheck : ∀ p ∈ parts, s.checkRejectedPart k p = .ok ())
    (h : s.removeRejectedParts k parts = .ok res) : Moved s res.1 k' 0 := by
  have hhash : ∀ p ∈ parts, s.intakeParts.getD (k, p.partName) "" = "" ∨
      s.intakeParts.getD (k, p.partName) "" = p.partRowLtHash := by
    intro p hp
    have hp := hcheck p hp
    unfold checkRejectedPart at hp
    rw [GoMap.getD]
    split_ifs at hp
    split at hp
    · next hlook =>
      split_ifs at hp with hne
      rw [hlook, Option.getD_some]
      tauto
    · next hlook => exact .inl (by rw [hlook, Option.getD_none])
  clear hcheck
  induction parts generalizing s res with
  | nil =>
    cases h
    exact .of_counts rfl
  | cons p ps ih =>
    obtain ⟨hp, hps⟩ := List.forall_mem_cons.mp hhash
    simp only [removeRejectedParts] at h
    split at h
    · exact ih h hps
    next hne =>
    simp only [Except.bind_eq_ok, Except.pure_eq_ok] at h
    obtain ⟨mid, hmid, rest, hrest, rfl⟩ := h
    refine ((subtractPart_moved hmid).trans (ih hrest fun q hq => ?_)).trans_eq ?_
    · rw [subtractPart_ok hmid, GoMap.getD_insert]
      split
      · exact .inl rfl
      · exact hps q hq
    · rw [hp.resolve_left hne]
      simp

theorem accountRejected_moved {cmd : UnsafeCleanup} {res : LocalState × Bool}
    (h : s.accountRejected cmd = .ok res) : Moved s res.1 k 0 := by
  simp only [accountRejected] at h
  split at h
  · simp only [checkRejectedParts, Except.bind_eq_ok] at h
    obtain ⟨_, hcheck, hremove⟩ := h
    split at hcheck
    · cases hcheck
    · exact removeRejectedParts_moved (Except.forM_eq_ok.mp hcheck) hremove
  · cases h
    exact .of_counts rfl

theorem StateWrite.moved {w : StateWrite} (hw : ∀ t, w ≠ .forgetTable t) (h : w.apply s = .ok (some next)) :
    Moved s next k (w.takes s k) := by
  cases w with
  | beginPromotion k' intent =>
    rcases beginPromotion_ok h with ⟨hnone, -⟩ | hsome
    · cases hnone
    · cases hsome
      exact .of_counts rfl
  | recordAck k' seq ack base snap =>
    cases recordAck_ok h
    exact .of_counts keepAckedSafeInventory_counts
  | recordSettledNotApplied k' seq ack base snap =>
    simp only [apply, LocalState.recordSettledNotApplied] at h
    refine .of_counts (Eq.trans ?_ (keepAckedSafeInventory_counts (k := k')))
    split at h
    · split at h <;> cases h <;> rfl
    · cases h
      rfl
  | recordRefreshedAck k' ack =>
    simp only [apply, LocalState.recordRefreshedAck] at h
    refine .of_counts ?_
    split at h
    · cases h
    split_ifs at h
    · split at h
      · cases h
        exact recordAckedSafeInventory_counts
      · split_ifs at h <;> cases h
        · exact recordAckedSafeInventory_counts
        · rfl
  | recordAppliedPromotion k' seq ack base snap hashes names =>
    -- the promotion changes the sum first, then what does not count
    cases recordAppliedPromotion_ok h
    exact .of_sum appliedPromotion_counts
  | addUnpromoted k' hash =>
    cases addUnpromoted_ok h
    exact .of_sum (by rw [sub_neg_eq_add]; rfl)
  | drainUnpromoted k' hashes =>
    cases drainUnpromoted_ok h
    exact .of_sum rfl
  | addUnpromotedPart k' name hash =>
    rcases addUnpromotedPart_ok h with ⟨hnone, -⟩ | ⟨hfresh, hsome⟩
    · cases hnone
    cases hsome
    refine (@Moved.of_insert _ _ _ _ _ _ _ _ 0 rfl rfl fun _ => ?_).trans_eq ?_
    · simp [GoMap.getD, hfresh]
    · simp [takes]
  | removeUnpromotedPart k' name hash =>
    rcases removeUnpromotedPart_ok h with ⟨hnone, -⟩ | ⟨-, hhash, _, hsome, hsub⟩
    · cases hnone
    cases hsome
    refine (subtractPart_moved hsub).trans_eq ?_
    rw [takes, GoMap.getD]
    cases hlook : s.intakeParts.lookup (k', name) with
    | none => simp
    | some recorded => simp [hhash recorded hlook]
  | recordExecutedCleanup cmd ack =>
    obtain ⟨-, mid, removed, hmid, hnext⟩ := recordExecutedCleanup_ok h
    have hcounts : next.counts = mid.counts := by
      rw [Option.getD_some] at hnext
      rw [hnext, oweCleanupAck_counts, forgetPromotedParts_counts]
    exact ((accountRejected_moved hmid).trans (.of_counts hcounts)).trans_eq (add_zero 0)
  | clearOwedCleanupAck ack =>
    rcases clearOwedCleanupAck_ok h with ⟨hnone, -⟩ | ⟨-, hsome⟩
    · cases hnone
    · cases hsome
      exact .of_counts rfl
  | forgetTable t => exact absurd rfl (hw t)
  | recordRebuiltSafeInventories inventories =>
    obtain ⟨-, m, hsome⟩ := recordRebuiltSafeInventories_ok h
    cases hsome
    exact .of_counts rfl
  | nextRegistrationSeq now =>
    cases h
    exact .of_counts rfl

/-- A table is forgotten with its sums and its parts. -/
theorem dropTable_counts (table : String) : (s.dropTable table).recordedSum k =
      (if k.table = table then 0 else s.recordedSum k) ∧
    accOf ((s.dropTable table).unpromotedSum k) = if k.table = table then 0 else accOf (s.unpromotedSum k) := by
  simp only [recordedSum, unpromotedSum, dropTable, GoMap.getD, GoMap.lookup_eraseWhere, decide_eq_true_eq]
  split <;> simp

/-! ## Runs -/

/-- A journal with a history: what was taken out of each sum since its table was forgotten. -/
structure Accounts where
  journal : LocalState
  taken : PartitionKey → Acc

namespace Accounts

variable {a : Accounts}

/-- A write; one that is refused or changes nothing has no effect. -/
def write (a : Accounts) (w : StateWrite) : Accounts :=
  match w.apply a.journal with
  | .ok (some next) =>
    ⟨next, fun k => if w = .forgetTable k.table then 0 else a.taken k + w.takes a.journal k⟩
  | _ => a

/-- The sum of every partition is what was recorded less what was taken out. -/
def Balanced (a : Accounts) : Prop :=
  ∀ k, accOf (a.journal.unpromotedSum k) + a.taken k = a.journal.recordedSum k

theorem Balanced.write (h : a.Balanced) (w : StateWrite) : (a.write w).Balanced := by
  intro k
  have hk := h k
  unfold Accounts.write
  split
  · next next happly =>
    dsimp only
    by_cases hforget : ∃ t, w = .forgetTable t
    · obtain ⟨t, rfl⟩ := hforget
      obtain ⟨-, ⟨hnone, -⟩ | hsome⟩ := forgetTable_ok happly
      · cases hnone
      cases hsome
      obtain ⟨hrec, hsum⟩ := dropTable_counts (s := a.journal) (k := k) t
      simp only [hrec, hsum, StateWrite.forgetTable.injEq, StateWrite.takes, eq_comm (a := t)]
      split <;> simp [hk]
    · have hmoved := StateWrite.moved (k := k) (fun t ht => hforget ⟨t, ht⟩) happly
      rw [if_neg fun heq => hforget ⟨_, heq⟩]
      unfold Moved at hmoved
      grind
  · exact hk

theorem Balanced.run (h : a.Balanced) (ws : List StateWrite) : (ws.foldl Accounts.write a).Balanced := by
  induction ws generalizing a with
  | nil => exact h
  | cons w ws ih => exact ih (h.write w)

def start : Accounts := ⟨newLocalState, 0⟩

/-- Along every run of writes, the sum of a partition is what intake recorded for it less
    what was taken out. So a table is forgotten only when everything that intake recorded
    for it was taken out. -/
theorem unpromoted_sums_balance (ws : List StateWrite) :
    (ws.foldl write start).Balanced ∧
      ∀ table r, (ws.foldl write start).journal.forgetTable table = .ok r → ∀ k, k.table = table →
        (ws.foldl write start).taken k = (ws.foldl write start).journal.recordedSum k := by
  have hstart : start.Balanced := by
    intro k
    simp [start, unpromotedSum, recordedSum, newLocalState]
  have hbalanced := hstart.run ws
  refine ⟨hbalanced, fun table r hforget k hk => ?_⟩
  have hzero := (forgetTable_ok hforget).1.unpromoted k hk
  have hsum := hbalanced k
  rwa [hzero, zero_add] at hsum

omit [LtHash] in
open SmallNode in
/-- Taking out a part that intake did not record makes up for one that it did. -/
theorem unpromoted_sums_balance_unrecorded : letI : LtHash := gate.toLtHash
    ∃ ws : List StateWrite, (ws.foldl write start).taken ⟨"t", "all"⟩ = accOf "0x1" ∧
      (ws.foldl write start).taken ⟨"t", "all"⟩ = (ws.foldl write start).journal.recordedSum ⟨"t", "all"⟩ := by
  let _ : LtHash := gate.toLtHash
  refine ⟨[.addUnpromotedPart ⟨"t", "all"⟩ "u1" "0x1", .removeUnpromotedPart ⟨"t", "all"⟩ "u2" "0x1"],
    by decide, (unpromoted_sums_balance _).2 "t" _ rfl _ rfl⟩

end Accounts

end ArbiterCore
