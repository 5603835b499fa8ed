-- SUMMARY: What a rebuild that succeeds leaves in hg_safe and in the journal.
import ArbiterCore.Base.Runs
import ArbiterCore.SNode.RebuildScratch
import ArbiterCore.SNode.Scan

/-!
# The result of a rebuild

A rebuild does not trust its own restore. At the end it lists and scans every partition of
hg_safe once more, compares it with the arbiter's SafeParts, and journals the names that it
found. A run that finds everything in place makes the same comparison and writes nothing.
-/

namespace ArbiterCore.Rebuild

open Conc

variable [HouseGate]

/-! ## Contents -/

/-- What a listing and a scan say of a stored part. -/
def storedContent (sch : TableSchema) (q : StoredPart) : PartContent :=
  ⟨if q.content = [] then "" else accumulatorHex (partHash sch q), q.physHash⟩

/-- The content that the arbiter recorded. -/
def recordedContent (m : SafePartMapping) : PartContent := ⟨m.partRowLtHash, m.partPhysHash⟩

def OwnedPartition.key (p : OwnedPartition) : PartitionKey := ⟨p.table.tableID, p.state.partitionID⟩

/-- The parts of a partition in hg_safe. -/
def safeParts (w : RebuildWorld) (p : OwnedPartition) : List StoredPart :=
  partitionOf p.table.schema p.state.partitionID (w.parts .hgSafe p.table.physical)

/-- What the journal has to say of the parts. -/
def namedParts (sch : TableSchema) (qs : List StoredPart) : List SafePartMapping :=
  qs.map fun q => ⟨(storedContent sch q).row, q.name, q.physHash⟩

/-- hg_safe holds the partition as the arbiter recorded it, with every part as often as
    there, and the journal has exactly its part names. -/
structure Restored (w : RebuildWorld) (p : OwnedPartition) : Prop where
  content : ((safeParts w p).map (storedContent p.table.schema)).Perm ((manifest p).map recordedContent)
  journal : ∃ inv, w.journal.ackedSafeInventories.lookup p.key = some inv ∧
    inv.rebuilt = true ∧ inv.promotionSeq = p.state.publishSeq ∧
    inv.parts.Perm (namedParts p.table.schema (safeParts w p))

/-- hg_safe has the partitions that the arbiter has parts of. -/
def PartitionsOf (w : RebuildWorld) (partitions : List OwnedPartition) (t : OwnedTable) : Prop :=
  ∀ pid, (∃ q ∈ w.parts .hgSafe t.physical, q.partition t.schema = pid) ↔
    ∃ p ∈ partitions, p.table.tableID = t.tableID ∧ p.state.partitionID = pid

omit [HouseGate] in
/-- Taking contents out of a manifest leaves the rest of it. -/
theorem subtract_perm {want rest : List SafePartMapping} {hs : List PartContent}
    (h : subtract want hs = some rest) :
    (want.map recordedContent).Perm (hs ++ rest.map recordedContent) := by
  induction hs generalizing want with
  | nil =>
    cases h
    exact .refl _
  | cons c hs ih =>
    unfold subtract at h
    split at h
    · cases h
    next i hi =>
    obtain ⟨hlt, hmatch, -⟩ := List.findIdx?_eq_some_iff_getElem.mp hi
    obtain ⟨hrow, hphys⟩ := of_decide_eq_true hmatch
    have hc : recordedContent want[i] = c := by
      rw [recordedContent, hrow, hphys]
    have htake := (List.getElem_cons_eraseIdx_perm hlt).map recordedContent
    rw [List.map_cons, hc] at htake
    exact htake.symm.trans ((ih h).cons c)

/-- A scan finds the row hash of every part that has rows. -/
theorem rowHashIn_scanned {t : Table} {q : StoredPart} {sch : TableSchema} {names : List String}
    (hq : q ∈ t.parts) (hname : q.name ∈ names) :
    rowHashIn (scanned sch t.parts names) q.name = (storedContent sch q).row := by
  have hself : ∀ s ∈ scanned sch t.parts names, s.partName = q.name →
      q.content ≠ [] ∧ s.rowLtHash = accumulatorHex (partHash sch q) := by
    intro s hs hsname
    obtain ⟨n, -, hn⟩ := List.mem_filterMap.mp hs
    obtain ⟨r, hr, rfl⟩ := Option.map_eq_some_iff.mp hn
    have hfound := List.find?_some hr
    simp only [decide_eq_true_eq] at hfound
    cases Table.eq_of_name (List.mem_of_find?_eq_some hr) hq hsname
    exact ⟨hfound.2, rfl⟩
  unfold rowHashIn storedContent
  cases hfind : (scanned sch t.parts names).reverse.find? (·.partName = q.name) with
  | some s =>
    have hs := List.mem_reverse.mp (List.mem_of_find?_eq_some hfind)
    obtain ⟨hne, hrow⟩ := hself s hs (by simpa using List.find?_some hfind)
    rw [if_neg hne]
    exact hrow
  | none =>
    by_cases hc : q.content = []
    · rw [if_pos hc]
      rfl
    · -- the scan has the part
      have hone : scanned sch t.parts [q.name] = [partScan sch q] :=
        scanned_active (List.forall_mem_singleton.mpr ⟨hq, hc⟩)
      have hmem : partScan sch q ∈ scanned sch t.parts [q.name] := hone ▸ List.mem_singleton_self _
      obtain ⟨n, hn, hscan⟩ := List.mem_filterMap.mp hmem
      rw [List.mem_singleton.mp hn] at hscan
      have hin : partScan sch q ∈ scanned sch t.parts names := List.mem_filterMap.mpr ⟨q.name, hname, hscan⟩
      exact absurd (decide_eq_true rfl) (List.find?_eq_none.mp hfind _ (List.mem_reverse.mpr hin))

/-! ## Programs that run alone -/

section Alone

variable {α β : Type} {p : RebuildM α} {f : α → RebuildM β} {Q : α → RebuildWorld → Prop}
  {Q' : β → RebuildWorld → Prop} {w w' : RebuildWorld}

/-- Nobody else works on the server. -/
def alone : Contract RebuildWorld := ⟨Eq, fun _ _ => True⟩

/-- If the program returns a value, then one in `Q`. -/
abbrev Ends (p : RebuildM α) (Q : α → RebuildWorld → Prop) : RebuildWorld → Prop :=
  wpE rebuildMachine alone p Q fun _ _ => True

theorem Ends.bind (h : Ends p Q w) (hf : ∀ a w, Q a w → Ends (f a) Q' w) : Ends (p >>= f) Q' w :=
  wpE_bind.mpr (wpE.mono h hf fun _ _ _ => trivial)

theorem Ends.mono {Q' : α → RebuildWorld → Prop} (h : Ends p Q w) (hQ : ∀ a w, Q a w → Q' a w) :
    Ends p Q' w :=
  wpE.mono h hQ fun _ _ _ => trivial

theorem ends_attempt (h : Ends p Q w) : Ends (attempt p) (fun r w' => ∀ a, r = .ok a → Q a w') w := by
  refine wpE_attempt.mpr (wpE.mono h (fun a w' hQ b hb => ?_) nofun)
  cases hb
  exact hQ

theorem ends_call {op : RebuildOp (Except Failure α)}
    (h : ∀ a r w', op.run a w = some (.ok r, w') → Q r w') : Ends (call op) Q w := by
  rintro _ rfl r w' ⟨a, hrun⟩
  refine ⟨trivial, ?_⟩
  cases r with
  | ok r => exact h a r w' hrun
  | error e => trivial

theorem ends_fromExcept {r : Except Failure α} (h : ∀ a, r = .ok a → Q a w) :
    Ends (fromExcept r) Q w := by
  cases r with
  | ok a => exact h a rfl
  | error e => trivial

omit [HouseGate] in
theorem RebuildAnswer.query_ok {a : RebuildAnswer} {r v : α} (h : a.query w v = some (.ok r, w')) :
    r = v ∧ w' = w := by
  unfold RebuildAnswer.query at h
  split at h <;> cases h
  exact ⟨rfl, rfl⟩

omit [HouseGate] in
theorem RebuildAnswer.queryOf_ok {a : RebuildAnswer} {r : α} {v : Option α}
    (h : a.queryOf w v = some (.ok r, w')) : v = some r ∧ w' = w := by
  unfold RebuildAnswer.queryOf at h
  split at h <;> cases h
  exact ⟨rfl, rfl⟩

/-- A loop of programs that keep `I`. -/
theorem ends_forM {I : RebuildWorld → Prop} {g : α → RebuildM Unit} {P : α → Prop} {l : List α}
    (h : ∀ a ∈ l, ∀ w, I w → Ends (g a) (fun _ w' => I w' ∧ P a) w) (hw : I w) :
    Ends (l.forM g) (fun _ w' => I w' ∧ ∀ a ∈ l, P a) w := by
  induction l generalizing w with
  | nil => exact ⟨hw, fun _ ha => absurd ha List.not_mem_nil⟩
  | cons a l ih =>
    obtain ⟨ha, hl⟩ := List.forall_mem_cons.mp h
    refine (ha w hw).bind fun _ w₁ h₁ => ?_
    exact (ih hl h₁.1).mono fun _ _ h => ⟨h.1, List.forall_mem_cons.mpr ⟨h₁.2, h.2⟩⟩

/-- Nothing is said of what the program does. -/
theorem ends_true (p : RebuildM α) : Ends p (fun _ _ => True) w := by
  have hp : ∀ (p : Prog RebuildOp (Except Failure α)) w, Ends p (fun _ _ => True) w := by
    intro p
    induction p with
    | ret r => exact fun _ => by cases r <;> trivial
    | exec op k ih => exact fun _ _ _ b w' _ => ⟨trivial, ih b w'⟩
  exact hp p w

/-! ## Reading hg_safe -/

theorem activeParts_ends (name : String) :
    Ends (call (.activeParts .hgSafe name))
      (fun parts w' => w' = w ∧ parts = listing (w.parts .hgSafe name)) w :=
  ends_call fun _ _ _ hrun => (RebuildAnswer.query_ok hrun).symm

omit [HouseGate] in
/-- The listing of a partition is that of its parts in some order. -/
theorem exists_listed (sch : TableSchema) (pid : String) (parts : List StoredPart) :
    ∃ qs : List StoredPart, qs.Perm (partitionOf sch pid parts) ∧
      partsInLogicalPartition (listing parts) sch pid = qs.map (·.info) := by
  obtain ⟨rs, hperm, hlist⟩ := listing_eq parts
  refine ⟨partitionOf sch pid rs, hperm.filter _, ?_⟩
  rw [hlist, partsInLogicalPartition, List.filter_map]
  rfl

theorem contentScan_ends {name pid : String} {sch : TableSchema} {qs : List StoredPart}
    (hqs : partsInLogicalPartition (listing (w.parts .hgSafe name)) sch pid = qs.map (·.info))
    (hne : qs ≠ []) :
    Ends (contentScan .hgSafe name sch pid)
      (fun scans w' => w' = w ∧ scans = scanned sch (w.parts .hgSafe name) (qs.map (·.name))) w := by
  refine (activeParts_ends name).bind fun parts w₁ h₁ => ?_
  obtain ⟨rfl, rfl⟩ := h₁
  have hnames : (qs.map (·.info)).map (·.name) = qs.map (·.name) := List.map_map ..
  dsimp only
  rw [hqs, hnames, if_neg (by simpa using hne)]
  refine Ends.bind (Q := fun scans w' => w' = w₁ ∧ scans = scanned sch (w₁.parts .hgSafe name)
    (qs.map (·.name))) (ends_call fun a r w₂ hrun => ?_) fun scans w₂ h₂ => ?_
  · obtain ⟨hscan, hw⟩ := RebuildAnswer.queryOf_ok hrun
    obtain ⟨t, ht, rfl⟩ := Option.map_eq_some_iff.mp hscan
    exact ⟨hw, by rw [RebuildWorld.parts, ht]; rfl⟩
  · obtain ⟨rfl, rfl⟩ := h₂
    exact Ends.bind (Q := fun _ w' => w' = w₂) (ends_fromExcept fun _ _ => rfl) fun _ w₃ h₃ => ⟨h₃, rfl⟩

/-- What is read of a partition is what hg_safe holds of it. -/
theorem localContent_ends (name pid : String) (sch : TableSchema) :
    Ends (localContent .hgSafe name sch pid) (fun found w' => w' = w ∧
      ∃ qs : List StoredPart, qs.Perm (partitionOf sch pid (w.parts .hgSafe name)) ∧
        found = qs.map fun q => (q.info, storedContent sch q)) w := by
  obtain ⟨qs, hperm, hqs⟩ := exists_listed sch pid (w.parts .hgSafe name)
  refine (activeParts_ends name).bind fun parts w₁ h₁ => ?_
  obtain ⟨rfl, rfl⟩ := h₁
  dsimp only
  rw [hqs]
  split
  · next hnil => exact ⟨rfl, [], List.map_eq_nil_iff.mp hnil ▸ hperm, rfl⟩
  next hne =>
  refine (contentScan_ends hqs fun h => hne (h ▸ rfl)).bind fun scans w₂ h₂ => ?_
  obtain ⟨rfl, rfl⟩ := h₂
  refine ⟨rfl, qs, hperm, ?_⟩
  rw [List.map_map]
  refine List.map_congr_left fun q hq => ?_
  have hmem := List.mem_of_mem_filter (hperm.mem_iff.mp hq)
  unfold RebuildWorld.parts at hmem ⊢
  cases ht : w₂.table .hgSafe name with
  | none =>
    rw [ht] at hmem
    cases hmem
  | some t =>
    rw [ht] at hmem
    exact congrArg (fun row => (q.info, (⟨row, q.physHash⟩ : PartContent)))
      (rowHashIn_scanned hmem (List.mem_map_of_mem hq))

/-- An inventory that was read from hg_safe, which holds the partition. -/
structure ReadFrom (w : RebuildWorld) (p : OwnedPartition) (inv : LocalState.RebuiltSafeInventory) :
    Prop where
  key : inv.key = p.key
  seq : inv.publishSeq = p.state.publishSeq
  parts : inv.parts.Perm (namedParts p.table.schema (safeParts w p))
  content : ((safeParts w p).map (storedContent p.table.schema)).Perm ((manifest p).map recordedContent)

/-- A partition that compares equal to its manifest gives an inventory. -/
theorem readFrom_of_subtract {p : OwnedPartition} {qs : List StoredPart}
    (hqs : qs.Perm (safeParts w p))
    (h : subtract (manifest p) ((qs.map fun q => (q.info, storedContent p.table.schema q)).map (·.2)) =
      some []) :
    ReadFrom w p ⟨p.table.tableID, p.state.partitionID, p.state.publishSeq,
      (qs.map fun q => (q.info, storedContent p.table.schema q)).map fun f => ⟨f.2.row, f.1.name, f.2.phys⟩⟩ := by
  have hcontent := subtract_perm h
  rw [List.map_map, List.map_nil, List.append_nil] at hcontent
  refine ⟨rfl, rfl, ?_, (hcontent.trans (hqs.map _)).symm⟩
  rw [List.map_map]
  exact hqs.map _

theorem readBack_ends (p : OwnedPartition) :
    Ends (readBack p) (fun inv w' => w' = w ∧ ReadFrom w p inv) w := by
  refine Ends.bind (wpE_mapError.mpr (localContent_ends _ _ _)) fun found w₁ h₁ => ?_
  obtain ⟨rfl, qs, hqs, rfl⟩ := h₁
  split
  · next h => exact ⟨rfl, readFrom_of_subtract hqs h⟩
  · trivial

variable {ps : List OwnedPartition} {invs : List LocalState.RebuiltSafeInventory}

theorem exists_read (h : List.Forall₂ (ReadFrom w) ps invs) {p : OwnedPartition} (hp : p ∈ ps) :
    ∃ inv ∈ invs, ReadFrom w p inv := by
  obtain ⟨i, hi, rfl⟩ := List.getElem_of_mem hp
  exact ⟨_, List.getElem_mem _, h.get hi (h.length_eq ▸ hi)⟩

theorem keys_read (h : List.Forall₂ (ReadFrom w) ps invs) :
    invs.map (·.key) = ps.map OwnedPartition.key := by
  induction h with
  | nil => rfl
  | cons hr _ ih => rw [List.map_cons, List.map_cons, hr.key, ih]

theorem readBack_ends_each (ps : List OwnedPartition) :
    Ends (ps.mapM' readBack) (fun invs w' => w' = w ∧ List.Forall₂ (ReadFrom w) ps invs) w := by
  induction ps with
  | nil => exact ⟨rfl, .nil⟩
  | cons p ps ih =>
    refine (readBack_ends p).bind fun inv w₁ h₁ => ?_
    obtain ⟨rfl, hinv⟩ := h₁
    exact ih.bind fun invs w₂ h₂ => ⟨h₂.1, .cons hinv h₂.2⟩

theorem currentInventories_ends (ps : List OwnedPartition) :
    Ends (currentInventories ps) (fun r w' => ∀ invs, r = some invs →
      w' = w ∧ List.Forall₂ (ReadFrom w) ps invs) w := by
  induction ps with
  | nil =>
    intro invs hinvs
    cases hinvs
    exact ⟨rfl, .nil⟩
  | cons p ps ih =>
    refine (localContent_ends _ _ _).bind fun found w₁ h₁ => ?_
    obtain ⟨rfl, qs, hqs, rfl⟩ := h₁
    split
    · exact nofun
    next hsub =>
    refine ih.bind fun rest w₂ h₂ invs hinvs => ?_
    obtain ⟨invs', rfl, rfl⟩ := Option.map_eq_some_iff.mp hinvs
    obtain ⟨rfl, hrest⟩ := h₂ invs' rfl
    exact ⟨rfl, .cons (readFrom_of_subtract hqs (not_not.mp hsub)) hrest⟩

omit [HouseGate] in
theorem mem_of_partitionSet {ids held : List String} {g : String → Failure} {u : Unit}
    (h : (Install.Gate.partitionSet ids held).mapError g = .ok u) (x : String) : x ∈ ids ↔ x ∈ held := by
  unfold Install.Gate.partitionSet at h
  dsimp only at h
  split at h
  · cases h
  next heq =>
  rw [← GoSlice.mem_sortCompact, not_not.mp heq, GoSlice.mem_sortCompact]

theorem checkPartitionSet_ends (partitions : List OwnedPartition) (t : OwnedTable) :
    Ends (checkPartitionSet partitions t) (fun _ w' => w' = w ∧ PartitionsOf w partitions t) w := by
  refine Ends.bind (wpE_mapError.mpr (activeParts_ends t.physical)) fun parts w₁ h₁ => ?_
  obtain ⟨rfl, rfl⟩ := h₁
  refine ends_fromExcept fun _ hset => ⟨rfl, fun pid => ?_⟩
  have hsame := mem_of_partitionSet hset pid
  simp only [List.mem_map, List.mem_filter, decide_eq_true_eq, (listing_perm _).mem_iff,
    exists_exists_and_eq_and, and_assoc] at hsame
  exact hsame.symm

theorem tablesComplete_ends (partitions : List OwnedPartition) (tables : List OwnedTable) :
    Ends (tablesComplete partitions tables)
      (fun r w' => r = true → w' = w ∧ ∀ t ∈ tables, PartitionsOf w partitions t) w := by
  induction tables with
  | nil => exact fun _ => ⟨rfl, fun _ ht => absurd ht List.not_mem_nil⟩
  | cons t ts ih =>
    refine Ends.bind (Q := fun _ w' => w' = w)
      (ends_call fun _ _ _ hrun => (RebuildAnswer.query_ok hrun).2) fun found w₁ h₁ => ?_
    subst h₁
    split
    · exact nofun
    refine (ends_attempt (checkPartitionSet_ends partitions t)).bind fun r w₂ h₂ => ?_
    split
    · exact nofun
    obtain ⟨rfl, hset⟩ := h₂ _ rfl
    exact ih.mono fun _ _ h hr => ⟨(h hr).1, List.forall_mem_cons.mpr ⟨hset, (h hr).2⟩⟩

/-! ## The journal -/

theorem ReadFrom.restored {p : OwnedPartition} {inv : LocalState.RebuiltSafeInventory}
    (h : ReadFrom w p inv) (hj : journalHolds w.journal true inv = true) : Restored w p := by
  refine ⟨h.content, ?_⟩
  unfold journalHolds at hj
  split at hj
  · cases hj
  next got hgot =>
  simp only [Bool.not_true, Bool.false_or, Bool.and_eq_true, beq_iff_eq, List.isPerm_iff] at hj
  exact ⟨got, h.key ▸ hgot, hj.1.1, hj.1.2.trans h.seq, hj.2.trans h.parts⟩

/-- The journal takes the inventories, under distinct keys. -/
theorem recordInventories_ends (hread : List.Forall₂ (ReadFrom w) ps invs) (hkeys : (ps.map OwnedPartition.key).Nodup) :
    Ends (call (.recordInventories invs)) (fun _ w' => w'.tables = w.tables ∧ ∀ p ∈ ps, Restored w' p) w := by
  refine ends_call fun a _ w' hrun => ?_
  simp only [RebuildOp.run] at hrun
  split at hrun
  · cases hrun
  next next hnext =>
  simp only [LocalState.recordRebuiltSafeInventories, Except.bind_eq_ok, Except.pure_eq_ok] at hnext
  obtain ⟨_, -, rfl⟩ := hnext
  simp only [RebuildAnswer.statement] at hrun
  split at hrun <;> cases hrun
  next heq =>
  cases heq
  refine ⟨rfl, fun p hp => ?_⟩
  obtain ⟨inv, hinv, hr⟩ := exists_read hread hp
  refine @ReadFrom.restored _ _ p inv ⟨hr.key, hr.seq, hr.parts, hr.content⟩ ?_
  have hlook := GoMap.lookup_foldl_insert_of_nodup (m := w.journal.ackedSafeInventories)
    (g := fun inv : LocalState.RebuiltSafeInventory => AckedSafeInventory.mk inv.publishSeq inv.parts true)
    (keys_read hread ▸ hkeys) hinv
  simp [journalHolds, hlook, List.isPerm_iff]

/-! ## Distinct partitions -/

/-- The order of the keys. -/
def sortKey (k : PartitionKey) : Lex (String × String) := toLex (k.table, k.partition)

omit [HouseGate] in
theorem le_iff_sortKey (a b : OwnedPartition) : a.le b ↔ sortKey a.key ≤ sortKey b.key := by
  rw [sortKey, sortKey, Prod.Lex.toLex_le_toLex]
  rfl

omit [HouseGate] in
theorem compactFrom_keys (a : OwnedPartition) (l : List OwnedPartition) :
    (compactFrom a l).map (sortKey ·.key) = GoSlice.compact ((a :: l).map (sortKey ·.key)) := by
  induction l generalizing a with
  | nil => rfl
  | cons b l ih =>
    have hkey : sortKey a.key = sortKey b.key ↔
        a.table.tableID = b.table.tableID ∧ a.state.partitionID = b.state.partitionID := by
      simp [sortKey, OwnedPartition.key]
    simp only [compactFrom, List.map_cons, GoSlice.compact, hkey]
    split
    · next h => rw [ih, List.map_cons, hkey.mpr h]
    · rw [List.map_cons, ih, List.map_cons]

omit [HouseGate] in
theorem ownedPartitions_nodup (tables : List OwnedTable) (states : List (List PartitionState)) :
    ((ownedPartitions tables states).map OwnedPartition.key).Nodup := by
  refine List.Nodup.of_map sortKey ?_
  rw [List.map_map]
  unfold ownedPartitions
  generalize states.flatten.filterMap _ = l
  have hsort : (l.insertionSort OwnedPartition.le).map (sortKey ·.key) =
      (l.map (sortKey ·.key)).insertionSort (· ≤ ·) :=
    List.map_insertionSort _ _ _ _ fun a _ b _ => le_iff_sortKey a b
  have hcompact : ∀ l, (compactPartitions l).map (sortKey ·.key) = GoSlice.compact (l.map (sortKey ·.key)) := by
    rintro (_ | ⟨a, l⟩)
    · rfl
    · exact compactFrom_keys a l
  have hkeys := GoSlice.sortCompact_sorted (l.map (sortKey ·.key))
  rw [GoSlice.sortCompact, ← hsort, ← hcompact] at hkeys
  exact hkeys.imp ne_of_lt

/-! ## The program -/

variable {cfg : Config} {inp : Inputs} {store : Option ObjectStore} {tables : List OwnedTable}
  {partitions : List OwnedPartition}

/-- Everything that the arbiter has of the tables is restored. -/
structure AllRestored (tables : List OwnedTable) (partitions : List OwnedPartition) (w : RebuildWorld) :
    Prop where
  parts : ∀ p ∈ partitions, Restored w p
  sets : ∀ t ∈ tables, PartitionsOf w partitions t

theorem dropScratches_ends :
    Ends dropScratches (fun _ w' => w'.parts .hgSafe = w.parts .hgSafe) w := by
  refine Ends.bind (Q := fun _ w' => w' = w) (wpE_mapError.mpr (ends_call fun _ _ _ hrun =>
    (RebuildAnswer.query_ok hrun).2)) fun names w₁ h₁ => ?_
  subst h₁
  refine (ends_forM (I := fun w' => w'.parts .hgSafe = w₁.parts .hgSafe) (P := fun _ => True)
    (fun n _ w hw => wpE_mapError.mpr (ends_call fun a _ w' hrun => ⟨?_, trivial⟩)) rfl).mono
    fun _ _ h => h.1
  obtain rfl | hnext := RebuildAnswer.statement_world hrun
  · exact hw
  rw [← hw]
  cases hnext
  unfold RebuildWorld.tableDropped
  split
  · rfl
  funext name
  change ((w.tables.erase _).lookup _ |>.map _).getD [] = _
  rw [GoMap.lookup_erase, if_neg (by simp)]
  rfl

theorem alreadyRebuilt_ends (journaled : List Bool) :
    Ends (alreadyRebuilt tables partitions journaled)
      (fun r w' => r = true → AllRestored tables partitions w') w := by
  unfold alreadyRebuilt
  split
  · exact nofun
  refine (tablesComplete_ends partitions tables).bind fun complete w₁ h₁ => ?_
  split
  · next hcomplete =>
    obtain ⟨rfl, hsets⟩ := h₁ hcomplete
    refine (currentInventories_ends partitions).bind fun current w₂ h₂ => ?_
    split
    · exact nofun
    next invs =>
    obtain ⟨rfl, hread⟩ := h₂ invs rfl
    refine Ends.bind (Q := fun named w' => w' = w₂ ∧ named = invs.map (journalHolds w₂.journal true))
      (ends_call fun a named w₃ hrun => ?_) fun named w₃ h₃ hnamed => ?_
    · simp only [RebuildOp.run] at hrun
      split at hrun
      · cases hrun
      · exact (RebuildAnswer.query_ok hrun).symm
    obtain ⟨rfl, rfl⟩ := h₃
    refine ⟨fun p hp => ?_, hsets⟩
    obtain ⟨inv, hinv, hr⟩ := exists_read hread hp
    refine hr.restored (Bool.eq_true_of_not_eq_false fun hmissing => ?_)
    exact of_decide_eq_true hnamed (List.mem_map.mpr ⟨inv, hinv, hmissing⟩)
  · exact nofun

/-- The last steps compare all of hg_safe with the arbiter's state, and journal it. -/
theorem rebuildTables_ends (hkeys : (partitions.map OwnedPartition.key).Nodup) :
    Ends (rebuildTables cfg store tables partitions) (fun _ w' => AllRestored tables partitions w') w := by
  refine (ends_true _).bind fun held w _ => (ends_true _).bind fun fenced w _ => ?_
  refine (ends_true _).bind fun _ w _ => (ends_true _).bind fun _ w _ => ?_
  refine (ends_true _).bind fun _ w _ => (ends_true _).bind fun plans w _ => ?_
  refine (ends_true _).bind fun _ w _ => (ends_true _).bind fun _ w _ => ?_
  refine (ends_forM (I := (· = w)) (P := PartitionsOf w partitions) (fun t _ w₁ hw => ?_) rfl).bind
    fun _ w₁ h₁ => ?_
  · subst hw
    exact checkPartitionSet_ends partitions t
  obtain ⟨rfl, hsets⟩ := h₁
  refine dropScratches_ends.bind fun _ w₂ hsafe => ?_
  refine (readBack_ends_each partitions).bind fun invs w₃ h₃ => ?_
  obtain ⟨rfl, hread⟩ := h₃
  refine Ends.bind (wpE_mapError.mpr (recordInventories_ends hread hkeys)) fun _ w₄ h₄ => ?_
  refine ⟨h₄.2, fun t ht pid => ?_⟩
  have hparts : w₄.parts .hgSafe = w₁.parts .hgSafe := by
    rw [← hsafe]
    funext name
    rw [RebuildWorld.parts, RebuildWorld.table, h₄.1]
    rfl
  rw [hparts]
  exact hsets t ht pid

theorem rebuild_ends (hlive : cfg.dryRun = false) :
    Ends (rebuild cfg inp store) (fun _ w' => ∃ tables, ownedTables cfg inp = .ok tables ∧
      AllRestored tables (ownedPartitions tables inp.states) w') w := by
  refine (ends_true _).bind fun _ w _ => ?_
  refine Ends.bind (Q := fun tables _ => ownedTables cfg inp = .ok tables)
    (ends_fromExcept fun _ h => h) fun tables w htables => ?_
  refine (ends_true _).bind fun journaled w _ => ?_
  rw [hlive, if_neg Bool.false_ne_true]
  refine (alreadyRebuilt_ends journaled).bind fun already w hdone => ?_
  split
  · next h => exact ⟨tables, htables, hdone h⟩
  · exact (rebuildTables_ends (ownedPartitions_nodup _ _)).mono fun _ _ h => ⟨tables, htables, h⟩

end Alone

/-! ## Runs -/

/-- A table with one part, which is in hg_unsafe only. -/
def onePartition : Inputs :=
  { oneTable "b" with states := [[⟨"a.b", "all", "0x1", 1, [⟨"s1", "0x1", "f1"⟩]⟩]] }

/-- A new server; the journal survived. -/
def lostServer : RebuildWorld :=
  { promoteTables [] with journal := { newLocalState with watermarks := GoMap.empty.insert ⟨"a.b", "all"⟩ 1 } }

/-- The part comes back from hg_unsafe under the name `s2`. -/
def fromUnsafe : List RebuildAnswer :=
  let steps (n : Nat) : List RebuildAnswer := List.replicate n {}
  let landed : RebuildAnswer := { landed := [⟨"u1", "all", "", "f1", "", 1, [⟨"r1", "a"⟩]⟩] }
  steps 1 ++ { found := false } :: steps 13 ++ landed :: steps 1 ++ landed :: steps 2 ++
    { names := ["s2"] } :: steps 10

/-- A rebuild that is no dry run and returns a report has restored everything that the arbiter
    has of the owned tables: each partition with its content, no other partition, and the
    part names in the journal. -/
theorem rebuild_restores (cfg : Config) (inp : Inputs) (store : Option ObjectStore)
    (hlive : cfg.dryRun = false) {cs : List RebuildAnswer} {report : Report} {w w' : RebuildWorld}
    (hrun : rebuildMachine.replay (rebuild cfg inp store) cs w = some (.ret (.ok report), w')) :
    ∃ tables, ownedTables cfg inp = .ok tables ∧
      AllRestored tables (ownedPartitions tables inp.states) w' :=
  wp.runs (C := alone) (fun _ => rfl) (fun _ _ _ => Eq.trans) (fun _ _ _ h hQ => h ▸ hQ)
    (rebuild_ends hlive) (Runs.replay .refl hrun)

open SmallNode in
omit [HouseGate] in
/-- The lost part is restored, and nothing else. -/
theorem rebuild_restores_one_part : letI := gate
    ∃ report w' tables, rebuildMachine.replay (rebuild lostIndexer onePartition none) fromUnsafe lostServer =
        some (.ret (.ok report), w') ∧
      ownedTables lostIndexer onePartition = .ok tables ∧
      (ownedPartitions tables onePartition.states).map (·.key) = [⟨"a.b", "all"⟩] ∧
      AllRestored tables (ownedPartitions tables onePartition.states) w' := by
  let _ := gate
  have hends : (rebuildMachine.replay (rebuild lostIndexer onePartition none) fromUnsafe lostServer).map
      (·.1.casesOn (motive := fun _ => Bool) Except.isOk fun _ _ => false) = some true := by decide +kernel
  obtain ⟨⟨p, w'⟩, hrun, hret⟩ := Option.map_eq_some_iff.mp hends
  obtain (e | report) | _ := p
  · cases hret
  · obtain ⟨tables, htables, hall⟩ := rebuild_restores lostIndexer onePartition none rfl hrun
    cases htables
    exact ⟨report, w', _, hrun, rfl, by decide, hall⟩
  · cases hret

end ArbiterCore.Rebuild
