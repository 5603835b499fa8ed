-- SUMMARY: What listings, scans and copies of a table's parts say about its content.
import ArbiterCore.SNode.Promote

/-!
# Listings, scans and copies

A scan of the names that a listing gave computes the content root of the
partition, whatever happened to other partitions in between. ATTACH and REPLACE
copy parts under new names and keep everything else.
-/

namespace ArbiterCore

/-! ## Listings -/

variable (parts : List StoredPart)

theorem listing_perm : (listing parts).Perm (parts.map (·.info)) :=
  List.perm_insertionSort _ _

theorem listing_eq :
    ∃ qs : List StoredPart, qs.Perm parts ∧ listing parts = qs.map (·.info) :=
  ⟨parts.insertionSort (fun p q => p.name ≤ q.name), List.perm_insertionSort _ _,
    (List.map_insertionSort (fun p q : StoredPart => p.name ≤ q.name)
      (fun p q : Part => p.name ≤ q.name) StoredPart.info parts fun _ _ _ _ => Iff.rfl).symm⟩

/-- The names that the listing of a partition gives. -/
theorem partition_names_perm (sch : TableSchema) (pid : String) :
    ((partsInLogicalPartition (listing parts) sch pid).map (·.name)).Perm
      ((partitionOf sch pid parts).map (·.name)) := by
  have h := ((listing_perm parts).filter (logicalPartitionID sch · = pid)).map (·.name)
  rwa [List.filter_map, List.map_map] at h

/-! ## Scans -/

variable {ps : List StoredPart} {t : Table}

section Scans

variable [HouseGate] {sch : TableSchema} {pid : String}

/-- The hash that a scan finds under a name; zero when it finds nothing. -/
private def scanHash (sch : TableSchema) (parts : List StoredPart) (n : String) : LtHash.Acc :=
  match parts.find? fun p => p.name = n ∧ p.content ≠ [] with
  | some p => partHash sch p
  | none => 0

private theorem sumOf_scanned (parts : List StoredPart) (names : List String) :
    sumOf ((scanned sch parts names).map (·.rowLtHash)) =
      (names.map (scanHash sch parts)).sum := by
  induction names with
  | nil => rfl
  | cons n ns ih =>
    simp only [scanned, List.filterMap_cons, List.map_cons, List.sum_cons, scanHash] at ih ⊢
    cases hf : parts.find? fun p => p.name = n ∧ p.content ≠ [] with
    | none => simpa [scanHash] using ih
    | some p =>
      simp only [Option.map_some, List.map_cons, sumOf_cons, accOf_accumulatorHex]
      rw [ih]

private theorem scanHash_of_mem {p : StoredPart} (hp : p ∈ t.parts) :
    scanHash sch t.parts p.name = partHash sch p := by
  simp only [scanHash]
  cases hf : t.parts.find? fun q => q.name = p.name ∧ q.content ≠ [] with
  | some q =>
    have hq := List.find?_some hf
    simp only [decide_eq_true_eq] at hq
    rw [Table.eq_of_name (List.mem_of_find?_eq_some hf) hp hq.1]
  | none =>
    have hnone := List.find?_eq_none.mp hf p hp
    simp only [true_and, decide_eq_true_eq, not_not] at hnone
    simp [partHash, hnone]

/-- The scan of a partition under the names of an earlier listing sums up to the
    partition's content root, if the partition did not change in between. -/
theorem scan_contentRoot {t₁ : Table}
    (hsame : partitionOf sch pid t₁.parts = partitionOf sch pid t.parts) {names : List String}
    (hnames : names.Perm ((partitionOf sch pid t₁.parts).map (·.name))) :
    sumOf ((scanned sch t.parts names).map (·.rowLtHash)) =
      contentRoot sch (partitionOf sch pid t.parts) := by
  rw [sumOf_scanned, (hnames.map (scanHash sch t.parts)).sum_eq, hsame, List.map_map]
  have hmem : ∀ p ∈ partitionOf sch pid t.parts,
      (scanHash sch t.parts ∘ (·.name)) p = partHash sch p :=
    fun p hp => scanHash_of_mem (List.mem_of_mem_filter hp)
  rw [List.map_congr_left hmem]
  rfl

/-- The scan of an active part. -/
def partScan (sch : TableSchema) (p : StoredPart) : PartScanResult :=
  ⟨p.name, accumulatorHex (partHash sch p), p.content.length⟩

theorem scanned_active (h : ∀ p ∈ ps, p ∈ t.parts ∧ p.content ≠ []) :
    scanned sch t.parts (ps.map (·.name)) = ps.map (partScan sch) := by
  unfold scanned
  rw [List.filterMap_map, ← List.filterMap_eq_map]
  refine List.filterMap_congr fun p hp => ?_
  obtain ⟨hact, hne⟩ := h p hp
  have hfind : t.parts.find? (fun q => q.name = p.name ∧ q.content ≠ []) = some p := by
    cases hf : t.parts.find? fun q => q.name = p.name ∧ q.content ≠ [] with
    | none =>
      have := List.find?_eq_none.mp hf p hact
      simp [hne] at this
    | some q =>
      have hq := List.find?_some hf
      simp only [decide_eq_true_eq] at hq
      rw [Table.eq_of_name (List.mem_of_find?_eq_some hf) hact hq.1]
  simp only [Function.comp_apply, hfind, Option.map_some, partScan]

end Scans

/-! ## Copies -/

/-- The parts `new` are the parts `parts` under other names. -/
def CopyOf (new parts : List StoredPart) : Prop :=
  new.map ({ · with name := "" }) = parts.map ({ · with name := "" })

variable {new parts : List StoredPart}

/-- A copy agrees with the original in everything but the names. -/
theorem CopyOf.map {β : Type} (h : CopyOf new parts) (f : StoredPart → β)
    (hf : ∀ (p : StoredPart) n, f { p with name := n } = f p) : new.map f = parts.map f := by
  have hfactor : ∀ l : List StoredPart, l.map f = (l.map ({ · with name := "" })).map f := by
    intro l
    rw [List.map_map]
    exact List.map_congr_left fun p _ => (hf p "").symm
  rw [hfactor new, hfactor parts, show new.map _ = _ from h]

theorem copyOf_zipWith : ∀ {parts : List StoredPart} {names : List String},
    names.length = parts.length →
      CopyOf (List.zipWith (fun p n => { p with name := n }) parts names) parts
  | [], [], _ => rfl
  | p :: ps, n :: ns, h => by
    have ih : CopyOf _ ps := copyOf_zipWith (Nat.succ.inj h)
    simp only [CopyOf, List.zipWith_cons_cons, List.map_cons] at ih ⊢
    rw [ih]

theorem copyOf_renamed {names : List String} (h : renamed parts t names = some new) : CopyOf new parts := by
  simp only [renamed] at h
  split at h
  · next hlen =>
    cases h
    exact copyOf_zipWith hlen.1
  · cases h

theorem CopyOf.contentRoot [HouseGate] {sch : TableSchema} (h : CopyOf new parts) :
    contentRoot sch new = contentRoot sch parts := by
  rw [ArbiterCore.contentRoot, ArbiterCore.contentRoot, h.map (partHash sch) fun _ _ => rfl]

section Partitions

variable {sch : TableSchema} {pid pid' : String}

@[simp] theorem partitionOf_append (ps qs : List StoredPart) :
    partitionOf sch pid (ps ++ qs) = partitionOf sch pid ps ++ partitionOf sch pid qs :=
  List.filter_append ..

/-- All parts are in the partition `pid`. -/
def AllIn (sch : TableSchema) (pid : String) (ps : List StoredPart) : Prop :=
  ∀ p ∈ ps, p.partition sch = pid

theorem AllIn.partitionOf_self (h : AllIn sch pid ps) : partitionOf sch pid ps = ps :=
  List.filter_eq_self.mpr fun p hp => by simpa using h p hp

theorem AllIn.partitionOf_ne (h : AllIn sch pid ps) (hne : pid' ≠ pid) :
    partitionOf sch pid' ps = [] :=
  List.filter_eq_nil_iff.mpr fun p hp => by simpa [h p hp] using hne.symm

theorem allIn_partitionOf (ps : List StoredPart) : AllIn sch pid (partitionOf sch pid ps) :=
  fun p hp => by simpa using List.of_mem_filter hp

theorem CopyOf.allIn (h : CopyOf new parts) (hp : AllIn sch pid parts) : AllIn sch pid new := by
  have hmap := h.map (·.partition sch) fun _ _ => rfl
  intro p hpn
  have : p.partition sch ∈ parts.map (·.partition sch) := hmap ▸ List.mem_map_of_mem hpn
  obtain ⟨q, hq, hqp⟩ := List.mem_map.mp this
  rw [← hqp, hp q hq]

theorem partitionOf_filter_ne (ps : List StoredPart) :
    partitionOf sch pid (ps.filter (·.partition sch ≠ pid)) = [] := by
  simp [partitionOf, List.filter_filter]

theorem partitionOf_filter_of_ne (hne : pid' ≠ pid) (ps : List StoredPart) :
    partitionOf sch pid' (ps.filter (·.partition sch ≠ pid)) = partitionOf sch pid' ps := by
  rw [partitionOf, List.filter_filter, partitionOf]
  refine List.filter_congr fun p _ => ?_
  by_cases h : p.partition sch = pid'
  · simp [h, hne]
  · simp [h]

end Partitions

end ArbiterCore
