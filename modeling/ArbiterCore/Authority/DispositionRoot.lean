-- SUMMARY: The root of an artifact disposition command survives the wire and identifies its projection.
import ArbiterCore.Authority.Disposition

/-!
# Roots of artifact disposition commands

The sender hashes its own record and the receiver the decoded one, in which some
nil lists have become empty and some empty lists nil. The check for nil lists lets
through exactly those for which the JSON does not see the difference.
-/

namespace ArbiterCore.Wire

open Function (Injective)
open GoSlice (Slice)
open Json

/-! ## The JSON determines the record -/

theorem SnapshotPin.json_inj : Injective SnapshotPin.json := by
  rintro ⟨⟩ ⟨⟩ h
  simpa using object_inj h rfl rfl

theorem PartitionCommitment.json_inj : Injective PartitionCommitment.json := by
  rintro ⟨⟩ ⟨⟩ h
  simpa using object_inj h rfl rfl

theorem ExecutorProfileTransition.json_inj : Injective ExecutorProfileTransition.json := by
  rintro ⟨⟩ ⟨⟩ h
  simpa [ActiveQueryPolicy.json_inj.eq_iff] using object_inj h rfl rfl

theorem ExecutorProfileTransitionReceipt.json_inj :
    Injective ExecutorProfileTransitionReceipt.json := by
  rintro ⟨⟩ ⟨⟩ h
  simpa using object_inj h rfl rfl

theorem SnapshotArtifactReady.json_inj : Injective SnapshotArtifactReady.json := by
  rintro ⟨⟩ ⟨⟩ h
  simpa using object_inj h rfl rfl

theorem SnapshotArtifactReadySubmission.json_inj :
    Injective SnapshotArtifactReadySubmission.json := by
  rintro ⟨⟩ ⟨⟩ h
  simpa [SnapshotArtifactReady.json_inj.eq_iff] using object_inj h rfl rfl

theorem ArtifactDispositionPolicyV1.json_inj : Injective ArtifactDispositionPolicyV1.json := by
  rintro ⟨⟩ ⟨⟩ h
  simpa [Field.list_inj str_inj] using object_inj h rfl rfl

theorem ArtifactDispositionOriginV1.json_inj : Injective ArtifactDispositionOriginV1.json := by
  rintro ⟨⟩ ⟨⟩ h
  simpa using object_inj h rfl rfl

theorem ArtifactDispositionUseV1.json_inj : Injective ArtifactDispositionUseV1.json := by
  rintro ⟨⟩ ⟨⟩ h
  simpa [SnapshotPin.json_inj.eq_iff, ArtifactDispositionOriginV1.json_inj.eq_iff] using object_inj h rfl rfl

theorem ArtifactDispositionRetirementTargetV1.json_inj :
    Injective ArtifactDispositionRetirementTargetV1.json := by
  rintro ⟨⟩ ⟨⟩ h
  simpa [SnapshotPin.json_inj.eq_iff] using object_inj h rfl rfl

/-! ## Projections

What the JSON leaves out is nil, and the lists that it makes arrays are not. -/

def PartManifestEntry.project (v : PartManifestEntry) : PartManifestEntry := { v with storageRefs := none }

def TableManifest.project (v : TableManifest) : TableManifest :=
  { v with
    partitionRoots := snapshotClone v.partitionRoots
    activeParts := snapshotMap PartManifestEntry.project v.activeParts }

def SafeSnapshotManifest.project (v : SafeSnapshotManifest) : SafeSnapshotManifest :=
  { v with
    tables := snapshotMap TableManifest.project v.tables
    trackFrontiers := none }

/-- The affected parts are not nil in a command that has a root. -/
def SnapshotQueryAttestation.project (v : SnapshotQueryAttestation) : SnapshotQueryAttestation :=
  { v with receipt := { v.receipt with
      affectedParts := snapshotMap PartManifestEntry.project v.receipt.affectedParts } }

def DispositionField.project : (f : DispositionField) → f.Payload → f.Payload
  | .registerCandidate, v => { v with manifest := v.manifest.project }
  | .publishCandidate, v => { v with manifest := v.manifest.project }
  | .openChallenge, v => { v with attestation := v.attestation.project }
  | _, v => v

def ArtifactDispositionCommandV1.project (v : ArtifactDispositionCommandV1) : ArtifactDispositionCommandV1 :=
  { v with action := fun f => (v.action f).map f.project }

/-- Two lists have the same array when their elements have the same projections. -/
theorem arr_map_eq_iff {α β : Type} {enc : α → Json} {p : α → β}
    (h : ∀ a b, enc a = enc b ↔ p a = p b) {s t : Slice α} :
    Json.arr (s.elems.map enc) = .arr (t.elems.map enc) ↔ snapshotMap p s = snapshotMap p t := by
  simp only [arr.injEq, snapshotMap, Option.some.injEq]
  generalize s.elems = l
  generalize t.elems = l'
  induction l generalizing l' with
  | nil => cases l' <;> simp
  | cons a l ih =>
    cases l' with
    | nil => simp
    | cons b l' => simp [h a b, ih]

theorem canonicalPart_eq_iff (a b : PartManifestEntry) :
    canonicalPart a = canonicalPart b ↔ a.project = b.project := by
  refine ⟨fun h => ?_, congrArg canonicalPart⟩
  simpa [PartManifestEntry.project] using object_inj h rfl rfl

theorem canonicalTable_eq_iff (a b : TableManifest) :
    canonicalTable a = canonicalTable b ↔ a.project = b.project := by
  have hroots := arr_map_eq_iff (p := fun c : PartitionCommitment => c)
    (fun _ _ => PartitionCommitment.json_inj.eq_iff) (s := a.partitionRoots) (t := b.partitionRoots)
  have hparts := arr_map_eq_iff canonicalPart_eq_iff (s := a.activeParts) (t := b.activeParts)
  constructor
  · intro h
    simpa [TableManifest.project, hroots, hparts] using object_inj h rfl rfl
  intro h
  simp only [TableManifest.project, TableManifest.mk.injEq, ← hparts] at h
  rw [← snapshotMap_id, ← snapshotMap_id, ← hroots] at h
  simp only [canonicalTable, h]

theorem canonicalManifest_eq_iff (a b : SafeSnapshotManifest) :
    canonicalManifest a = canonicalManifest b ↔ a.project = b.project := by
  have htables := arr_map_eq_iff canonicalTable_eq_iff (s := a.tables) (t := b.tables)
  constructor
  · intro h
    simpa [SafeSnapshotManifest.project, htables] using object_inj h rfl rfl
  · intro h
    simp only [SafeSnapshotManifest.project, SafeSnapshotManifest.mk.injEq, ← htables] at h
    simp only [canonicalManifest, h]

theorem canonicalAttestation_eq_iff (a b : SnapshotQueryAttestation) :
    canonicalAttestation a = canonicalAttestation b ↔ a.project = b.project := by
  have hparts := arr_map_eq_iff canonicalPart_eq_iff (s := a.receipt.affectedParts)
    (t := b.receipt.affectedParts)
  constructor
  · intro h
    have houter := object_inj h rfl rfl
    simp only [List.cons.injEq, Field.text_inj, Field.nested_inj, and_true] at houter
    obtain ⟨hreplica, hreceipt, hhash, hsignature⟩ := houter
    have hinner := object_inj hreceipt rfl rfl
    simp only [List.cons.injEq, Field.nested_inj, SnapshotPin.json_inj.eq_iff, hparts,
      Field.list_inj PartitionCommitment.json_inj] at hinner
    simpa [SnapshotQueryAttestation.project, hreplica, hhash, hsignature] using hinner
  · intro h
    simp only [SnapshotQueryAttestation.project, SnapshotQueryAttestation.mk.injEq,
      SnapshotQueryReceipt.mk.injEq, ← hparts] at h
    simp only [canonicalAttestation, canonicalReceipt, h]

/-- The JSON of an action determines its projection, and nothing else. -/
theorem DispositionField.json_eq_iff (f : DispositionField) (x y : f.Payload) :
    f.json x = f.json y ↔ f.project x = f.project y := by
  cases f
  all_goals
    cases x
    cases y
    simp only [DispositionField.json, DispositionField.project]
  case beginRetirement => exact ArtifactDispositionRetirementTargetV1.json_inj.eq_iff
  case finishRetirement => exact ArtifactDispositionRetirementTargetV1.json_inj.eq_iff
  all_goals
    refine ⟨fun h => ?_, fun h => ?_⟩
    · have hfields := object_inj h rfl rfl
      simpa [ArtifactDispositionPolicyV1.json_inj.eq_iff, SnapshotPin.json_inj.eq_iff,
        ArtifactDispositionOriginV1.json_inj.eq_iff, ArtifactDispositionUseV1.json_inj.eq_iff,
        SnapshotArtifactReadySubmission.json_inj.eq_iff, ExecutorProfileTransition.json_inj.eq_iff,
        Field.list_inj ExecutorProfileTransitionReceipt.json_inj, canonicalManifest_eq_iff,
        canonicalAttestation_eq_iff] using hfields
    · simp_all [← canonicalManifest_eq_iff, ← canonicalAttestation_eq_iff]

/-! ## Commands -/

theorem DispositionField.name_inj {f g : DispositionField} (h : f.name = g.name) : f = g :=
  Option.some.inj (by rw [← ofName_name f, h, ofName_name])

theorem ArtifactDispositionActionV1.json_only (f : DispositionField) (x : f.Payload) :
    ArtifactDispositionActionV1.json (.only f x) = object [.nested f.name (f.json x)] := by
  cases f <;> rfl

section Arrays

attribute [local simp] WalkedArray.refused canonicalProjectionOmits canonicalProjectionMaterializes

@[simp] theorem PartManifestEntry.arrays_pass (v : PartManifestEntry) :
    v.arrays.any WalkedArray.refused = false := by simp [arrays]

@[simp] theorem TableManifest.arrays_pass (v : TableManifest) :
    v.arrays.any WalkedArray.refused = false := by simp [arrays]

@[simp] theorem SafeSnapshotManifest.arrays_pass (v : SafeSnapshotManifest) :
    v.arrays.any WalkedArray.refused = false := by simp [arrays]

/-- The lists that must not be nil. -/
theorem DispositionField.arrays_pass (f : DispositionField) (x : f.Payload) :
    (f.arrays x).any WalkedArray.refused = false ↔ match f, x with
      | .bindPolicy, v => v.policy.administratorAddresses.isSome = true
      | .publishCandidate, v => v.transitionReceipts.isSome = true
      | .openChallenge, v => v.attestation.receipt.partitionCommitmentsAfter.isSome = true ∧
          v.attestation.receipt.affectedParts.isSome = true
      | _, _ => True := by
  cases f <;> simp [arrays, SnapshotQueryReceipt.arrays, Option.isSome_iff_ne_none]

end Arrays

/-- A command has a root when it has one action, whose lists are not nil. -/
theorem checkArtifactDispositionCommand_eq_ok {c : ArtifactDispositionCommandV1} {u : Unit} :
    checkArtifactDispositionCommand c = .ok u ↔
      ∃ f x, c.action = .only f x ∧ (f.arrays x).any WalkedArray.refused = false := by
  have hcount : requireSingleDispositionAction c.action = .ok () ↔ ∃ f x, c.action = .only f x := by
    rw [← GoUnion.count_eq_one_iff DispositionField.mem_all DispositionField.nodup_all]
    simp [requireSingleDispositionAction, countArtifactDispositionActions]
  simp only [checkArtifactDispositionCommand, bind_eq_ok, wrapError_eq_ok, exists_const, hcount,
    rejectNilSlices, Except.forM_eq_ok, refuseIf_eq_ok, DispositionField.mem_all, true_implies,
    ← List.any_eq_false]
  constructor
  · rintro ⟨⟨f, x, hx⟩, harrays⟩
    exact ⟨f, x, hx, by simpa [hx] using harrays f⟩
  rintro ⟨f, x, hx, harrays⟩
  refine ⟨⟨f, x, hx⟩, fun g => ?_⟩
  by_cases hg : f = g
  · subst hg
    simpa [hx] using harrays
  · rw [hx, GoUnion.only_ne x hg]
    rfl

theorem ArtifactDispositionCommandV1.project_only {c : ArtifactDispositionCommandV1} {f : DispositionField}
    {x : f.Payload} (h : c.action = .only f x) : c.project = { c with action := .only f (f.project x) } := by
  have haction : (fun g => (c.action g).map g.project) = GoUnion.only f (f.project x) :=
    GoUnion.eq_only (by simp [h]) fun g hg => by simp [h, Ne.symm hg]
  rw [project, haction]

/-- The JSON of a command determines its projection, and nothing else. -/
theorem ArtifactDispositionCommandV1.json_eq_iff {c c' : ArtifactDispositionCommandV1}
    {f f' : DispositionField} {x : f.Payload} {x' : f'.Payload} (h : c.action = .only f x)
    (h' : c'.action = .only f' x') : c.json = c'.json ↔ c.project = c'.project := by
  have haction : ArtifactDispositionActionV1.json c.action = ArtifactDispositionActionV1.json c'.action ↔
      (GoUnion.only f (f.project x) : ArtifactDispositionActionV1) = .only f' (f'.project x') := by
    rw [h, h', ArtifactDispositionActionV1.json_only, ArtifactDispositionActionV1.json_only]
    constructor
    · intro heq
      simp only [object, Field.nested, List.filterMap_cons, Option.map_some, List.filterMap_nil, obj.injEq,
        List.cons.injEq, Prod.mk.injEq, and_true] at heq
      obtain ⟨hname, hjson⟩ := heq
      cases DispositionField.name_inj hname
      rw [(f.json_eq_iff x x').mp hjson]
    · intro heq
      have hf : f = f' := by
        by_contra hne
        have hnone := congrFun heq f
        rw [GoUnion.only_self, GoUnion.only_ne _ (Ne.symm hne)] at hnone
        cases hnone
      subst hf
      have hproject := congrFun heq f
      rw [GoUnion.only_self, GoUnion.only_self, Option.some.injEq] at hproject
      rw [(f.json_eq_iff x x').mpr hproject]
  rw [project_only h, project_only h']
  constructor
  · intro heq
    have hfields := object_inj heq rfl rfl
    simpa [haction] using hfields
  · intro heq
    simp only [ArtifactDispositionCommandV1.mk.injEq, ← haction] at heq
    simp only [ArtifactDispositionCommandV1.json, heq]

/-! ## The wire -/

theorem snapshotMap_mapSlice {α β : Type} {f : α → β} {g : α → α} (h : ∀ a, f (g a) = f a) (s : Slice α) :
    snapshotMap f (mapSlice g s) = snapshotMap f s := by
  simp [snapshotMap, elems_mapSlice, Function.comp_def, h]

theorem TableManifest.project_canon (v : TableManifest) : v.canon.project = v.project := by
  have hparts := snapshotMap_mapSlice (f := PartManifestEntry.project) (g := PartManifestEntry.canon)
    (fun _ => rfl) v.activeParts
  simp [project, canon, snapshotClone, hparts]

theorem SafeSnapshotManifest.project_canon (v : SafeSnapshotManifest) : v.canon.project = v.project := by
  simp [project, canon, snapshotMap_mapSlice TableManifest.project_canon]

/-- The decoded action has no nil list where the root refuses one. -/
theorem DispositionField.arrays_canon (f : DispositionField) (x : f.Payload) :
    (f.arrays (f.canon x)).any WalkedArray.refused = false := by
  rw [arrays_pass]
  cases f <;> simp [canon, ArtifactDispositionBindPolicyV1.canon, ArtifactDispositionPolicyV1.canon,
    ArtifactDispositionPublishCandidateV1.canon, ArtifactDispositionOpenChallengeV1.canon,
    SnapshotQueryAttestation.canon, SnapshotQueryReceipt.canon, snapshotClone, snapshotMap]

theorem snapshotClone_of_isSome {α : Type} {s : Slice α} (h : s.isSome = true) : snapshotClone s = s := by
  obtain ⟨l, rfl⟩ := Option.isSome_iff_exists.mp h
  rfl

theorem DispositionField.project_canon (f : DispositionField) (x : f.Payload)
    (h : (f.arrays x).any WalkedArray.refused = false) : f.project (f.canon x) = f.project x := by
  rw [arrays_pass] at h
  cases f with
  | bindPolicy =>
    have haddresses := snapshotClone_of_isSome h
    simp [project, canon, ArtifactDispositionBindPolicyV1.canon, ArtifactDispositionPolicyV1.canon, haddresses]
  | registerCandidate =>
    simp [project, canon, ArtifactDispositionRegisterCandidateV1.canon, SafeSnapshotManifest.project_canon]
  | publishCandidate =>
    have hreceipts := snapshotClone_of_isSome h
    simp [project, canon, ArtifactDispositionPublishCandidateV1.canon, SafeSnapshotManifest.project_canon,
      hreceipts]
  | openChallenge =>
    have hcommitments := snapshotClone_of_isSome h.1
    have hparts : snapshotMap PartManifestEntry.project (snapshotMap PartManifestEntry.canon
        x.attestation.receipt.affectedParts) =
          snapshotMap PartManifestEntry.project x.attestation.receipt.affectedParts := by
      simp only [snapshotMap, Option.some.injEq]
      exact List.map_map ..
    simp [project, canon, ArtifactDispositionOpenChallengeV1.canon, SnapshotQueryAttestation.canon,
      SnapshotQueryReceipt.canon, SnapshotQueryAttestation.project, hcommitments, hparts]
  | _ => rfl

/-- The root of a command that has one is that of the decoded command, and two roots are equal
    just when the canonical projections are. -/
theorem disposition_root_survives_wire (d : Authority.CanonicalDigest) :
    (∀ {c : ArtifactDispositionCommandV1} {root : String},
      artifactDispositionCommandRoot d.hash c = .ok root →
      artifactDispositionCommandRoot d.hash
        (artifactDispositionCommandFromPB (some (artifactDispositionCommandToPB c))) = .ok root) ∧
    (∀ {c c' : ArtifactDispositionCommandV1} {root root' : String},
      artifactDispositionCommandRoot d.hash c = .ok root →
      artifactDispositionCommandRoot d.hash c' = .ok root' →
      (root = root' ↔ c.project = c'.project)) := by
  simp only [artifactDispositionCommandRoot, bind_eq_ok, pure_eq_ok, exists_const,
    checkArtifactDispositionCommand_eq_ok]
  constructor
  · rintro c _ ⟨⟨f, x, hx, harrays⟩, rfl⟩
    have hone : countArtifactDispositionActions c.action = 1 :=
      (GoUnion.count_eq_one_iff DispositionField.mem_all DispositionField.nodup_all).mpr ⟨f, x, hx⟩
    have hcanon : c.canon.action = .only f (f.canon x) := by
      rw [ArtifactDispositionCommandV1.canon, hx, ArtifactDispositionActionV1.canon_only]
    rw [artifactDispositionCommandFromPB_toPB hone]
    refine ⟨⟨f, f.canon x, hcanon, f.arrays_canon x⟩, congrArg _ ?_⟩
    rw [ArtifactDispositionCommandV1.json_eq_iff hcanon hx, ArtifactDispositionCommandV1.project_only hcanon,
      ArtifactDispositionCommandV1.project_only hx, f.project_canon x harrays]
    rfl
  · rintro c c' _ _ ⟨⟨f, x, hx, -⟩, rfl⟩ ⟨⟨f', x', hx', -⟩, rfl⟩
    rw [← ArtifactDispositionCommandV1.json_eq_iff hx hx']
    exact ⟨fun h => (d.injective h).2, congrArg _⟩

/-- A publication of a table with one part and no partition root. -/
def publication (refs : Slice String) (frontiers : Slice TrackFrontier) : ArtifactDispositionCommandV1 :=
  let table : TableManifest := ⟨"db.t", "h", some [], some [⟨"db.t", "all", "p", "x", "y", 1, 2, refs⟩]⟩
  let manifest := { (default : SafeSnapshotManifest) with tables := some [table], trackFrontiers := frontiers }
  { (default : ArtifactDispositionCommandV1) with
    action := .only .publishCandidate ⟨1, manifest, default, some []⟩ }

/-- The root survives the wire, and does not see storage refs and track frontiers. -/
theorem disposition_root_survives_publication : let d := Authority.CanonicalDigest.counted
    let c := publication (some ["s3"]) (some [⟨1, 5, 3⟩])
    ∃ root, artifactDispositionCommandRoot d.hash
        (artifactDispositionCommandFromPB (some (artifactDispositionCommandToPB c))) = .ok root ∧
      artifactDispositionCommandRoot d.hash (publication none none) = .ok root := by
  intro d c
  have hroot : ∀ refs frontiers, artifactDispositionCommandRoot d.hash (publication refs frontiers) =
      .ok (d.hash artifactDispositionCommandDomain (publication refs frontiers).json) := fun refs frontiers =>
    bind_eq_ok.mpr ⟨(), checkArtifactDispositionCommand_eq_ok.mpr ⟨.publishCandidate, _, rfl,
      (DispositionField.arrays_pass ..).mpr rfl⟩, rfl⟩
  obtain ⟨hwire, hiff⟩ := disposition_root_survives_wire d
  have hproject : (publication none none).project = c.project := by
    rw [ArtifactDispositionCommandV1.project_only (f := .publishCandidate) rfl,
      ArtifactDispositionCommandV1.project_only (f := .publishCandidate) rfl]
    rfl
  have hsame := (hiff (hroot none none) (hroot _ _)).mpr hproject
  exact ⟨_, hwire (hroot _ _), hsame ▸ hroot none none⟩

end ArbiterCore.Wire
