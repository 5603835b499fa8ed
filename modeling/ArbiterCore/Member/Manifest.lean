-- SUMMARY: Published manifests and the acceptance rule for one of them (manifestfeed/verify.go).
import ArbiterCore.Base.GoMap
import ArbiterCore.Wire.Convert

/-!
# Manifests

The arbiter publishes the safe content as a chain of manifests. A manifest lists
the parts of every partition by their row hashes, and the track frontier of every
owner. `verify` is the acceptance rule for a manifest that was fetched by its id.
`ofWire` is what a member reads of the record that the wire carries.
-/

namespace ArbiterCore

/-- How far the content of one owner has come. -/
structure TrackFrontier where
  indexerID : Nat
  safeBlockSeq : Nat
  appliedPromotionSeq : Nat
  deriving DecidableEq

namespace TrackFrontier

/-- The entry of an owner that a manifest does not list. -/
def zero : TrackFrontier := ⟨0, 0, 0⟩

/-- Neither component of `e` is above that of `e'`. -/
def le (e e' : TrackFrontier) : Prop :=
  e.safeBlockSeq ≤ e'.safeBlockSeq ∧ e.appliedPromotionSeq ≤ e'.appliedPromotionSeq

instance (e e' : TrackFrontier) : Decidable (e.le e') := inferInstanceAs (Decidable (_ ∧ _))

theorem le_refl (e : TrackFrontier) : e.le e := ⟨Nat.le_refl _, Nat.le_refl _⟩

theorem le.trans {e e' e'' : TrackFrontier} (h : e.le e') (h' : e'.le e'') : e.le e'' :=
  ⟨Nat.le_trans h.1 h'.1, Nat.le_trans h.2 h'.2⟩

theorem zero_le (e : TrackFrontier) : zero.le e := ⟨Nat.zero_le _, Nat.zero_le _⟩

end TrackFrontier

/-- One part of a partition, as a manifest lists it. -/
structure PartManifestEntry where
  partitionID : String
  partName : String
  partPhysHash : String
  partRowLtHash : String
  rowCount : Nat
  deriving DecidableEq

structure PartitionRoot where
  partitionID : String
  root : String
  deriving DecidableEq

structure TableManifest where
  tableID : String
  schemaHash : String
  activeParts : List PartManifestEntry
  partitionRoots : List PartitionRoot
  deriving DecidableEq

structure SafeSnapshotManifest where
  snapshotID : String
  parentSnapshotID : String
  manifestRoot : String
  safeBlockSeq : Nat
  trackFrontiers : List TrackFrontier
  tables : List TableManifest
  deriving DecidableEq

/-- The zero value of a manifest. -/
def SafeSnapshotManifest.zero : SafeSnapshotManifest := ⟨"", "", "", 0, [], []⟩

/-! ## The manifest of a message -/

def TrackFrontier.ofWire (e : Wire.TrackFrontier) : TrackFrontier :=
  ⟨e.indexerID.toNat, e.safeBlockSeq.toNat, e.appliedPromotionSeq.toNat⟩

def PartManifestEntry.ofWire (p : Wire.PartManifestEntry) : PartManifestEntry :=
  ⟨p.partitionID, p.partName, p.partPhysHash, p.partRowLtHash, p.rowCount.toNat⟩

def TableManifest.ofWire (t : Wire.TableManifest) : TableManifest :=
  ⟨t.tableID, t.schemaHash, t.activeParts.elems.map .ofWire,
    t.partitionRoots.elems.map fun c => ⟨c.partitionID, c.root⟩⟩

def SafeSnapshotManifest.ofWire (m : Wire.SafeSnapshotManifest) : SafeSnapshotManifest :=
  ⟨m.snapshotID, m.parentSnapshotID, m.manifestRoot, m.safeBlockSeq.toNat,
    m.trackFrontiers.elems.map .ofWire, m.tables.elems.map .ofWire⟩

theorem TableManifest.ofWire_canon (t : Wire.TableManifest) : ofWire t.canon = ofWire t := by
  simp [ofWire, Wire.TableManifest.canon, Wire.elems_mapSlice, Wire.PartManifestEntry.canon,
    PartManifestEntry.ofWire]

/-- The wire changes nothing of a manifest that a member reads. -/
theorem SafeSnapshotManifest.ofWire_received (m : Wire.SafeSnapshotManifest) :
    ofWire (Wire.manifestFromPB (Wire.manifestToPB m)) = ofWire m := by
  rw [(Wire.manifestToPB_spec m).2]
  simp [ofWire, Wire.SafeSnapshotManifest.canon, Wire.elems_mapSlice, TableManifest.ofWire_canon]

/-- The checks and projections of the replay library (external). -/
class Replay where
  /-- Recomputes the roots and checks the order of the frontiers. -/
  validate : SafeSnapshotManifest → Except String Unit
  /-- Compares every partition root with the sum of its parts. -/
  verifyLedger : SafeSnapshotManifest → Except String Unit
  ownerEntry : SafeSnapshotManifest → Nat → TrackFrontier × Bool

/-- A replay library that checks the order of the frontiers and that every part is in a
    partition with a root. -/
@[reducible] def exampleReplay : Replay where
  validate m :=
    if (m.trackFrontiers.map (·.indexerID)).Pairwise (· < ·) then .ok () else .error "frontier order"
  verifyLedger m :=
    if ∀ t ∈ m.tables, ∀ p ∈ t.activeParts, p.partitionID ∈ t.partitionRoots.map (·.partitionID) then .ok ()
    else .error "partition root"
  ownerEntry m owner :=
    match m.trackFrontiers.find? (·.indexerID = owner) with
    | some e => (e, true)
    | none => (.zero, false)

/-- An error of the feed; `refused` is set for those that wrap ErrManifestRefused. -/
structure FeedError where
  refused : Bool
  text : String
  deriving DecidableEq

namespace FeedError

def refuse (text : String) : FeedError := ⟨true, text⟩

def wrap (context : String) (e : FeedError) : FeedError := { e with text := context ++ ": " ++ e.text }

end FeedError

/-- The acceptance rule for a manifest that was fetched by its id. -/
def verify [Replay] (requested : String) (m : SafeSnapshotManifest) : Except FeedError Unit :=
  if m.snapshotID ≠ requested then
    .error (.refuse s!"manifestfeed: GetManifest({requested}) answered manifest {m.snapshotID}")
  else
    match Replay.validate m with
    | .error e => .error (.refuse s!"manifestfeed: manifest {m.snapshotID}: {e}")
    | .ok _ =>
      if m.snapshotID ≠ m.manifestRoot then
        .error (.refuse s!"manifestfeed: manifest {m.snapshotID} has snapshot_id {m.snapshotID} but manifest_root {
          m.manifestRoot}")
      else
        match Replay.verifyLedger m with
        | .error e => .error (.refuse
            s!"manifestfeed: manifest {m.snapshotID} fails the partition ledger: {e}")
        | .ok _ => .ok ()

/-- A verified manifest is the one that was asked for, and its id is its root. -/
theorem verify_ok [Replay] {requested : String} {m : SafeSnapshotManifest}
    (h : verify requested m = .ok ()) : m.snapshotID = requested ∧ m.manifestRoot = requested := by
  unfold verify at h
  split at h
  · cases h
  next hid =>
  split at h
  · cases h
  split at h
  · cases h
  · next hroot =>
    have hid := not_not.mp hid
    exact ⟨hid, (not_not.mp hroot).symm.trans hid⟩

end ArbiterCore
