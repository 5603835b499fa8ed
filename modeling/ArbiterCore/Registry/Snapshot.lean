-- SUMMARY: The published table registry, and the names and markers of its incarnations (wire, ddl).
import Mathlib.Algebra.Order.Ring.Int
import Mathlib.Data.List.Basic
import Mathlib.Tactic.Common
import ArbiterCore.Member.Manifest

/-!
# The table registry

The registry lists every incarnation of every table key, numbered from 1, and the
groups of nodes that hold a database of an owner. The physical name of a key is
not injective, so a physical table carries a comment that names its incarnation.
-/

namespace ArbiterCore.Registry

/-! ## Snapshots -/

inductive TableStatus where
  | legacy | pending | refused | active | retiring | purging | purged
  deriving DecidableEq

inductive TableOrigin where
  | genesis | legacy | chain
  deriving DecidableEq

/-- One incarnation of a table; `ownerIndexerID` is `none` for one that was recorded
    before the owners were. -/
structure TableIncarnation where
  seq : Nat
  databaseID : String
  tableID : String
  origin : TableOrigin
  status : TableStatus
  purgedBy : List String
  ownerIndexerID : Option Nat
  scopedKeeperPath : Bool
  deriving DecidableEq

namespace TableIncarnation

def key (t : TableIncarnation) : String := t.databaseID ++ "." ++ t.tableID

def hasPhysicalTables (t : TableIncarnation) : Bool :=
  match t.status with
  | .pending | .active | .retiring | .purging => true
  | .legacy | .refused | .purged => false

/-- Purged or Refused. -/
def isRetired (t : TableIncarnation) : Bool := t.status = .purged ∨ t.status = .refused

end TableIncarnation

/-- Why a checkpoint excludes a table. -/
inductive ExclusionReason where
  | notInstalled | diverged | foreign | diskThreshold | auditPending | retiring
  deriving DecidableEq

structure ExcludedTable where
  tableID : String
  reason : ExclusionReason
  deriving DecidableEq

/-- What a checkpoint says of one group. -/
structure CheckpointGroup where
  databaseID : String
  groupGeneration : Nat
  excluded : List ExcludedTable
  deriving DecidableEq

structure MemberCheckpoint where
  nodeID : String
  ownerIndexerID : Nat
  checkpointSeq : Nat
  groups : List CheckpointGroup
  snapshotID : String
  entry : TrackFrontier
  deriving DecidableEq

/-- A current member of a group, with the checkpoint that is stored for it. Its
    `readyGeneration` is 0 until it reported that it is ready. -/
structure GroupMember where
  nodeID : String
  joinedGeneration : Nat
  readyGeneration : Nat
  checkpoint : Option MemberCheckpoint
  deriving DecidableEq

def GroupMember.ready (m : GroupMember) : Bool :=
  m.readyGeneration ≠ 0 ∧ m.readyGeneration ≥ m.joinedGeneration

/-- A node that is leaving a group. -/
structure LeavingMember where
  nodeID : String
  released : Bool
  deriving DecidableEq

/-- The group of an owner and a database. -/
structure DatabaseGroup where
  ownerIndexerID : Nat
  databaseID : String
  members : List GroupMember
  generation : Nat
  leaving : List LeavingMember
  deriving DecidableEq

/-- The highest accepted checkpoint_seq of a node for an owner, under a signer. -/
structure MemberCheckpointSeq where
  nodeID : String
  ownerIndexerID : Nat
  checkpointSeq : Nat
  replicaSigner : String
  deriving DecidableEq

/-- The switches of stage 3. -/
structure Stage3Params where
  checkpoints : Bool
  purge : Bool
  deriving DecidableEq

/-- The whole registry at one version; `siIndexerID` is the founding indexer.
    Decoding refuses a snapshot whose incarnations are not numbered from 1. -/
structure Snapshot where
  siIndexerID : Nat
  incarnations : List TableIncarnation
  groups : List DatabaseGroup
  memberCheckpointSeqs : List MemberCheckpointSeq
  stage3 : Option Stage3Params
  numbered : incarnations.map (·.seq) = List.range' 1 incarnations.length

namespace Snapshot

variable (s : Snapshot)

/-- The newest incarnation of a key that is neither Purged nor Refused, else the
    newest one. -/
def live (key : String) : Option TableIncarnation :=
  let newest := s.incarnations.reverse.filter (·.key = key)
  (newest.find? fun inc => ¬ inc.isRetired).or newest.head?

def owner (inc : TableIncarnation) : Nat := inc.ownerIndexerID.getD s.siIndexerID

def group (owner : Nat) (databaseID : String) : Option DatabaseGroup :=
  s.groups.find? fun g => g.ownerIndexerID = owner ∧ g.databaseID = databaseID

/-- The incarnation with a number. -/
def incarnation (seq : Nat) : Option TableIncarnation :=
  s.incarnations.find? (·.seq = seq)

def publishedCheckpointSeq (nodeID : String) (owner : Nat) :
    Option MemberCheckpointSeq :=
  s.memberCheckpointSeqs.find? fun e => e.nodeID = nodeID ∧ e.ownerIndexerID = owner

theorem live_mem {s : Snapshot} {key : String} {inc : TableIncarnation} (h : s.live key = some inc) :
    inc ∈ s.incarnations ∧ inc.key = key := by
  have hmem : inc ∈ s.incarnations.reverse.filter (·.key = key) := by
    unfold live at h
    rcases Option.or_eq_some_iff.mp h with hfind | ⟨-, hhead⟩
    · exact List.mem_of_find?_eq_some hfind
    · exact List.mem_of_head? hhead
  simpa using hmem

theorem incarnation_mem {s : Snapshot} {seq : Nat} {inc : TableIncarnation}
    (h : s.incarnation seq = some inc) : inc ∈ s.incarnations ∧ inc.seq = seq := by
  refine ⟨List.mem_of_find?_eq_some h, ?_⟩
  simpa using List.find?_some h

theorem seq_nodup : (s.incarnations.map (·.seq)).Nodup := by
  rw [s.numbered]
  exact List.nodup_range'

/-- Numbers are unique. -/
theorem eq_of_seq {s : Snapshot} {inc inc' : TableIncarnation} (h : inc ∈ s.incarnations)
    (h' : inc' ∈ s.incarnations) (heq : inc.seq = inc'.seq) : inc = inc' :=
  List.inj_on_of_nodup_map s.seq_nodup h h' heq

end Snapshot

/-! ## Physical names -/

/-- The physical name of a key: every dot becomes two underscores. -/
def chTableName (tableID : String) : String :=
  String.ofList (tableID.toList.flatMap fun c => if c = '.' then ['_', '_'] else [c])

/-- The name of the copy of an incarnation (`ddl.CopyTableName`), in the documented form
    of `sitable.CopyTable`. -/
def copyTableName (tableID : String) (seq : Nat) : String :=
  chTableName tableID ++ "__i" ++ toString seq

def incarnationMark : String := "hg_incarnation="

/-- The comment of the tables of an incarnation. -/
def incarnationComment (seq : Nat) : String := incarnationMark ++ toString seq

/-- The comment that a table with the marker carries; that of a genesis table is 0. -/
def expectedComment (marker : Nat) : String := if marker = 0 then "" else incarnationComment marker

theorem toDigits_inj {n n' : Nat} (h : Nat.toDigits 10 n = Nat.toDigits 10 n') : n = n' := by
  have hvalue := congrArg (fun digits => Nat.ofDigitChars 10 digits 0) h
  simpa only [Nat.ofDigitChars_ten_toDigits] using hvalue

theorem incarnationComment_inj {seq seq' : Nat}
    (h : incarnationComment seq = incarnationComment seq') : seq = seq' :=
  toDigits_inj (by simpa [incarnationComment, Nat.repr_eq_ofList_toDigits, String.ofList_inj] using h)

/-- The incarnation that a comment names: the mark and a canonical number. -/
def parseIncarnationComment (comment : String) : Option Nat :=
  if incarnationMark.toList.isPrefixOf comment.toList then
    let rest := comment.toList.drop incarnationMark.toList.length
    let seq := Nat.ofDigitChars 10 rest 0
    if seq = 0 ∨ 2 ^ 64 ≤ seq ∨ toString seq ≠ String.ofList rest then none else some seq
  else none

/-- A comment names an incarnation only if it is the comment of that incarnation. -/
theorem parseIncarnationComment_eq_some {comment : String} {seq : Nat} :
    parseIncarnationComment comment = some seq ↔
      comment = incarnationComment seq ∧ seq ≠ 0 ∧ seq < 2 ^ 64 := by
  unfold parseIncarnationComment
  constructor
  · intro h
    split at h
    · next hpre =>
      dsimp only at h
      split at h
      · cases h
      · next hgood =>
        cases h
        obtain ⟨rest, hrest⟩ := List.isPrefixOf_iff_prefix.mp hpre
        simp only [not_or, not_not, Nat.not_le] at hgood
        obtain ⟨h0, hlt, hrepr⟩ := hgood
        refine ⟨?_, h0, hlt⟩
        rw [← hrest, List.drop_left] at hrepr ⊢
        apply String.toList_inj.mp
        simp [incarnationComment, ← hrest, hrepr]
    · cases h
  · rintro ⟨rfl, h0, hlt⟩
    have hlist : (incarnationComment seq).toList = incarnationMark.toList ++ Nat.toDigits 10 seq := by
      simp [incarnationComment, Nat.toString_eq_repr, Nat.toList_repr]
    have hpre : incarnationMark.toList.isPrefixOf (incarnationComment seq).toList = true := by
      rw [hlist]
      exact List.isPrefixOf_iff_prefix.mpr (List.prefix_append ..)
    dsimp only
    rw [if_pos hpre, hlist, List.drop_left, Nat.ofDigitChars_ten_toDigits]
    have hgood : ¬ (seq = 0 ∨ 2 ^ 64 ≤ seq ∨ toString seq ≠ String.ofList (Nat.toDigits 10 seq)) := by
      have hrepr : toString seq = String.ofList (Nat.toDigits 10 seq) := Nat.repr_eq_ofList_toDigits
      exact not_or.mpr ⟨h0, not_or.mpr ⟨not_le.mpr hlt, not_not.mpr hrepr⟩⟩
    exact if_neg hgood

/-- Which Keeper path the replicas of an incarnation use. -/
structure KeeperScope where
  incarnationSeq : Nat
  ownPath : Bool
  deriving DecidableEq

namespace KeeperScope

/-- The path that the incarnations of a name share. -/
def shared : KeeperScope := ⟨0, false⟩

def of (inc : TableIncarnation) : KeeperScope := ⟨inc.seq, inc.scopedKeeperPath⟩

end KeeperScope

def zooKeeperPathFor (keeperShardID : Nat) (key : String) (s : KeeperScope) : String :=
  if s.ownPath then s!"/sentio/{keeperShardID}/unsafe_inc/{chTableName key}/{s.incarnationSeq}"
  else s!"/sentio/{keeperShardID}/unsafe/{chTableName key}"

/-- Two scopes of one physical name share a path only if both are on the shared one, or
    they name the same incarnation. -/
theorem zooKeeperPathFor_eq_iff {keeperShardID : Nat} {key key' : String} {s s' : KeeperScope}
    (hname : chTableName key = chTableName key') :
    zooKeeperPathFor keeperShardID key s = zooKeeperPathFor keeperShardID key' s' ↔
      s.ownPath = s'.ownPath ∧ (s.ownPath = true → s.incarnationSeq = s'.incarnationSeq) := by
  -- the two roots differ in the character after "/unsafe"
  have hroots : ∀ l l' : List Char,
      (toString "/unsafe/").toList ++ l ≠ (toString "/unsafe_inc/").toList ++ l' := by
    intro l l' h
    have := congrArg (·[7]?) h
    cases this
  rw [← String.toList_inj]
  cases hs : s.ownPath <;> cases hs' : s'.ownPath
  · simp [zooKeeperPathFor, hs, hs', hname]
  · simpa [zooKeeperPathFor, hs, hs', hname] using hroots _ _
  · simpa [zooKeeperPathFor, hs, hs', hname] using (hroots _ _).symm
  · simpa [zooKeeperPathFor, hs, hs', hname] using ⟨toDigits_inj, congrArg _⟩

end ArbiterCore.Registry
