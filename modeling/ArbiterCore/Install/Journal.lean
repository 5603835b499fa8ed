-- SUMMARY: The install journal of a member and what it reports of its copies (install/journal.go, copyset).
import ArbiterCore.Base.GoSlice
import ArbiterCore.Member.Manifest
import Mathlib.Data.String.Basic

/-!
# The install journal

The journal has one manifest and one entry per owner, and one list of parts per
copy. A copy is the table of one incarnation in hg_replica.
-/

namespace ArbiterCore.Install

/-- A copy that the copyset keeps. The generation changes whenever its table is
    created; `schemaHash` is the hash of the schema it was created from. -/
structure Copy where
  owner : Nat
  tableKey : String
  incarnationSeq : Nat
  table : String
  schemaHash : String
  generation : Nat
  deriving DecidableEq

/-- One installed part, by its name in the copy. -/
structure JournalPart where
  name : String
  partitionID : String
  partRowLtHash : String
  hashOfAllFiles : String
  rows : Nat
  deriving DecidableEq

/-- What a copy holds. `diverged` lists the partitions that await a rebuild. -/
structure TableJournal where
  incarnationSeq : Nat
  copy : String
  parts : List JournalPart
  diverged : List String
  foreign : Bool
  foreignScratch : String
  deriving DecidableEq

structure OwnerJournal where
  snapshotID : String
  entry : TrackFrontier
  tables : GoMap String TableJournal

/-- A ready copy as the journal sees it. -/
structure TableState where
  owner : Nat
  tableKey : String
  incarnationSeq : Nat
  copy : String
  schemaHash : String
  entry : TrackFrontier
  snapshotID : String
  diverged : Bool
  foreign : Bool
  installing : Bool
  deriving DecidableEq

/-- The gauges of the installer that others read. -/
structure Stats where
  auditClean : Bool
  installsPaused : Bool
  deriving DecidableEq

end ArbiterCore.Install
