-- SUMMARY: The pull of a part from the owner's ClickHouse, with its fallback (member/sources).
import ArbiterCore.SNode.Promote
import Mathlib.Data.String.Basic

/-!
# The owner pull

`RemotePull.fetch` copies a needed part from the owner into a scratch table. It looks for
the part by the hash of its files. When no active part has that hash, it pulls the parts of
the needed partition and row count one by one, at most a window of them in one call, and
keeps the first whose rows are the needed ones. A call that pulled a full window leaves a
cursor, from which the next call of that need goes on.
-/

namespace ArbiterCore.Sources

open Conc

/-! ## Needs and results -/

structure Need where
  tableKey : String
  table : String
  partitionID : String
  partName : String
  partPhysHash : String
  partRowLtHash : String
  rowCount : Nat
  deriving DecidableEq

/-- A scratch table on the member's ClickHouse. -/
structure Scratch where
  database : String
  table : String
  deriving DecidableEq

inductive Outcome where
  | fetched | missed | refused | unreachable
  deriving DecidableEq

/-- An error with the step that failed; `code` is that of a ClickHouse exception. -/
structure Failure where
  step : String := ""
  code : Option Nat := none
  text : String
  deriving DecidableEq

def Failure.during (e : Failure) (step : String) : Failure := { e with step := step }

def codeSocketTimeout : Nat := 209
def codeNetworkError : Nat := 210
def codeAllConnectionTriesFailed : Nat := 279
def codeNoRemoteShardAvailable : Nat := 519

/-- A connection failure is unreachable, anything else refused. -/
def outcomeOf (e : Failure) : Outcome :=
  match e.code with
  | none => .refused
  | some code =>
    if code ∈ [codeNetworkError, codeSocketTimeout, codeAllConnectionTriesFailed,
        codeNoRemoteShardAvailable] then .unreachable
    else .refused

structure Result where
  source : String
  outcome : Outcome
  parts : List String
  err : Option String
  deriving DecidableEq

def failure (source : String) (e : Failure) : Result :=
  ⟨source, outcomeOf e, [], some s!"sources: {source}: {e.step}: {e.text}"⟩

/-! ## Operations -/

inductive PullOp : Type → Type where
  /-- The names and row counts of the source's active parts with the hash of all files. -/
  | resolve (database table hash : String) : PullOp (Except Failure (List (String × Nat)))
  /-- partitionId() on the member's own server; `none` when the query returned no row. -/
  | partitionId (value : String) : PullOp (Except Failure (Option String))
  /-- The cursor of a need, `""` when there is none. -/
  | cursor (key : String) : PullOp String
  | setCursor (key after : String) : PullOp Unit
  /-- At most `limit` active parts of the source with the partition and the row count,
      in name order, after a name. -/
  | candidatesByRows (database table partitionID : String) (rows : Nat) (after : String)
      (limit : Nat) : PullOp (Except Failure (List String))
  /-- CREATE TABLE of a candidate's scratch AS the scratch. -/
  | createTemporary (candidate scratch : Scratch) : PullOp (Except Failure Unit)
  /-- INSERT SELECT of one part of the source. -/
  | pull (into : Scratch) (database table part : String) : PullOp (Except Failure Unit)
  | scanAllParts (table : Scratch) : PullOp (Except Failure (List PartScanResult))
  | partPartition (table : Scratch) (part : String) : PullOp (Except Failure String)
  /-- ATTACH PARTITION ID of the scratch from a candidate's scratch. -/
  | attach (scratch : Scratch) (partitionID : String) (candidate : Scratch) :
      PullOp (Except Failure Unit)
  /-- DROP TABLE IF EXISTS, whose error is dropped. -/
  | dropTemporary (candidate : Scratch) : PullOp Unit
  | scratchParts (scratch : Scratch) : PullOp (Except Failure (List String))

abbrev PullM (α : Type) : Type 1 := Fallible Failure PullOp α

/-! ## The pull -/

/-- `maxFallbackCandidates` is 0 for the default, and negative for no fallback. -/
structure RemotePull where
  sourceName : String
  collection : String
  database : String
  maxFallbackCandidates : Int
  deriving DecidableEq

def defaultMaxFallbackCandidates : Nat := 8

def maxFallbackCursors : Nat := 1024

namespace RemotePull

variable (p : RemotePull)

def fallbackLimit : Nat :=
  if p.maxFallbackCandidates = 0 then defaultMaxFallbackCandidates else p.maxFallbackCandidates.toNat

/-- The form of a named collection: [A-Za-z_][A-Za-z0-9_]*. -/
def isIdentifier (s : String) : Bool :=
  match s.toList with
  | [] => false
  | c :: cs => (c.isAlpha || c = '_') && cs.all fun c => c.isAlphanum || c = '_'

variable (need : Need) (sch : TableSchema) (scratch : Scratch)

def check : Except String Unit :=
  if ¬ isIdentifier p.collection then
    .error (s!"sources: {p.sourceName}: collection \"" ++ p.collection ++
      "\" must be one ClickHouse identifier ([A-Za-z_][A-Za-z0-9_]*)")
  else if p.database = "" ∨ need.table = "" then
    .error (s!"sources: {p.sourceName}: a pull needs a source database and table, got \"" ++
      p.database ++ "\".\"" ++ need.table ++ "\"")
  else if scratch.database = "" ∨ scratch.table = "" then
    .error ("sources: scratch needs a database and a table, got \"" ++ scratch.database ++ "\".\"" ++
      scratch.table ++ "\"")
  else .ok ()

/-- Of parts with equal hashes the one with the smallest name. -/
def smallest : List (String × Nat) → Option (String × Nat)
  | [] => none
  | row :: rows => some (rows.foldl (fun best r => if r.1 < best.1 then r else best) row)

def resolveByHash : PullM (Option (String × Nat)) := do
  let rows ← call (.resolve p.database need.table need.partPhysHash)
  return smallest rows

/-- ClickHouse's partition id of the need's logical partition. -/
def partitionIDOf : PullM String := do
  let value ← fromExcept ((quotePartition sch need.partitionID).mapError fun e => { text := e.text })
  if sch.partitionBy = "" then return "all"
  else
    match ← call (.partitionId value) with
    | some id => return id
    | none => throw { text := s!"SELECT partitionId({value}) returned no row" }

/-- Where the next fallback of a need lists from after a window that kept nothing. -/
def nextFallbackCursor (candidates : List String) (limit : Nat) : String :=
  if candidates.length < limit ∨ candidates.length = 0 then "" else candidates.getLastD ""

/-- Identifies the fallback of a need. -/
def fallbackKey (partitionID : String) : String :=
  need.table ++ "\x00" ++ partitionID ++ "\x00" ++ need.partRowLtHash ++ "\x00" ++ toString need.rowCount

def candidateScratch (k : Nat) : Scratch :=
  ⟨scratch.database, scratch.table ++ "_c" ++ toString k⟩

/-- Pulls a candidate into its own scratch; one with the needed rows is attached. -/
def pullCandidate (scratch candidate : Scratch) (name : String) :
    PullM Bool := do
  call (.createTemporary candidate scratch)
  call (.pull candidate p.database need.table name)
  match ← call (.scanAllParts candidate) with
  | [scan] =>
    if scan.rowLtHash ≠ need.partRowLtHash ∨ scan.rowCount ≠ need.rowCount then return false
    else do
      let partitionID ← call (.partPartition candidate scan.partName)
      call (.attach scratch partitionID candidate)
      return true
  | _ => return false

/-- The candidate's scratch is dropped whatever happened. -/
def tryCandidate (scratch candidate : Scratch) (name : String) :
    PullM Bool := do
  let r ← attempt (pullCandidate p need scratch candidate name)
  ask (.dropTemporary candidate)
  fromExcept r

/-- Tries candidates in order until one is kept; the first that fails ends it. -/
def tryCandidates (p : RemotePull) (need : Need) (scratch : Scratch) : Nat → List String → PullM Bool
  | _, [] => pure false
  | k, name :: names => do
    let kept ← mapError (·.during s!"pull candidate part {name}")
      (tryCandidate p need scratch (candidateScratch scratch k) name)
    if kept then return true else tryCandidates p need scratch (k + 1) names

def fetched : PullM (Outcome × List String) := do
  let parts ← mapError (·.during "list the scratch parts") (call (.scratchParts scratch))
  return (.fetched, parts)

/-- Pulls the parts of the needed partition and row count. -/
def fallback : PullM (Outcome × List String) := do
  let limit := p.fallbackLimit
  if limit = 0 ∨ need.rowCount = 0 ∨ need.partRowLtHash = "" then return (.missed, [])
  else do
    let partitionID ← mapError (·.during s!"resolve the partition id of {need.partitionID}")
      (partitionIDOf need sch)
    let key := fallbackKey need partitionID
    let after ← ask (.cursor key)
    let candidates ← mapError (·.during "list the parts of the needed partition and row count")
      (call (.candidatesByRows p.database need.table partitionID need.rowCount after limit))
    let kept ← tryCandidates p need scratch 1 candidates
    if kept then do
      ask (.setCursor key "")
      fetched scratch
    else do
      ask (.setCursor key (nextFallbackCursor candidates limit))
      return (.missed, [])

def fetchParts : PullM (Outcome × List String) := do
  if need.partPhysHash = "" then fallback p need sch scratch
  else
    match ← mapError (·.during "resolve the part by hash_of_all_files") (resolveByHash p need) with
    | some (name, _) => do
      mapError (·.during s!"pull part {name}") (call (.pull scratch p.database need.table name))
      fetched scratch
    | none => fallback p need sch scratch

/-- Pulls a need into a scratch, an empty table. -/
def fetch : PullM Result := do
  match p.check need scratch with
  | .error e => return ⟨p.sourceName, .refused, [], some e⟩
  | .ok _ =>
    match ← attempt (fetchParts p need sch scratch) with
    | .ok (outcome, parts) => return ⟨p.sourceName, outcome, parts, none⟩
    | .error e => return failure p.sourceName e

end RemotePull

/-! ## The world of a pull -/

/-- An active part of the owner. -/
structure OwnerPart where
  database : String
  table : String
  partitionID : String
  name : String
  rows : Nat
  physHash : String
  rowLtHash : String
  deriving DecidableEq

/-- The owner's ClickHouse while it does not change. -/
structure Owner where
  parts : List OwnerPart
  name_ne_empty : ∀ q ∈ parts, q.name ≠ ""
  names_nodup : (parts.map fun q => (q.database, q.table, q.name)).Nodup

namespace Owner

variable (o : Owner)

/-- The parts of a partition and a row count in name order. -/
def candidates (database table partitionID : String) (rows : Nat) : List String :=
  ((o.parts.filter fun q => q.database = database ∧ q.table = table ∧ q.partitionID = partitionID ∧
    q.rows = rows).map (·.name)).insertionSort (· ≤ ·)

def part (database table name : String) : Option OwnerPart :=
  o.parts.find? fun q => q.database = database ∧ q.table = table ∧ q.name = name

end Owner

/-- The cursors that the source remembers, and the parts of the member's scratch tables. -/
structure PullWorld where
  after : GoMap String String
  tables : GoMap Scratch (List PartScanResult)

namespace PullWorld

variable (w : PullWorld)

/-- Remembers a cursor; too many of them are forgotten first. -/
def setCursor (key after : String) : PullWorld :=
  if after = "" then { w with after := w.after.erase key }
  else if w.after.keys.length ≥ maxFallbackCursors then
    { w with after := GoMap.empty.insert key after }
  else { w with after := w.after.insert key after }

def setTable (t : Scratch) (parts : List PartScanResult) : PullWorld :=
  { w with tables := w.tables.insert t parts }

end PullWorld

/-- The outcome of an operation: its error, whether a failed statement took effect, the
    name of a new part, and the answer of a query. -/
structure PullAnswer where
  err : Option Failure := none
  effect : Bool := true
  name : String := "all_1_1_0"
  id : Option String := some "all"

namespace PullAnswer

def query {β : Type} (a : PullAnswer) (w : PullWorld) (result : β) :
    Option (Except Failure β × PullWorld) :=
  match a.err with
  | none => some (.ok result, w)
  | some e => some (.error e, w)

/-- The answer to a statement that leads from `w` to `next`, if it can be executed. -/
def statement (a : PullAnswer) (w : PullWorld) (next : Option PullWorld) :
    Option (Except Failure Unit × PullWorld) :=
  match a.err, next with
  | none, some w' => some (.ok (), w')
  | none, none => none
  | some e, next => some (.error e, if a.effect then next.getD w else w)

end PullAnswer

/-- Answers an operation. -/
def PullOp.run (o : Owner) (partitionId : String → Option String) :
    {β : Type} → PullOp β → PullAnswer → PullWorld → Option (β × PullWorld)
  | _, .resolve database table hash, a, w =>
    a.query w ((o.parts.filter fun q => q.database = database ∧ q.table = table ∧
      q.physHash = hash).map fun q => (q.name, q.rows))
  | _, .partitionId value, a, w => a.query w (partitionId value)
  | _, .cursor key, _, w => some (w.after.getD key "", w)
  | _, .setCursor key after, _, w => some ((), w.setCursor key after)
  | _, .candidatesByRows database table pid rows after limit, a, w =>
    a.query w (((o.candidates database table pid rows).filter fun n => after = "" ∨ after < n).take
      limit)
  | _, .createTemporary candidate scratch, a, w =>
    a.statement w (match w.tables.lookup candidate, w.tables.lookup scratch with
      | none, some _ => some (w.setTable candidate [])
      | _, _ => none)
  | _, .pull into database table part, a, w =>
    a.statement w ((w.tables.lookup into).map fun parts =>
      match o.part database table part with
      | some q => w.setTable into (parts ++ [⟨a.name, q.rowLtHash, q.rows⟩])
      | none => w)
  | _, .scanAllParts t, a, w => a.query w ((w.tables.lookup t).getD [])
  | _, .partPartition _ _, a, w => a.query w (a.id.getD "")
  | _, .attach scratch _ candidate, a, w =>
    a.statement w (match w.tables.lookup scratch, w.tables.lookup candidate with
      | some parts, some new =>
        some (w.setTable scratch (parts ++ new.map fun q => { q with partName := a.name }))
      | _, _ => none)
  | _, .dropTemporary candidate, a, w =>
    some ((), if a.effect then { w with tables := w.tables.erase candidate } else w)
  | _, .scratchParts scratch, a, w =>
    a.query w (((w.tables.lookup scratch).getD []).map (·.partName))

/-- The operation fails under the answer, or it forgets cursors. -/
def PullOp.fails : {β : Type} → PullOp β → PullAnswer → PullWorld → Bool
  | _, .cursor _, _, _ => false
  | _, .setCursor _ _, _, w => maxFallbackCursors ≤ w.after.keys.length
  | _, .dropTemporary _, a, _ => !a.effect
  | _, _, a, _ => a.err.isSome

/-- The machine of an unchanging owner, of which only some operations may fail. -/
def pullMachine (o : Owner) (partitionId : String → Option String)
    (mayFail : (δ : Type) → PullOp δ → Bool) : Machine PullOp PullWorld where
  Choice := PullAnswer
  run op a w := if op.fails a w && !mayFail _ op then none else op.run o partitionId a w

/-- No operation fails. -/
def calm (δ : Type) (_ : PullOp δ) : Bool := false

end ArbiterCore.Sources
