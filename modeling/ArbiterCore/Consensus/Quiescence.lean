-- SUMMARY: The quiescence ledger of a consensus member: its file, Observe and Resolve (consensus/quiescence.go).
import Mathlib.Data.Prod.Lex
import Mathlib.Data.String.Basic
import ArbiterCore.Base.Durable
import ArbiterCore.Base.GoMap
import ArbiterCore.Base.GoSlice
import ArbiterCore.Base.Text
import ArbiterCore.Base.Threads

/-!
# The quiescence ledger

Every block whose replay job reached the member is in the ledger, with the tables
it names, until it no longer needs the evidence of the member. `Observe` adds to
the ledger. `Resolve` copies it, asks the arbiter about every block without
holding the lock, and removes the blocks that were not observed again meanwhile.

The ledger is in the memory of the process and in quiescence.json. A write of the
file may fail before its rename or after it.
-/

namespace ArbiterCore.Quiescence

open Conc Durable
open Text (isBlank)

/-! ## The file -/

/-- One table, at one incarnation, that the replay job of a block names. -/
structure QuiescentTable where
  tableID : String
  incarnationSeq : Nat
  deriving DecidableEq

instance : LinearOrder QuiescentTable :=
  LinearOrder.lift' (fun t => toLex (t.tableID, t.incarnationSeq)) fun t t' h => by
    cases t
    cases t'
    simpa using h

/-- One unresolved block of the ledger. -/
structure QuiescenceBlock where
  blockSeq : Nat
  tables : List QuiescentTable
  deriving DecidableEq

/-- quiescence.json; `blocks` is `none` when the file has no list. -/
structure QuiescenceFile where
  version : Nat
  blocks : Option (List QuiescenceBlock)
  deriving DecidableEq

def quiescenceVersion : Nat := 1

def corrupt (what : String) : String := "member consensus: quiescence.json is corrupt: " ++ what

/-- Checks the tables of a block; `prev` is the table before them. -/
def checkTables : Option QuiescentTable → List QuiescentTable → Except String Unit
  | _, [] => .ok ()
  | prev, table :: rest =>
    if isBlank table.tableID ∨ table.incarnationSeq = 0 then .error (corrupt "invalid table record")
    else if ∃ p ∈ prev, ¬ p < table then .error (corrupt "unordered table records")
    else checkTables (some table) rest

/-- Checks the blocks after a block with the sequence `prior`. -/
def checkBlocks : Nat → List QuiescenceBlock → Except String Unit
  | _, [] => .ok ()
  | prior, block :: rest =>
    if block.blockSeq = 0 ∨ block.blockSeq ≤ prior ∨ block.tables = [] then
      .error (corrupt "invalid block record")
    else do
      checkTables none block.tables
      checkBlocks block.blockSeq rest

/-- `ReadQuiescence`: a missing file is an empty ledger. -/
def readQuiescence : Option QuiescenceFile → Except String (List QuiescenceBlock)
  | none => .ok []
  | some f =>
    if f.version ≠ quiescenceVersion then
      .error s!"member consensus: quiescence.json has version {f.version}, want {quiescenceVersion}"
    else
      match f.blocks with
      | none => .error (corrupt "missing blocks")
      | some blocks => do
        checkBlocks 0 blocks
        return blocks

/-- What `writeQuiescence` writes. -/
def fileOf (blocks : List QuiescenceBlock) : QuiescenceFile := ⟨quiescenceVersion, some blocks⟩

/-- No unresolved block names the table at the incarnation. -/
def quiet (blocks : List QuiescenceBlock) (tableID : String) (incarnationSeq : Nat) : Bool :=
  blocks.all fun b => ⟨tableID, incarnationSeq⟩ ∉ b.tables

/-- The sorted union of `a` and `b`. -/
def mergeTables (a b : List QuiescentTable) : List QuiescentTable := GoSlice.sortCompact (a ++ b)

/-- The ascending blocks, with `tables` added to those of `blockSeq`. -/
def addTables (blockSeq : Nat) (tables : List QuiescentTable) :
    List QuiescenceBlock → List QuiescenceBlock
  | [] => [⟨blockSeq, mergeTables [] tables⟩]
  | b :: rest =>
    if b.blockSeq < blockSeq then b :: addTables blockSeq tables rest
    else if b.blockSeq = blockSeq then ⟨blockSeq, mergeTables b.tables tables⟩ :: rest
    else ⟨blockSeq, mergeTables [] tables⟩ :: b :: rest

/-- The blocks of the file. -/
def blocksOf (file : Option QuiescenceFile) : List QuiescenceBlock :=
  (file.bind (·.blocks)).getD []

/-- The block is listed with the table. -/
def Lists (blocks : List QuiescenceBlock) (blockSeq : Nat) (table : QuiescentTable) : Prop :=
  ∃ b ∈ blocks, b.blockSeq = blockSeq ∧ table ∈ b.tables

instance (blocks : List QuiescenceBlock) (blockSeq : Nat) (table : QuiescentTable) :
    Decidable (Lists blocks blockSeq table) :=
  inferInstanceAs (Decidable (∃ b ∈ blocks, b.blockSeq = blockSeq ∧ table ∈ b.tables))

/-! ### What the file is good for -/

@[simp] theorem mem_mergeTables {a b : List QuiescentTable} {t : QuiescentTable} :
    t ∈ mergeTables a b ↔ t ∈ a ∨ t ∈ b := by
  simp [mergeTables]

@[simp] theorem lists_cons {b : QuiescenceBlock} {rest : List QuiescenceBlock} {blockSeq : Nat}
    {t : QuiescentTable} :
    Lists (b :: rest) blockSeq t ↔ (b.blockSeq = blockSeq ∧ t ∈ b.tables) ∨ Lists rest blockSeq t := by
  simp [Lists]

variable {blocks : List QuiescenceBlock} {tables : List QuiescentTable}

/-- What is listed stays listed, and the added tables are. -/
theorem lists_addTables {blockSeq : Nat} {seq : Nat} {t : QuiescentTable} :
    Lists (addTables blockSeq tables blocks) seq t ↔
      Lists blocks seq t ∨ (blockSeq = seq ∧ t ∈ tables) := by
  fun_induction addTables blockSeq tables blocks with
  | case1 => simp [Lists]
  | case2 b rest hlt ih => simp [ih, or_assoc]
  | case3 b rest hlt heq =>
    subst heq
    simp only [lists_cons, mem_mergeTables]
    tauto
  | case4 b rest hlt hne =>
    simp only [lists_cons, mem_mergeTables, List.not_mem_nil, false_or]
    tauto

/-- A table that Observe may be given. -/
def ValidTable (t : QuiescentTable) : Prop := ¬ isBlank t.tableID ∧ t.incarnationSeq ≠ 0

/-- The blocks are ascending, and so are the tables of every one of them. -/
structure BlocksOk (blocks : List QuiescenceBlock) : Prop where
  ascending : blocks.Pairwise (·.blockSeq < ·.blockSeq)
  seq : ∀ b ∈ blocks, b.blockSeq ≠ 0
  tables : ∀ b ∈ blocks, b.tables ≠ [] ∧ b.tables.Pairwise (· < ·) ∧ ∀ t ∈ b.tables, ValidTable t

theorem blocksOk_cons {b : QuiescenceBlock} {rest : List QuiescenceBlock} :
    BlocksOk (b :: rest) ↔ (∀ b' ∈ rest, b.blockSeq < b'.blockSeq) ∧ b.blockSeq ≠ 0 ∧
      (b.tables ≠ [] ∧ b.tables.Pairwise (· < ·) ∧ ∀ t ∈ b.tables, ValidTable t) ∧ BlocksOk rest := by
  constructor
  · intro h
    obtain ⟨hb, hrest⟩ := List.pairwise_cons.mp h.ascending
    exact ⟨hb, h.seq b List.mem_cons_self, h.tables b List.mem_cons_self, {
      ascending := hrest
      seq := fun b' hb' => h.seq b' (List.mem_cons_of_mem _ hb')
      tables := fun b' hb' => h.tables b' (List.mem_cons_of_mem _ hb') }⟩
  · rintro ⟨hb, hseq, htables, hrest⟩
    exact {
      ascending := List.pairwise_cons.mpr ⟨hb, hrest.ascending⟩
      seq := by simpa using ⟨hseq, hrest.seq⟩
      tables := by simpa using ⟨htables, hrest.tables⟩ }

theorem checkTables_ok {prev : Option QuiescentTable} (hprev : ∀ p ∈ prev, ∀ t ∈ tables, p < t)
    (hsorted : tables.Pairwise (· < ·)) (hvalid : ∀ t ∈ tables, ValidTable t) : checkTables prev tables = .ok () := by
  induction tables generalizing prev with
  | nil => rfl
  | cons t rest ih =>
    obtain ⟨ht, hrest⟩ := List.pairwise_cons.mp hsorted
    obtain ⟨hblank, hseq⟩ := hvalid t List.mem_cons_self
    have hlt : ∀ p ∈ prev, p < t := fun p hp => hprev p hp t List.mem_cons_self
    have hgood : ¬ (isBlank t.tableID ∨ t.incarnationSeq = 0) := by tauto
    have hordered : ¬ ∃ p ∈ prev, ¬ p < t := by
      rintro ⟨p, hp, hn⟩
      exact hn (hlt p hp)
    simp only [checkTables, if_neg hgood, if_neg hordered]
    apply ih
    · intro p hp t' ht'
      cases hp
      exact ht t' ht'
    · exact hrest
    · exact fun t' ht' => hvalid t' (List.mem_cons_of_mem _ ht')

theorem checkBlocks_ok {prior : Nat} (hprior : ∀ b ∈ blocks, prior < b.blockSeq)
    (h : BlocksOk blocks) : checkBlocks prior blocks = .ok () := by
  induction blocks generalizing prior with
  | nil => rfl
  | cons b rest ih =>
    obtain ⟨hb, hseq, ⟨hne, hsorted, hvalid⟩, hrest⟩ := blocksOk_cons.mp h
    have hgood : ¬ (b.blockSeq = 0 ∨ b.blockSeq ≤ prior ∨ b.tables = []) := by
      rintro (h0 | hle | hnil)
      · exact hseq h0
      · exact absurd (hprior b List.mem_cons_self) (by omega)
      · exact hne hnil
    have htables : checkTables none b.tables = .ok () := checkTables_ok (by simp) hsorted hvalid
    simp only [checkBlocks, if_neg hgood, htables]
    exact ih hb hrest

/-- What is written is read back. -/
theorem readQuiescence_fileOf (h : BlocksOk blocks) :
    readQuiescence (some (fileOf blocks)) = .ok blocks := by
  have hcheck : checkBlocks 0 blocks = .ok () :=
    checkBlocks_ok (fun b hb => Nat.pos_of_ne_zero (h.seq b hb)) h
  simp [readQuiescence, fileOf, hcheck]

/-- What is read is in the file. -/
theorem readQuiescence_ok {file : Option QuiescenceFile} (h : readQuiescence file = .ok blocks) :
    blocks = blocksOf file := by
  cases file with
  | none =>
    cases h
    rfl
  | some f =>
    simp only [readQuiescence] at h
    split at h
    · cases h
    split at h
    · cases h
    next bs hbs =>
    cases hcheck : checkBlocks 0 bs with
    | error e => simp [hcheck] at h
    | ok _ =>
      simp only [hcheck] at h
      cases h
      simp [blocksOf, hbs]

theorem mergeTables_ok {a b : List QuiescentTable} (hb : b ≠ []) (ha : ∀ t ∈ a, ValidTable t)
    (hvalid : ∀ t ∈ b, ValidTable t) :
    mergeTables a b ≠ [] ∧ (mergeTables a b).Pairwise (· < ·) ∧ ∀ t ∈ mergeTables a b, ValidTable t := by
  refine ⟨?_, GoSlice.sortCompact_sorted _, fun t ht => ?_⟩
  · obtain ⟨t, ht⟩ := List.exists_mem_of_ne_nil b hb
    exact List.ne_nil_of_mem (mem_mergeTables.mpr (.inr ht))
  · rcases mem_mergeTables.mp ht with ht | ht
    · exact ha t ht
    · exact hvalid t ht

/-- The first block of a list is that of the observation or was there before. -/
theorem mem_addTables {blockSeq : Nat} {b : QuiescenceBlock}
    (h : b ∈ addTables blockSeq tables blocks) : b ∈ blocks ∨ b.blockSeq = blockSeq := by
  fun_induction addTables blockSeq tables blocks with
  | case1 =>
    right
    simpa using congrArg (·.blockSeq) (List.mem_singleton.mp h)
  | case2 b' rest hlt ih =>
    rcases List.mem_cons.mp h with rfl | h
    · simp
    · exact (ih h).imp_left (List.mem_cons_of_mem _)
  | case3 b' rest hlt heq =>
    rcases List.mem_cons.mp h with rfl | h
    · exact .inr rfl
    · exact .inl (List.mem_cons_of_mem _ h)
  | case4 b' rest hlt hne =>
    rcases List.mem_cons.mp h with rfl | h
    · exact .inr rfl
    · exact .inl h

theorem blocksOk_addTables {blockSeq : Nat} (hseq : blockSeq ≠ 0) (hne : tables ≠ [])
    (hvalid : ∀ t ∈ tables, ValidTable t) (h : BlocksOk blocks) :
    BlocksOk (addTables blockSeq tables blocks) := by
  fun_induction addTables blockSeq tables blocks with
  | case1 => exact blocksOk_cons.mpr ⟨nofun, hseq, mergeTables_ok hne nofun hvalid, h⟩
  | case2 b rest hlt ih =>
    obtain ⟨hb, hb0, htables, hrest⟩ := blocksOk_cons.mp h
    refine blocksOk_cons.mpr ⟨fun b' hb' => ?_, hb0, htables, ih hrest⟩
    rcases mem_addTables hb' with hb' | hb'
    · exact hb b' hb'
    · exact hb' ▸ hlt
  | case3 b rest hlt heq =>
    obtain ⟨hb, -, htables, hrest⟩ := blocksOk_cons.mp h
    exact blocksOk_cons.mpr ⟨heq ▸ hb, hseq, mergeTables_ok hne htables.2.2 hvalid, hrest⟩
  | case4 b rest hlt heq =>
    obtain ⟨hb, -⟩ := blocksOk_cons.mp h
    have hbefore : blockSeq < b.blockSeq := by omega
    refine blocksOk_cons.mpr ⟨fun b' hb' => ?_, hseq, mergeTables_ok hne nofun hvalid, h⟩
    rcases List.mem_cons.mp hb' with rfl | hb'
    · exact hbefore
    · exact hbefore.trans (hb b' hb')

theorem BlocksOk.filter (h : BlocksOk blocks) (p : QuiescenceBlock → Bool) : BlocksOk (blocks.filter p) where
  ascending := h.ascending.sublist List.filter_sublist
  seq b hb := h.seq b (List.mem_of_mem_filter hb)
  tables b hb := h.tables b (List.mem_of_mem_filter hb)

/-! ## The process -/

/-- The ledger in memory. `observations` has one token for every block that was
    observed in this process, a fresh one for each observation. -/
structure Ledger where
  blocks : List QuiescenceBlock
  observations : GoMap Nat Nat

/-- What happened, for the statements about runs; no code reads it. `call` is the
    Resolve that acted. -/
inductive Event where
  | attempted (blockSeq : Nat) (tables : List QuiescentTable)
  | observed (blockSeq : Nat) (tables : List QuiescentTable)
  | copied (call : Nat)
  | read (call blockSeq : Nat) (unneeded : Bool)
  | readFailed (call : Nat)
  /-- The block left the file. -/
  | removed (call blockSeq : Nat)
  /-- The ledger in memory was updated. -/
  | settled (call : Nat)
  | restarted

/-- `process` is `none` after a restart that could not read the file. The history
    is newest first. -/
structure LedgerWorld where
  file : Option QuiescenceFile
  process : Option Ledger
  nextToken : Nat
  history : List Event

/-- What the arbiter answers about a block. -/
structure BlockVerification where
  verdictEvaluated : Bool
  verifierSet : List String

inductive LedgerOp : Type → Type where
  /-- The locked section of `Observe`. -/
  | observe (blockSeq : Nat) (tables : List QuiescentTable) : LedgerOp (Except String Unit)
  /-- The first locked section of `Resolve`: the blocks with their tokens. -/
  | copy (call : Nat) : LedgerOp (List (Nat × Option Nat))
  | ctxErr : LedgerOp (Except String Unit)
  | getBlockVerification (call blockSeq : Nat) (nodeID : String) :
      LedgerOp (Except String BlockVerification)
  /-- The second locked section of `Resolve`. -/
  | update (call : Nat) (resolved : List Nat) (observed : List (Nat × Option Nat)) :
      LedgerOp (Except String Unit)

inductive LedgerAnswer where
  | write (o : Outcome)
  | verification (r : Except String BlockVerification)
  | ctx (r : Except String Unit)
  | here

/-- The block needs no evidence of the node. -/
def unneeded (bv : BlockVerification) (nodeID : String) : Bool :=
  bv.verdictEvaluated || nodeID ∉ bv.verifierSet

/-- The token of a block in the copy of a Resolve. -/
def tokenOf (observed : List (Nat × Option Nat)) (blockSeq : Nat) : Option Nat :=
  (observed.lookup blockSeq).join

/-- Deletes the tokens of the resolved blocks that were not observed again. -/
def forgetTokens (observed : List (Nat × Option Nat)) : List Nat → GoMap Nat Nat → GoMap Nat Nat
  | [], tokens => tokens
  | blockSeq :: rest, tokens =>
    forgetTokens observed rest
      (if tokenOf observed blockSeq = tokens.lookup blockSeq then tokens.erase blockSeq else tokens)

theorem lookup_forgetTokens (observed : List (Nat × Option Nat)) (resolved : List Nat)
    (tokens : GoMap Nat Nat) (blockSeq : Nat) :
    (forgetTokens observed resolved tokens).lookup blockSeq =
      if blockSeq ∈ resolved ∧ tokenOf observed blockSeq = tokens.lookup blockSeq then none
      else tokens.lookup blockSeq := by
  induction resolved generalizing tokens with
  | nil => simp [forgetTokens]
  | cons seq rest ih =>
    simp only [forgetTokens, ih]
    grind

namespace Ledger

variable (q : Ledger)

/-- The observation changes the blocks. -/
def adds (blockSeq : Nat) (tables : List QuiescentTable) : Bool :=
  addTables blockSeq tables q.blocks ≠ q.blocks

/-- The blocks with their tokens. -/
def copy : List (Nat × Option Nat) :=
  q.blocks.map fun b => (b.blockSeq, q.observations.lookup b.blockSeq)

def observed (blockSeq : Nat) (tables : List QuiescentTable) (token : Nat) : Ledger :=
  ⟨addTables blockSeq tables q.blocks, q.observations.insert blockSeq token⟩

variable (resolved : List Nat)

/-- The block was resolved and was not observed since the copy. -/
def gone (observed : List (Nat × Option Nat)) (blockSeq : Nat) : Bool :=
  blockSeq ∈ resolved ∧ tokenOf observed blockSeq = q.observations.lookup blockSeq

/-- The blocks that are left by an update. -/
def left (observed : List (Nat × Option Nat)) : List QuiescenceBlock :=
  q.blocks.filter fun b => ¬ q.gone resolved observed b.blockSeq

/-- The sequences that an update removes. -/
def removed (observed : List (Nat × Option Nat)) : List Nat :=
  (q.blocks.filter fun b => q.gone resolved observed b.blockSeq).map (·.blockSeq)

def updated (observed : List (Nat × Option Nat)) : Ledger :=
  ⟨q.left resolved observed, forgetTokens observed resolved q.observations⟩

end Ledger

namespace LedgerWorld

variable (w : LedgerWorld)

def record (e : Event) : LedgerWorld := { w with history := e :: w.history }

/-- An observation in the ledger `q`. Nothing is written when it adds nothing. -/
def observe (q : Ledger) (blockSeq : Nat) (tables : List QuiescentTable) (o : Outcome) :
    Except String Unit × LedgerWorld :=
  let w := w.record (.attempted blockSeq tables)
  let next := addTables blockSeq tables q.blocks
  let done := { w with
    process := some (q.observed blockSeq tables w.nextToken)
    nextToken := w.nextToken + 1
    history := .observed blockSeq tables :: w.history }
  if q.adds blockSeq tables then
    match o with
    | .done => (.ok (), { done with file := some (fileOf next) })
    | .failedBefore err => (.error err, w)
    | .failedAfter err => (.error err, { w with file := some (fileOf next) })
  else (.ok (), done)

/-- The update of a Resolve in the ledger `q`. -/
def update (q : Ledger) (call : Nat) (resolved : List Nat) (observed : List (Nat × Option Nat))
    (o : Outcome) : Except String Unit × LedgerWorld :=
  let renamed := { w with
    file := some (fileOf (q.left resolved observed))
    history := (q.removed resolved observed).map (.removed call) ++ w.history }
  match o with
  | .done => (.ok (), { renamed with
      process := some (q.updated resolved observed)
      history := .settled call :: renamed.history })
  | .failedBefore err => (.error err, w)
  | .failedAfter err => (.error err, renamed)

/-- A crash and the reopening of the ledger. -/
def restart : LedgerWorld :=
  { w with
    process := match readQuiescence w.file with
      | .ok blocks => some ⟨blocks, .empty⟩
      | .error _ => none
    history := .restarted :: w.history }

end LedgerWorld

variable (may : LedgerWorld → Ledger → Nat → List QuiescentTable → Bool)

/-- What one operation does; `may` restricts the observations of a run. -/
def LedgerOp.run :
    {β : Type} → LedgerOp β → LedgerAnswer → LedgerWorld → Option (β × LedgerWorld)
  | _, .observe blockSeq tables, .write o, w =>
    match w.process with
    | some q => if may w q blockSeq tables then some (w.observe q blockSeq tables o) else none
    | none => none
  | _, .copy call, .here, w =>
    match w.process with
    | some q => some (q.copy, w.record (.copied call))
    | none => none
  | _, .ctxErr, .ctx r, w => some (r, w)
  | _, .getBlockVerification call blockSeq nodeID, .verification (.ok bv), w =>
    some (.ok bv, w.record (.read call blockSeq (unneeded bv nodeID)))
  | _, .getBlockVerification call _ _, .verification (.error e), w =>
    some (.error e, w.record (.readFailed call))
  | _, .update call resolved observed, .write o, w =>
    match w.process with
    | some q => some (w.update q call resolved observed o)
    | none => none
  | _, _, _, _ => none

def ledgerMachine :
    Machine LedgerOp LedgerWorld := ⟨LedgerAnswer, LedgerOp.run may⟩

abbrev LedgerM (α : Type) : Type 1 := Fallible String LedgerOp α

/-! ## Observe and Resolve -/

def observe (blockSeq : Nat) (tables : List QuiescentTable) : LedgerM Unit :=
  if blockSeq = 0 then throw "member consensus: quiescence needs a block seq"
  else if tables = [] then pure ()
  else call (.observe blockSeq tables)

/-- Asks the arbiter about the pending blocks; returns the resolved ones and the
    errors. -/
def readVerifications (me : Nat) (nodeID : String) :
    List Nat → List Nat × List String → LedgerM (List Nat × List String)
  | [], acc => pure acc
  | blockSeq :: rest, (resolved, errs) => do
    call .ctxErr
    match ← attempt (call (.getBlockVerification me blockSeq nodeID)) with
    | .error e =>
      readVerifications me nodeID rest
        (resolved, errs ++ [s!"member consensus: resolve block {blockSeq}: {e}"])
    | .ok bv =>
      readVerifications me nodeID rest
        (if unneeded bv nodeID then resolved ++ [blockSeq] else resolved, errs)

/-- Removes what was resolved; returns all errors. -/
def settle (me : Nat) (pending : List (Nat × Option Nat)) (resolved : List Nat) (errs : List String) :
    LedgerM (List String) :=
  if resolved = [] then pure errs
  else do
    match ← attempt (call (.update me resolved pending)) with
    | .ok _ => pure errs
    | .error e => pure (errs ++ [e])

def resolve (me : Nat) (nodeID : String) : LedgerM Unit := do
  let pending ← ask (.copy me)
  let (resolved, errs) ← readVerifications me nodeID (pending.map (·.1)) ([], [])
  let errs ← settle me pending resolved errs
  if errs = [] then pure () else throw ("\n".intercalate errs)

/-! ## The system -/

/-- Any number of Observe and Resolve calls at the same time. -/
inductive LedgerSlot where
  | observe (n : Nat)
  | resolve (n : Nat)
  deriving DecidableEq

def ledgerSystem (nodeID : String)
    (may : LedgerWorld → Ledger → Nat → List QuiescentTable → Bool) :
    System LedgerOp LedgerWorld LedgerSlot (Except String Unit) where
  machine := ledgerMachine may
  start i _ p :=
    match i with
    | .observe _ => ∃ blockSeq tables, p = (observe blockSeq tables).run
    | .resolve n => p = (resolve n nodeID).run
  env _ _ := False
  crash w := w.restart

/-- A member without a ledger file. -/
def LedgerFresh (w : LedgerWorld) : Prop := w = ⟨none, some ⟨[], .empty⟩, 0, []⟩

end ArbiterCore.Quiescence
