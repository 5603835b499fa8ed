-- SUMMARY: The promotion and settle handlers of the storage node (promote*.go, settle.go, chparts.go).
import ArbiterCore.SNode.World

/-!
# Promotion

`handlePromote` applies a promotion command or answers its settle: it builds
base plus candidates in the hg_promote shadow, journals an intent, publishes the
shadow with REPLACE PARTITION, journals the applied promotion and acknowledges
it. Everything runs under the promotion lock of the command's partition.
-/

namespace ArbiterCore

open Conc

/-! ## Partition helpers -/

def escapeSQLString (s : String) : String :=
  String.ofList (s.toList.flatMap fun c =>
    if c = '\\' then ['\\', '\\'] else if c = '\'' then ['\\', '\''] else [c])

def quotePartition (sch : TableSchema) (pid : String) : Except GoError String :=
  if sch.partitionBy = "" then
    if pid ≠ "all" then .error (errorf s!"unpartitioned table wants partition all, got {pid}")
    else .ok "tuple()"
  else
    match pid.toList with
    | 'p' :: '_' :: c :: cs => .ok ("'" ++ escapeSQLString (String.ofList (c :: cs)) ++ "'")
    | _ => .error (errorf s!"partition id {pid} does not use p_<value> form")

/-- Runs a statement; its error carries the statement's text. -/
def exec (op : Op (Except GoError Unit)) (query : String) : Handler Unit :=
  within query (call op)

/-- Drops the partition of `db` when it has an active part. -/
def dropPartitionIfPresent (db : Database) (sch : TableSchema) (pid : String) : Handler Unit := do
  let parts ← call (.activeParts db sch.tableID)
  if partsInLogicalPartition parts sch pid = [] then pure ()
  else do
    let partition ← fromExcept (quotePartition sch pid)
    exec (.dropPartition db sch pid) s!"ALTER TABLE {db.text}.{sch.tableID} DROP PARTITION {partition}"

/-- One part of a scan; an empty hash marks a part without rows. -/
structure ShadowPart where
  name : String
  rowLtHash : String
  deriving DecidableEq

section

variable [HouseGate]

/-- The content root of one partition of `db`, with its scanned parts. -/
def partitionContentScan (db : Database) (sch : TableSchema) (pid : String) :
    Handler (String × List ShadowPart) := do
  let parts ← call (.activeParts db sch.tableID)
  let names := (partsInLogicalPartition parts sch pid).map (·.name)
  if names = [] then return (accumulatorHex 0, [])
  else do
    let scans ← call (.scanParts db sch names)
    let root ← fromExcept (lthashCombineHexAll "" (scans.map (·.rowLtHash)))
    return (root, scans.map fun s => ⟨s.partName, s.rowLtHash⟩)

def partitionContentRoot (db : Database) (sch : TableSchema) (pid : String) : Handler String := do
  let (root, _) ← partitionContentScan db sch pid
  return root

end

/-! ## Commands -/

variable (cmd : PromoteSafePartition)

/-- The candidates' row hashes, sorted. -/
def candidateHashes : List String :=
  (cmd.candidateParts.map (·.partRowLtHash)).insertionSort (· ≤ ·)

def candidateNames : List String :=
  cmd.candidateParts.map (·.partName)

def promotionIntentFor (post : String) (safeBefore : List Part) :
    PromotionIntent where
  promotionSeq := cmd.promotionSeq
  basePartitionRoot := cmd.basePartitionRoot
  postPartitionRoot := post
  baseSafeSnapshotID := cmd.baseSafeSnapshotID
  candidatePartHashes := candidateHashes cmd
  unsafePartNames := candidateNames cmd
  safePartsBefore := safeBefore.map fun p => ⟨p.name, p.partitionID, p.partitionValue, p.physHash⟩

def promotionIntentMatchesCommand (intent : PromotionIntent) (cmd : PromoteSafePartition)
    (post : String) : Bool :=
  intent.promotionSeq == cmd.promotionSeq && intent.basePartitionRoot == cmd.basePartitionRoot &&
    intent.postPartitionRoot == post && intent.baseSafeSnapshotID == cmd.baseSafeSnapshotID &&
    intent.candidatePartHashes == candidateHashes cmd && intent.unsafePartNames == candidateNames cmd

def abbreviateRoot (root : String) : String :=
  if root.length ≤ 26 then root
  else String.ofList (root.toList.take 18 ++ ['…'] ++ root.toList.drop (root.length - 8))

/-- The prefix of the errors about one promotion. -/
def promotionText : String :=
  s!"promotion {cmd.promotionSeq} of {cmd.tableID}/{cmd.partitionID}"

section

variable [LtHash]

/-- Counts the candidates by canonical row hash. -/
def candidateMultiset : List PartRef → Except GoError (GoMap String Nat)
  | [] => .ok .empty
  | cp :: cps =>
    if cp.partRowLtHash = "" then
      .error (errorf s!"candidate part {cp.partName} has invalid part_row_lthash: empty")
    else
      match parseAccumulatorHex cp.partRowLtHash with
      | .error e => .error (e.wrap s!"candidate part {cp.partName} has invalid part_row_lthash")
      | .ok h => do
        let want ← candidateMultiset cps
        return want.insert (accumulatorHex h) (want.getD (accumulatorHex h) 0 + 1)

/-- The canonical spelling of a row hash. -/
def canonical (hash : String) : String := accumulatorHex (accOf hash)

/-- Refuses a command whose candidates are not each a valid, distinct row hash. -/
def refuseDuplicateCandidates (cmd : PromoteSafePartition) : Except GoError Unit :=
  match candidateMultiset cmd.candidateParts with
  | .error e => .error (e.wrap (promotionText cmd))
  | .ok want =>
    match cmd.candidateParts.find? fun cp => want.getD (canonical cp.partRowLtHash) 0 > 1 with
    | some cp => .error (errorf (promotionText cmd ++
        s!": duplicate candidate part_row_lthash {abbreviateRoot cp.partRowLtHash} (part {
          cp.partName}): the promoted partition would hold the same rows twice"))
    | none => .ok ()

/-- Refuses a shadow in which two parts have the same row hash; `seen` are the
    parts before. -/
def duplicateShadowPartHash (cmd : PromoteSafePartition) (seen : List ShadowPart) :
    List ShadowPart → Except GoError Unit
  | [] => .ok ()
  | p :: ps =>
    match seen.find? (·.rowLtHash = p.rowLtHash) with
    | some other => .error (errorf (promotionText cmd ++
        s!": duplicate part row LtHash {abbreviateRoot p.rowLtHash} in shadow parts {other.name} and {
          p.name}: the promoted partition would hold the same rows twice " ++
        "(a candidate already in the safe base, or a duplicate already in it)"))
    | none => duplicateShadowPartHash cmd (p :: seen) ps

/-- Splits the shadow parts, in name order, into those that a candidate claims
    and the rest; `want` counts the open candidates. -/
def claimShadowParts (want : GoMap String Nat) :
    List ShadowPart → Except GoError (List String × List String × GoMap String Nat)
  | [] => .ok ([], [], want)
  | p :: ps =>
    if p.rowLtHash = "" then do
      let (keep, drop, left) ← claimShadowParts want ps
      return (keep, p.name :: drop, left)
    else
      match parseAccumulatorHex p.rowLtHash with
      | .error e => .error (e.wrap s!"shadow part {p.name}")
      | .ok h =>
        let k := accumulatorHex h
        if want.getD k 0 > 0 then do
          let (keep, drop, left) ← claimShadowParts (want.insert k (want.getD k 0 - 1)) ps
          return (p.name :: keep, drop, left)
        else do
          let (keep, drop, left) ← claimShadowParts want ps
          return (keep, p.name :: drop, left)

/-- The candidates that no shadow part matched. -/
def unmatchedCandidates (want : GoMap String Nat) : List PartRef → List String
  | [] => []
  | cp :: cps =>
    let k := canonical cp.partRowLtHash
    if want.getD k 0 > 0 then
      s!"{cp.partName}({abbreviateRoot cp.partRowLtHash})" ::
        unmatchedCandidates (want.insert k (want.getD k 0 - 1)) cps
    else unmatchedCandidates want cps

/-- Matches the candidates against the unsafe-origin shadow parts as multisets of
    row hashes: the parts to keep and to drop, in name order. -/
def matchShadowCandidates (cmd : PromoteSafePartition) (shadow : List ShadowPart) :
    Except GoError (List String × List String) := do
  let want ← candidateMultiset cmd.candidateParts
  let shadow := shadow.insertionSort (fun a b => a.name ≤ b.name)
  let (keep, drop, left) ← claimShadowParts want shadow
  let missing := unmatchedCandidates left cmd.candidateParts
  if missing ≠ [] then
    throw (errorf ("candidate parts [" ++ String.intercalate ", " missing ++
      "] are not present in hg_unsafe: the attached unsafe partition holds [" ++
      String.intercalate ", " (shadow.map fun p => s!"{p.name}({abbreviateRoot p.rowLtHash})") ++ "]"))
  else return (keep, drop)

end

/-! ## The shadow -/

def prepareShadow (sch : TableSchema) (partition : String) :
    Handler Unit := do
  let found ← within s!"snode: check hg_promote.{sch.tableID}"
    (call (.promoteTableExists sch.tableID))
  if ¬ found then
    throw ⟨.promoteTableMissing, "snode: hg_promote table is missing; run the role with a create-capable schema " ++
      s!"source so EnsureProtocolTables can build it: hg_promote.{sch.tableID}"⟩
  else do
    dropPartitionIfPresent .hgPromote sch cmd.partitionID
    if cmd.basePartitionRoot = "" then pure ()
    else
      exec (.attachPartition .hgSafe sch cmd.partitionID)
        s!"ALTER TABLE hg_promote.{sch.tableID} ATTACH PARTITION {partition} FROM hg_safe.{sch.tableID}"

/-- Whether the candidates are exactly the active parts of the hg_unsafe partition. -/
def candidatesCoverUnsafePartition (sch : TableSchema) :
    Handler Bool := do
  let parts ← call (.activeParts .hgUnsafe sch.tableID)
  match cmd.candidateParts.find? (·.partName = "") with
  | some cp => throw (errorf s!"candidate part for {cp.tableID}/{cp.partitionID} has empty part_name")
  | none =>
    let inPartition := (partsInLogicalPartition parts sch cmd.partitionID).map (·.name)
    let candidates := (candidateNames cmd).dedup
    return (inPartition.all (· ∈ candidates) && inPartition.length == candidates.length)

/-- The sorted names of the active shadow parts of one partition. -/
def shadowPartitionParts (sch : TableSchema) (pid : String) : Handler (List String) := do
  let parts ← call (.activeParts .hgPromote sch.tableID)
  return ((partsInLogicalPartition parts sch pid).map (·.name)).insertionSort (· ≤ ·)

/-- Gives the unsafe-origin parts their scanned hashes. -/
def assignHashes (scan : List String) (hashes : GoMap String String) :
    List ShadowPart → Except GoError (List ShadowPart × GoMap String String)
  | [] => .ok ([], hashes)
  | p :: ps =>
    match hashes.lookup p.name with
    | some h => do
      let (out, left) ← assignHashes scan (hashes.erase p.name) ps
      return ({ p with rowLtHash := h } :: out, left)
    | none =>
      if p.name ∈ scan then .error (errorf s!"shadow scan omitted part {p.name}")
      else do
        let (out, left) ← assignHashes scan hashes ps
        return (p :: out, left)

/-- The scanned hashes by part name. -/
def scanHashes : List PartScanResult → Except GoError (GoMap String String)
  | [] => .ok .empty
  | s :: scans =>
    if s.rowLtHash = "" then
      .error (errorf s!"shadow part {s.partName} scanned without a row LtHash")
    else do
      let hashes ← scanHashes scans
      return hashes.insert s.partName s.rowLtHash

/-- The shadow parts that were not there before the ATTACH from hg_unsafe. -/
def unsafeOriginShadowParts (sch : TableSchema) (pid : String) (base : List String) :
    Handler (List ShadowPart) := do
  let parts ← call (.activeParts .hgPromote sch.tableID)
  let parts := partsInLogicalPartition parts sch pid
  let missing := base.filter (· ∉ parts.map (·.name))
  let fresh := parts.filter (·.name ∉ base)
  let out := fresh.map fun p => ⟨p.name, ""⟩
  let scan := (fresh.filter (·.rows > 0)).map (·.name)
  if missing ≠ [] then
    throw (errorf ("shadow base parts [" ++ String.intercalate ", " (missing.insertionSort (· ≤ ·)) ++
      "] vanished during the attach from hg_unsafe"))
  else if scan = [] then return out
  else do
    let scans ← within "scan unsafe-origin shadow parts"
      (call (.scanParts .hgPromote sch scan))
    let hashes ← fromExcept (scanHashes scans)
    let (out, left) ← fromExcept (assignHashes scan hashes out)
    if left.keys ≠ [] then
      throw (errorf s!"shadow scan returned {left.keys.length} unrequested parts")
    else return out

/-- Drops the named shadow parts, one statement each. -/
def dropShadowParts (sch : TableSchema) (names : List String) : Handler Unit :=
  names.forM fun name => exec (.dropPart .hgPromote sch.tableID name .shadow)
    s!"ALTER TABLE hg_promote.{sch.tableID} DROP PART '{escapeSQLString name}'"

section

variable [HouseGate] (cmd : PromoteSafePartition)

/-- Attaches the hg_unsafe partition and drops every part that is no candidate. -/
def attachCandidateSubset (sch : TableSchema) (partition : String) :
    Handler Unit :=
  -- Go's deferred drop of the shadow partition on every failure
  onError
    (do
      let base ← shadowPartitionParts sch cmd.partitionID
      exec (.attachPartition .hgUnsafe sch cmd.partitionID)
        s!"ALTER TABLE hg_promote.{sch.tableID} ATTACH PARTITION {partition} FROM hg_unsafe.{sch.tableID}"
      let attached ← within ("subset " ++ promotionText cmd)
        (unsafeOriginShadowParts sch cmd.partitionID base)
      let (keep, drop) ← within ("subset " ++ promotionText cmd)
        (fromExcept (matchShadowCandidates cmd attached))
      dropShadowParts sch drop
      let final ← shadowPartitionParts sch cmd.partitionID
      let want := (base ++ keep).insertionSort (· ≤ ·)
      if final ≠ want then
        throw (errorf ("subset " ++ promotionText cmd ++ ": shadow holds parts [" ++
          String.intercalate ", " final ++ "] after dropping non-candidates, want base ∪ candidates [" ++
          String.intercalate ", " want ++ "]"))
      else pure ())
    (dropPartitionIfPresent .hgPromote sch cmd.partitionID)

def attachCandidateParts (sch : TableSchema) (partition : String) :
    Handler Unit := do
  if ← candidatesCoverUnsafePartition cmd sch then
    exec (.attachPartition .hgUnsafe sch cmd.partitionID)
      s!"ALTER TABLE hg_promote.{sch.tableID} ATTACH PARTITION {partition} FROM hg_unsafe.{sch.tableID}"
  else attachCandidateSubset cmd sch partition

/-! ## Publication -/

structure SafePartMappings where
  candidates : List SafePartMapping
  partition : List SafePartMapping
  deriving DecidableEq

/-- Turns the scans of a safe partition into mappings with distinct hashes;
    returns them with the parts that were not scanned and the sum. -/
def mapSafeScans (infos : List Part) (byHash : List SafePartMapping) (sum : LtHash.Acc) :
    List PartScanResult → Except GoError (List SafePartMapping × List Part × LtHash.Acc)
  | [] => .ok (byHash, infos, sum)
  | scan :: scans =>
    match infos.find? (·.name = scan.partName) with
    | none => .error (errorf s!"safe scan returned an unknown or incomplete physical part {scan.partName}")
    | some info =>
      if info.physHash = "" then
        .error (errorf s!"safe scan returned an unknown or incomplete physical part {scan.partName}")
      else
        match parseAccumulatorHex scan.rowLtHash with
        | .error _ => .error (errorf s!"safe part {scan.partName} has invalid row LtHash")
        | .ok h =>
          let key := accumulatorHex h
          if scan.rowLtHash = "" then
            .error (errorf s!"safe part {scan.partName} has invalid row LtHash")
          else if byHash.any (·.partRowLtHash = key) then
            .error (errorf s!"safe partition has duplicate part row LtHash {key}")
          else mapSafeScans (infos.filter (·.name ≠ scan.partName))
            (byHash ++ [⟨key, scan.partName, info.physHash⟩]) (sum + h) scans

/-- Finds each candidate among the mappings; `seen` are the hashes before. -/
def mapSafeCandidates (byHash : List SafePartMapping) (seen : List String) :
    List PartRef → Except GoError (List SafePartMapping)
  | [] => .ok []
  | cp :: cps =>
    match parseAccumulatorHex cp.partRowLtHash with
    | .error _ => .error (errorf s!"candidate part {cp.partName} has invalid part_row_lthash")
    | .ok h =>
      let key := accumulatorHex h
      if cp.partRowLtHash = "" then
        .error (errorf s!"candidate part {cp.partName} has invalid part_row_lthash")
      else if key ∈ seen then
        .error (errorf s!"duplicate candidate part_row_lthash {cp.partRowLtHash}")
      else
        match byHash.find? (·.partRowLtHash = key) with
        | none => .error (errorf s!"candidate part {cp.partRowLtHash} is absent from the safe partition after REPLACE")
        | some mapping => do
          let rest ← mapSafeCandidates byHash (key :: seen) cps
          return { mapping with partRowLtHash := cp.partRowLtHash } :: rest

/-- The inventory of a safe partition from its listing and its scan. -/
def mappingsOf (post : String) (after : List Part)
    (scans : List PartScanResult) : Except GoError SafePartMappings := do
  let (partition, unscanned, sum) ← mapSafeScans after [] 0 scans
  if unscanned ≠ [] then throw (errorf s!"safe scan omitted {unscanned.length} active parts")
  else
    match parseAccumulatorHex post with
    | .error _ => throw (errorf "safe inventory closure differs from the promoted partition root")
    | .ok expected =>
      if sum ≠ expected then
        throw (errorf "safe inventory closure differs from the promoted partition root")
      else do
        let candidates ← mapSafeCandidates partition [] cmd.candidateParts
        return ⟨candidates, partition⟩

/-- Scans the whole safe partition into its mappings. -/
def safeMappings (sch : TableSchema) (cmd : PromoteSafePartition) (post : String) :
    Handler SafePartMappings := do
  let parts ← call (.activeParts .hgSafe sch.tableID)
  let after := partsInLogicalPartition parts sch cmd.partitionID
  let scans ← call (.scanParts .hgSafe sch (after.map (·.name)))
  fromExcept (mappingsOf cmd post after scans)

/-- The error of a shadow that is not base plus candidates. -/
def shadowClosureMismatch (shadowRoot post : String) (safeBefore : List Part)
    (cmd : PromoteSafePartition) : GoError :=
  errorf (s!"shadow closure mismatch for {cmd.tableID}/{cmd.partitionID} promotion {
    cmd.promotionSeq}: promote partition root {abbreviateRoot shadowRoot} != base+candidates {
    abbreviateRoot post} (unverified or missing part in shadow); safe parts before promotion [" ++
    String.intercalate ", " (safeBefore.map fun p => s!"{p.name}(rows={p.rows})") ++
    "], candidate parts [" ++ String.intercalate ", " (candidateNames cmd) ++ "]")

/-- The gate before the intent: the shadow holds exactly base plus candidates,
    and no content twice. A refused shadow is dropped. -/
def closureGate (sch : TableSchema) (cmd : PromoteSafePartition) (safeBefore : List Part)
    (post : String) : Handler Unit := do
  let (shadowRoot, shadowParts) ← partitionContentScan .hgPromote sch cmd.partitionID
  if shadowRoot ≠ post then do
    ignoreError (dropPartitionIfPresent .hgPromote sch cmd.partitionID)
    throw (shadowClosureMismatch shadowRoot post safeBefore cmd)
  else
    match duplicateShadowPartHash cmd [] shadowParts with
    | .error e => do
      ignoreError (dropPartitionIfPresent .hgPromote sch cmd.partitionID)
      throw e
    | .ok _ => pure ()

def buildAndReplace : Handler (String × SafePartMappings) := do
  let sch ← call (.schemaFor cmd.tableID)
  let partition ← fromExcept (quotePartition sch cmd.partitionID)
  fromExcept (refuseDuplicateCandidates cmd)
  call (.auditBeforeShadow cmd)
  prepareShadow cmd sch partition
  let safeBefore ← call (.activeParts .hgSafe sch.tableID)
  attachCandidateParts cmd sch partition
  let post ← fromExcept (lthashCombineHexAll cmd.basePartitionRoot (candidateHashes cmd))
  let safeBefore := partsInLogicalPartition safeBefore sch cmd.partitionID
  closureGate sch cmd safeBefore post
  within "journal promotion intent"
    (call (.write (.beginPromotion cmd.key (promotionIntentFor cmd post safeBefore))))
  exec (.replacePartition sch cmd)
    s!"ALTER TABLE hg_safe.{sch.tableID} REPLACE PARTITION {partition} FROM hg_promote.{sch.tableID}"
  dropPartitionIfPresent .hgPromote sch cmd.partitionID
  let mappings ← safeMappings sch cmd post
  return (post, mappings)

/-- Resolves the crash boundary around REPLACE: `none` when it never became
    visible, else the root and mappings of the published partition. -/
def reconcilePromotionIntent (intent : PromotionIntent) :
    Handler (Option (String × SafePartMappings)) := do
  let post ← fromExcept (lthashCombineHexAll cmd.basePartitionRoot (candidateHashes cmd))
  if ¬ promotionIntentMatchesCommand intent cmd post then
    throw (errorf s!"unresolved promotion intent seq {intent.promotionSeq} does not match command seq {
      cmd.promotionSeq}")
  else do
    let sch ← call (.schemaFor cmd.tableID)
    let _ ← fromExcept (quotePartition sch cmd.partitionID)
    let currentRoot ← partitionContentRoot .hgSafe sch cmd.partitionID
    let baseRoot ← fromExcept (lthashCombineHexAll cmd.basePartitionRoot [])
    if currentRoot = baseRoot then return none
    else if currentRoot ≠ post then
      throw (errorf s!"safe partition after unresolved promotion has root {currentRoot}, expected base {
        baseRoot} or post {post}")
    else do
      dropPartitionIfPresent .hgPromote sch cmd.partitionID
      let mappings ← safeMappings sch cmd post
      return some (post, mappings)

/-! ## Acknowledgements -/

def sendAck (ack : PromotionAck) : Handler Unit := call (.ackPromotion ack)

variable (r : Role)

/-- The acknowledgement of an applied promotion. -/
def appliedAck (cmd : PromoteSafePartition) (post : String)
    (mappings : SafePartMappings) : PromotionAck where
  nodeID := r.nodeID
  promotionSeq := cmd.promotionSeq
  tableID := cmd.tableID
  partitionID := cmd.partitionID
  postPartitionCommitment := post
  parts := mappings.candidates
  safePartitionParts := mappings.partition
  applied := true
  detail := ""

/-- The acknowledgement of a promotion that was not applied. -/
def notAppliedAck (cmd : PromoteSafePartition) (detail : String) : PromotionAck where
  nodeID := r.nodeID
  promotionSeq := cmd.promotionSeq
  tableID := cmd.tableID
  partitionID := cmd.partitionID
  postPartitionCommitment := ""
  parts := []
  safePartitionParts := []
  applied := false
  detail := detail

def finishAppliedPromotion (cmd : PromoteSafePartition) (post : String)
    (mappings : SafePartMappings) : Handler Unit := do
  let ack := appliedAck r cmd post mappings
  within "journal applied promotion"
    (call (.write (.recordAppliedPromotion cmd.key cmd.promotionSeq ack post cmd.baseSafeSnapshotID
      (candidateHashes cmd) (candidateNames cmd))))
  sendAck ack

/-- The canonical hashes of a persisted acknowledgement's candidates, if valid
    and distinct. -/
def ackHashes : List SafePartMapping → Option (List String)
  | [] => some []
  | p :: ps => do
    let rest ← ackHashes ps
    let h ← (parseAccumulatorHex p.partRowLtHash).toOption
    if p.partRowLtHash = "" ∨ accumulatorHex h ∈ rest then none else some (accumulatorHex h :: rest)

/-- Whether each candidate takes one of the hashes. -/
def takesHashes (hashes : List String) : List PartRef → Bool
  | [] => true
  | p :: ps =>
    match parseAccumulatorHex p.partRowLtHash with
    | .error _ => false
    | .ok h =>
      p.partRowLtHash ≠ "" && accumulatorHex h ∈ hashes && takesHashes (hashes.erase (accumulatorHex h)) ps

def legacyAckMatchesCommand (ack : PromotionAck) (cmd : PromoteSafePartition) :
    Except GoError Unit :=
  if ack.tableID ≠ cmd.tableID ∨ ack.partitionID ≠ cmd.partitionID ∨
      ack.promotionSeq ≠ cmd.promotionSeq then
    .error (errorf "persisted ACK identity differs from retried command")
  else if ack.parts.length ≠ cmd.candidateParts.length then
    .error (errorf "persisted ACK candidate set differs from retried command")
  else
    match ackHashes ack.parts with
    | none => .error (errorf "persisted ACK has invalid or duplicate candidate hashes")
    | some hashes =>
      if ¬ takesHashes hashes cmd.candidateParts then
        .error (errorf "persisted ACK candidate set differs from retried command")
      else if (lthashCombineHexAll cmd.basePartitionRoot (candidateHashes cmd)).toOption ≠
          some ack.postPartitionCommitment then
        .error (errorf "persisted ACK post root differs from retried command closure")
      else .ok ()

/-- Sends the journaled acknowledgement again; one without a complete inventory
    is refreshed first. -/
def resendStoredAck (ack : PromotionAck) : Handler Unit := do
  if ack.applied ∧ ack.safePartitionParts = [] then do
    within "refresh legacy promotion ack" (fromExcept (legacyAckMatchesCommand ack cmd))
    let sch ← call (.schemaFor cmd.tableID)
    let mappings ← within "refresh legacy promotion ack"
      (safeMappings sch cmd ack.postPartitionCommitment)
    let ack := { ack with
      parts := mappings.candidates
      safePartitionParts := mappings.partition }
    within "journal refreshed promotion ack"
      (call (.write (.recordRefreshedAck cmd.key ack)))
    sendAck ack
  else sendAck ack

/-! ## The handlers -/

/-- Drops the shadow of a promotion that was answered as not applied. -/
def dropSettledShadow : Handler Unit := do
  let sch ← call (.schemaFor cmd.tableID)
  let _ ← fromExcept (quotePartition sch cmd.partitionID)
  dropPartitionIfPresent .hgPromote sch cmd.partitionID

def settleNotApplied (cmd : PromoteSafePartition) : Handler Unit := do
  let s ← ask .state
  let ack := notAppliedAck r cmd
    s!"settle: promotion {cmd.promotionSeq} was not applied on this SNode"
  within s!"settle: journal the not-applied answer to promotion {cmd.promotionSeq}"
    (call (.write (.recordSettledNotApplied cmd.key cmd.promotionSeq ack (s.baseRoot cmd.key)
      (s.baseSnapshotID cmd.key))))
  ignoreError (dropSettledShadow cmd)
  within s!"settle: promotion {cmd.promotionSeq}" (sendAck ack)

/-- Answers a settle from durable state only. -/
def answerSettle (cmd : PromoteSafePartition) : Handler Unit := do
  let s ← ask .state
  if cmd.promotionSeq ≤ s.watermark cmd.key then do
    let s ← ask .state
    match s.lastAck cmd.key with
    | some ack =>
      if ack.promotionSeq = cmd.promotionSeq then
        within s!"settle: promotion {cmd.promotionSeq}" (resendStoredAck cmd ack)
      else pure ()
    | none => pure ()
  else do
    let s ← ask .state
    match s.pendingPromotion cmd.key with
    | some intent =>
      match ← within s!"settle: promotion {cmd.promotionSeq} recovery"
          (reconcilePromotionIntent cmd intent) with
      | some (post, mappings) =>
        within s!"settle: promotion {cmd.promotionSeq}"
          (finishAppliedPromotion r cmd post mappings)
      | none => settleNotApplied r cmd
    | none => settleNotApplied r cmd

/-- Refuses a promotion from another base, or builds and publishes it. -/
def applyPromotion (cmd : PromoteSafePartition) : Handler Unit := do
  let s ← ask .state
  let baseRoot := s.baseRoot cmd.key
  if cmd.basePartitionRoot ≠ baseRoot then do
    let ack := notAppliedAck r cmd
      s!"base CAS mismatch: local {baseRoot}, command {cmd.basePartitionRoot}"
    call (.write (.recordAck cmd.key cmd.promotionSeq ack baseRoot (s.baseSnapshotID cmd.key)))
    sendAck ack
  else do
    let (post, mappings) ← within s!"promotion {cmd.promotionSeq}" (buildAndReplace cmd)
    finishAppliedPromotion r cmd post mappings

/-- What `handlePromote` does under the promotion lock. -/
def promoteLocked (cmd : PromoteSafePartition) : Handler Unit := do
  let s ← ask .state
  if cmd.promotionSeq ≤ s.watermark cmd.key then do
    let s ← ask .state
    match s.lastAck cmd.key with
    | some ack =>
      if ack.promotionSeq = cmd.promotionSeq then resendStoredAck cmd ack else pure ()
    | none => pure ()
  else do
    let s ← ask .state
    match s.pendingPromotion cmd.key with
    | some intent =>
      match ← within s!"promotion {cmd.promotionSeq} recovery"
          (reconcilePromotionIntent cmd intent) with
      | some (post, mappings) => finishAppliedPromotion r cmd post mappings
      | none => applyPromotion r cmd
    | none => applyPromotion r cmd

/-- Runs one promotion command, or answers its settle. -/
def handlePromote (cmd : PromoteSafePartition) (settle : Bool) : Handler Unit := do
  within "promote authority" (call (.authorizePromotion cmd))
  match ← (ask (.requireOwned cmd.tableID) : Handler _) with
  | .error _ => pure ()
  | .ok _ => if settle then answerSettle r cmd else promoteLocked r cmd

end

end ArbiterCore
