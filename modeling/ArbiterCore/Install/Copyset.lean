-- SUMMARY: The tables of hg_replica and a pass of the copy reconciler (copyset/reconciler.go).
import ArbiterCore.Base.Durable
import ArbiterCore.Base.Text
import ArbiterCore.Install.Journal
import ArbiterCore.Registry.Snapshot

/-!
# The copy reconciler

A pass drops the tables of hg_replica that are no copy, creates the missing copies
and publishes the copies that the registry wants, with those that are ready. A copy
that stays ready keeps its generation; a copy that becomes ready gets a new one.
-/

namespace ArbiterCore.Install

open Registry
open Durable (Outcome)

/-! ## State -/

/-- An active part that holds rows, as `system.parts` lists it. `physHash` is its
    hash_of_all_files. -/
structure Part where
  name : String
  physHash : String
  rows : Nat
  deriving DecidableEq

/-- A table of hg_replica. -/
structure CopyTable where
  comment : String
  parts : List Part
  deriving DecidableEq

/-- A copy that the last pass wanted. -/
structure Published where
  copy : Copy
  ready : Bool
  deriving DecidableEq

/-- The published copies by table key, the last generation that was handed out, and by
    table name the drops whose `Dropped` hook failed. -/
structure CopySet where
  copies : GoMap String Published
  gens : Nat
  owed : GoMap String Copy

/-- What is fixed for a reconciler: the owners in scope, whether there is a `Dropped`
    hook, and the name of hg_replica. -/
structure CopysetConfig where
  owners : List Nat
  hook : Bool
  replicaDB : String

/-- How the registry, ClickHouse and the hook answer in one pass. The registry may not
    have answered yet or be disabled. `schema` is the hash of the schema of an
    incarnation of the view, or why it does not resolve; `retry` and `forget` are the
    errors of the hook for a drop that is owed and after a drop. -/
structure PassAnswers where
  view : Option (Option Snapshot)
  schema : Nat → Except String String
  listFails : Option String
  drop : String → Outcome
  ensure : String → Outcome
  retry : String → Option String
  forget : String → Option String

/-! ## What the registry wants -/

/-- The incarnation is Pending or Active and its owner is in scope. -/
def Wanted (owners : List Nat) (snap : Snapshot) (inc : TableIncarnation) : Prop :=
  snap.owner inc ∈ owners ∧ (inc.status = .pending ∨ inc.status = .active)

instance (owners : List Nat) (snap : Snapshot) (inc : TableIncarnation) : Decidable (Wanted owners snap inc) :=
  inferInstanceAs (Decidable (_ ∧ _))

def statusText : TableStatus → String
  | .legacy => "legacy"
  | .pending => "pending"
  | .refused => "refused"
  | .active => "active"
  | .retiring => "retiring"
  | .purging => "purging"
  | .purged => "purged"

/-- A copy that the registry wants; `err` is set when it names two live incarnations of
    the key or the schema does not resolve. -/
structure Desired where
  copy : Copy
  status : TableStatus
  err : Option String

/-- Adds one incarnation to the wanted copies. -/
def desire (schema : Nat → Except String String) (owners : List Nat) (snap : Snapshot) (out : GoMap String Desired)
    (inc : TableIncarnation) : GoMap String Desired :=
  if ¬Wanted owners snap inc then out
  else
    match out.lookup inc.key with
    | some prev =>
      let err := s!"the registry names incarnations {prev.copy.incarnationSeq} ({statusText prev.status}) and " ++
        s!"{inc.seq} ({statusText inc.status}) of {inc.key} as live; " ++
        "the arbiter keeps at most one Pending or Active incarnation per key"
      out.insert inc.key { prev with err := some err }
    | none => out.insert inc.key {
        copy := {
          owner := snap.owner inc
          tableKey := inc.key
          incarnationSeq := inc.seq
          table := copyTableName inc.key inc.seq
          schemaHash := (schema inc.seq).toOption.getD ""
          generation := 0 }
        status := inc.status
        err := match schema inc.seq with
          | .error err => some err
          | .ok _ => none }

def desired (schema : Nat → Except String String) (owners : List Nat) (snap : Snapshot) : GoMap String Desired :=
  snap.incarnations.foldl (desire schema owners snap) .empty

/-- The wanted copies in the order of their keys. -/
def byKey (wanted : GoMap String Desired) : List Desired :=
  (wanted.toList.insertionSort (·.1 ≤ ·.1)).map (·.2)

/-! ## What a table is -/

inductive Verdict where
  | keep | retired | unknown
  deriving DecidableEq

/-- Judges one table by its incarnation comment and its name. -/
def classify (owners : List Nat) (snap : Snapshot) (table comment : String) : Copy × Verdict :=
  let unattributed : Copy := ⟨0, "", 0, table, "", 0⟩
  match parseIncarnationComment comment with
  | none => (unattributed, .unknown)
  | some seq =>
    match snap.incarnation seq with
    | none => ({ unattributed with incarnationSeq := seq }, .unknown)
    | some inc =>
      if copyTableName inc.key seq ≠ table then (unattributed, .unknown)
      else
        let c : Copy := ⟨snap.owner inc, inc.key, seq, table, "", 0⟩
        if c.owner ∉ owners then (c, .unknown)
        else
          match inc.status with
          | .pending | .active => (c, .keep)
          | .retiring | .purging => (c, .retired)
          | _ => (c, .unknown)

/-! ## A pass -/

/-- What a pass has done so far: `out` is what it will publish, `drops` are the tables
    it issued a DROP for. -/
structure PassState where
  owed : GoMap String Copy
  gens : Nat
  replica : GoMap String CopyTable
  out : GoMap String Published
  drops : List String
  errs : List String

namespace PassState

def fail (st : PassState) (err : String) : PassState := { st with errs := st.errs ++ [err] }

def publish (st : PassState) (p : Published) : PassState :=
  { st with out := st.out.insert p.copy.tableKey p }

/-- Creates the table of a copy if it is missing. -/
def create (st : PassState) (c : Copy) : PassState :=
  match st.replica.lookup c.table with
  | some _ => st
  | none => { st with replica := st.replica.insert c.table ⟨incarnationComment c.incarnationSeq, []⟩ }

end PassState

variable (cfg : CopysetConfig)

/-- Runs the hook for a dropped table; a failure is owed. -/
def notifyDropped (answer : Option String) (c : Copy) (st : PassState) : PassState :=
  if !cfg.hook then st
  else
    match answer with
    | none => { st with owed := st.owed.erase c.table }
    | some err => PassState.fail { st with owed := st.owed.insert c.table c }
        s!"copyset: forget dropped table {cfg.replicaDB}.{c.table}: {err}"

variable (a : PassAnswers)

/-- Drops one table and tells the installer. -/
def dropTable (c : Copy) (st : PassState) : PassState :=
  let st := { st with drops := st.drops ++ [c.table] }
  let failed (err : String) := s!"copyset: drop {cfg.replicaDB}.{c.table}: {err}"
  match a.drop c.table with
  | .failedBefore err => st.fail (failed err)
  | .failedAfter err => PassState.fail { st with replica := st.replica.erase c.table } (failed err)
  | .done => notifyDropped cfg (a.forget c.table) c { st with replica := st.replica.erase c.table }

/-- `EnsureCopy`: creates the table if it is missing and verifies it; `a.ensure` answers
    for the parts of its shape other than the comment. -/
def ensure (cfg : CopysetConfig) (a : PassAnswers) (c : Copy) (st : PassState) : PassState × Option String :=
  match a.ensure c.table with
  | .failedBefore err => (st, some err)
  | .failedAfter err => (st.create c, some err)
  | .done =>
    let st := st.create c
    match st.replica.lookup c.table with
    | none => (st, some s!"ddl: protocol table missing: {cfg.replicaDB}.{c.table}")
    | some t =>
      let want := incarnationComment c.incarnationSeq
      if t.comment = want then (st, none)
      else (st, some (s!"ddl: protocol table drift: {cfg.replicaDB}.{c.table} comment: " ++
        s!"got {Text.quoted t.comment} want {Text.quoted want}"))

/-- The generation of a copy whose table was `present` in the listing, and the last one
    that was handed out then. -/
def generation (prev : GoMap String Published) (present : Bool) (c : Copy) (gens : Nat) : Nat × Nat :=
  match prev.lookup c.tableKey with
  | some p =>
    if present ∧ p.copy.table = c.table ∧ p.copy.generation ≠ 0 then (p.copy.generation, gens)
    else (gens + 1, gens + 1)
  | none => (gens + 1, gens + 1)

/-- Ensures one wanted copy. -/
def ensureCopy (prev : GoMap String Published) (present : List String)
    (st : PassState) (d : Desired) : PassState :=
  let c := d.copy
  let refused (err : String) := s!"copyset: copy {c.table} of {c.tableKey} (incarnation {c.incarnationSeq}): {err}"
  match d.err with
  | some err => (st.publish ⟨c, false⟩).fail (refused err)
  | none =>
    if (st.owed.lookup c.table).isSome then
      (st.publish ⟨c, false⟩).fail
        s!"copyset: copy {c.table} of {c.tableKey} waits until the installer forgets the dropped table of that name"
    else
      match ensure cfg a c st with
      | (st, some err) => (st.publish ⟨c, false⟩).fail (refused err)
      | (st, none) =>
        let (gen, gens) := generation prev (c.table ∈ present) c st.gens
        PassState.publish { st with gens := gens } ⟨{ c with generation := gen }, true⟩

/-- The drops whose hook is owed, in the order of their names. -/
def owedDrops (owed : GoMap String Copy) : List Copy :=
  (owed.toList.insertionSort (·.1 ≤ ·.1)).map (·.2)

/-- The tables of hg_replica as a pass lists them, by name. -/
def listTables (replica : GoMap String CopyTable) : List (String × String) :=
  (replica.toList.map fun e => (e.1, e.2.comment)).insertionSort (·.1 ≤ ·.1)

/-- Drops a listed table unless it is the copy of a wanted incarnation. -/
def dropUnlessKept (snap : Snapshot) (st : PassState) (t : String × String) :
    PassState :=
  let (c, v) := classify cfg.owners snap t.1 t.2
  if v = .keep then st else dropTable cfg a c st

/-- The listed tables that are kept. -/
def presentTables (snap : Snapshot) (listing : List (String × String)) : List String :=
  (listing.filter fun t => (classify cfg.owners snap t.1 t.2).2 = .keep).map (·.1)

/-- A finished pass: what it left behind, the tables it listed, the drops it issued, and
    whether it published. -/
structure Pass where
  set : CopySet
  replica : GoMap String CopyTable
  listing : Option (List (String × String))
  drops : List String
  published : Bool
  errs : List String

def reconcile (set : CopySet) (replica : GoMap String CopyTable) : Pass :=
  match a.view with
  | none => ⟨set, replica, none, [], false, ["copyset: the table registry has not answered yet"]⟩
  -- only the registry can tell a copy from an unknown table: nothing is dropped
  | some none => ⟨{ set with copies := .empty }, replica, none, [], true, []⟩
  | some (some snap) =>
    let st : PassState := ⟨set.owed, set.gens, replica, .empty, [], []⟩
    let st := (owedDrops set.owed).foldl (fun st c => notifyDropped cfg (a.retry c.table) c st) st
    match a.listFails with
    | some err =>
      ⟨{ set with owed := st.owed }, replica, none, [], false, st.errs ++ [s!"copyset: list member tables: {err}"]⟩
    | none =>
      let listing := listTables replica
      let st := listing.foldl (dropUnlessKept cfg a snap) st
      let st := (byKey (desired a.schema cfg.owners snap)).foldl
        (ensureCopy cfg a set.copies (presentTables cfg snap listing)) st
      ⟨⟨st.out, st.gens, st.owed⟩, st.replica, some listing, st.drops, true, st.errs⟩

/-! ## The wanted copies -/

section Desired

variable {schema : Nat → Except String String} {owners : List Nat} {snap : Snapshot}

/-- The copy is that of an incarnation of the view. -/
structure IsCopy (schema : Nat → Except String String) (snap : Snapshot) (c : Copy) (inc : TableIncarnation) :
    Prop where
  owner : c.owner = snap.owner inc
  tableKey : c.tableKey = inc.key
  seq : c.incarnationSeq = inc.seq
  table : c.table = copyTableName inc.key inc.seq
  schemaHash : schema inc.seq = .ok c.schemaHash

/-- A wanted copy without an error is that of the only wanted incarnation of its key
    among those that were seen. -/
structure Desired.Sound (schema : Nat → Except String String) (owners : List Nat) (snap : Snapshot)
    (seen : List TableIncarnation) (key : String) (d : Desired) : Prop where
  tableKey : d.copy.tableKey = key
  generation : d.copy.generation = 0
  unique : d.err = none → ∃ inc ∈ seen, Wanted owners snap inc ∧ IsCopy schema snap d.copy inc ∧
    ∀ inc' ∈ seen, Wanted owners snap inc' → inc'.key = key → inc' = inc

theorem Desired.Sound.append {seen : List TableIncarnation} {key : String} {d : Desired}
    (h : d.Sound schema owners snap seen key) {inc : TableIncarnation}
    (hinc : Wanted owners snap inc → inc.key ≠ key) : d.Sound schema owners snap (seen ++ [inc]) key := by
  refine ⟨h.tableKey, h.generation, fun herr => ?_⟩
  obtain ⟨i, hi, hwanted, hcopy, hunique⟩ := h.unique herr
  refine ⟨i, List.mem_append_left _ hi, hwanted, hcopy, fun inc' hinc' hwanted' hkey => ?_⟩
  rcases List.mem_append.mp hinc' with hseen | hnew
  · exact hunique inc' hseen hwanted' hkey
  · obtain rfl := List.mem_singleton.mp hnew
    exact absurd hkey (hinc hwanted')

/-- The wanted copies after some incarnations of the view. -/
structure DesiredSound (schema : Nat → Except String String) (owners : List Nat) (snap : Snapshot)
    (seen : List TableIncarnation) (out : GoMap String Desired) : Prop where
  sound : ∀ key d, out.lookup key = some d → d.Sound schema owners snap seen key
  missing : ∀ key, out.lookup key = none → ∀ inc ∈ seen, Wanted owners snap inc → inc.key ≠ key

theorem DesiredSound.desire {seen : List TableIncarnation} {out : GoMap String Desired}
    (h : DesiredSound schema owners snap seen out) (inc : TableIncarnation) :
    DesiredSound schema owners snap (seen ++ [inc]) (desire schema owners snap out inc) := by
  have hmissing : ∀ key, out.lookup key = none → (Wanted owners snap inc → inc.key ≠ key) →
      ∀ inc' ∈ seen ++ [inc], Wanted owners snap inc' → inc'.key ≠ key := by
    intro key hkey hinc inc' hinc' hwanted
    rcases List.mem_append.mp hinc' with hseen | hnew
    · exact h.missing key hkey inc' hseen hwanted
    · obtain rfl := List.mem_singleton.mp hnew
      exact hinc hwanted
  unfold Install.desire
  split
  · next hunwanted =>
    exact ⟨fun key d hd => (h.sound key d hd).append fun hw => absurd hw hunwanted,
      fun key hkey => hmissing key hkey fun hw => absurd hw hunwanted⟩
  next hwanted =>
  rw [not_not] at hwanted
  split
  · next prev hprev =>
    refine ⟨fun key d hd => ?_, fun key hkey => ?_⟩
    · rw [GoMap.lookup_insert] at hd
      split at hd
      · next hkey =>
        cases hd
        have hsound := h.sound _ _ hprev
        exact ⟨hsound.tableKey.trans hkey.symm, hsound.generation, nofun⟩
      · next hkey => exact (h.sound key d hd).append fun _ => Ne.symm hkey
    · rw [GoMap.lookup_insert] at hkey
      split at hkey
      · cases hkey
      · next hne => exact hmissing key hkey fun _ => Ne.symm hne
  · next hprev =>
    refine ⟨fun key d hd => ?_, fun key hkey => ?_⟩
    · rw [GoMap.lookup_insert] at hd
      split at hd
      · next hkey =>
        cases hd
        refine ⟨hkey.symm, rfl, fun herr => ⟨inc, by simp, hwanted, ⟨rfl, rfl, rfl, rfl, ?_⟩, ?_⟩⟩
        · cases hschema : schema inc.seq with
          | error err => simp [hschema] at herr
          | ok hash => rfl
        · intro inc' hinc' hwanted' hsame
          rcases List.mem_append.mp hinc' with hseen | hnew
          · exact absurd (hsame.trans hkey) (h.missing _ hprev inc' hseen hwanted')
          · exact List.mem_singleton.mp hnew
      · next hkey => exact (h.sound key d hd).append fun _ => Ne.symm hkey
    · rw [GoMap.lookup_insert] at hkey
      split at hkey
      · cases hkey
      · next hne => exact hmissing key hkey fun _ => Ne.symm hne

theorem desired_sound (key : String) (d : Desired) (h : (desired schema owners snap).lookup key = some d) :
    d.Sound schema owners snap snap.incarnations key := by
  suffices hfold : ∀ todo seen out, DesiredSound schema owners snap seen out →
      DesiredSound schema owners snap (seen ++ todo) (todo.foldl (desire schema owners snap) out) by
    have hempty : DesiredSound schema owners snap [] .empty := ⟨by simp, by simp⟩
    exact (hfold snap.incarnations [] .empty hempty).sound key d h
  intro todo
  induction todo with
  | nil => simp
  | cons inc todo ih =>
    intro seen out hout
    have hnext := ih (seen ++ [inc]) _ (hout.desire inc)
    rwa [List.append_assoc, List.singleton_append] at hnext

theorem byKey_sound {d : Desired} (h : d ∈ byKey (desired schema owners snap)) :
    d.Sound schema owners snap snap.incarnations d.copy.tableKey := by
  simp only [byKey, List.mem_map, List.mem_insertionSort, Prod.exists] at h
  obtain ⟨key, d', hmem, rfl⟩ := h
  have hd := desired_sound key d' (GoMap.mem_toList.mp hmem)
  rwa [← hd.tableKey] at hd

end Desired

/-! ## Hooks and drops -/

section Drops

variable {cfg : CopysetConfig}

/-- Every drop that is owed is filed under its table. -/
def OwedNamed (owed : GoMap String Copy) : Prop := ∀ t c, owed.lookup t = some c → c.table = t

/-- A step that runs hooks and drops tables, but leaves what will be published. -/
structure PassState.Clears (st st' : PassState) : Prop where
  gens : st'.gens = st.gens
  out : st'.out = st.out
  named : OwedNamed st.owed → OwedNamed st'.owed

theorem PassState.Clears.trans {st st' st'' : PassState} (h : st.Clears st') (h' : st'.Clears st'') :
    st.Clears st'' :=
  ⟨h'.gens.trans h.gens, h'.out.trans h.out, h'.named ∘ h.named⟩

theorem notifyDropped_clears (cfg : CopysetConfig) (answer : Option String) (c : Copy) (st : PassState) :
    st.Clears (notifyDropped cfg answer c st) := by
  unfold notifyDropped
  split
  · exact ⟨rfl, rfl, id⟩
  cases answer with
  | none =>
    refine ⟨rfl, rfl, fun h t c' hc' => h t c' ?_⟩
    rw [GoMap.lookup_erase] at hc'
    split at hc'
    · cases hc'
    · exact hc'
  | some err =>
    refine ⟨rfl, rfl, fun h t c' hc' => ?_⟩
    simp only [PassState.fail, GoMap.lookup_insert] at hc'
    split at hc'
    · next ht => cases hc'; exact ht.symm
    · exact h t c' hc'

theorem notifyDropped_replica (cfg : CopysetConfig) (answer : Option String) (c : Copy) (st : PassState) :
    (notifyDropped cfg answer c st).replica = st.replica ∧ (notifyDropped cfg answer c st).drops = st.drops := by
  unfold notifyDropped
  split
  · exact ⟨rfl, rfl⟩
  · cases answer <;> exact ⟨rfl, rfl⟩

theorem notifyDropped_owed {answer : Option String} {c : Copy} {st : PassState} {t : String} (h : t ≠ c.table) :
    (notifyDropped cfg answer c st).owed.lookup t = st.owed.lookup t := by
  unfold notifyDropped
  split
  · rfl
  · cases answer with
    | none => exact GoMap.lookup_erase_of_ne h _
    | some err => exact GoMap.lookup_insert_of_ne h _ _

/-- The retries at the start of a pass owe no other drop, and touch no table. -/
theorem retry_spec (cfg : CopysetConfig) (a : PassAnswers) (st : PassState) (hnamed : OwedNamed st.owed) :
    let st' := (owedDrops st.owed).foldl (fun st c => notifyDropped cfg (a.retry c.table) c st) st
    st.Clears st' ∧ st'.replica = st.replica ∧ st'.drops = st.drops ∧
      ∀ t, st.owed.lookup t = none → st'.owed.lookup t = none := by
  have howed : ∀ c ∈ owedDrops st.owed, st.owed.lookup c.table = some c := by
    intro c hc
    simp only [owedDrops, List.mem_map, List.mem_insertionSort, Prod.exists] at hc
    obtain ⟨t, c, hmem, rfl⟩ := hc
    have hlookup := GoMap.mem_toList.mp hmem
    rwa [hnamed t c hlookup]
  refine List.foldlRecOn (motive := fun st' => st.Clears st' ∧ st'.replica = st.replica ∧ st'.drops = st.drops ∧
    ∀ t, st.owed.lookup t = none → st'.owed.lookup t = none) (owedDrops st.owed) _
    ⟨⟨rfl, rfl, id⟩, rfl, rfl, fun _ h => h⟩ ?_
  rintro st' ⟨hclears, hreplica, hdrops, hnone⟩ c hc
  obtain ⟨hreplica', hdrops'⟩ := notifyDropped_replica cfg (a.retry c.table) c st'
  refine ⟨hclears.trans (notifyDropped_clears ..), hreplica'.trans hreplica, hdrops'.trans hdrops, fun t ht => ?_⟩
  have hne : t ≠ c.table := by
    rintro rfl
    rw [howed c hc] at ht
    cases ht
  exact (notifyDropped_owed hne).trans (hnone t ht)

theorem dropTable_spec (cfg : CopysetConfig) (a : PassAnswers) (c : Copy) (st : PassState) :
    st.Clears (dropTable cfg a c st) ∧ (dropTable cfg a c st).drops = st.drops ++ [c.table] ∧
      ∀ t, t ≠ c.table → (dropTable cfg a c st).replica.lookup t = st.replica.lookup t := by
  unfold dropTable
  dsimp only
  split
  · exact ⟨⟨rfl, rfl, id⟩, rfl, fun _ _ => rfl⟩
  · exact ⟨⟨rfl, rfl, id⟩, rfl, fun t ht => GoMap.lookup_erase_of_ne ht _⟩
  obtain ⟨hreplica, hdrops⟩ := notifyDropped_replica cfg (a.forget c.table) c
    { st with drops := st.drops ++ [c.table], replica := st.replica.erase c.table }
  refine ⟨?_, hdrops, fun t ht => hreplica ▸ GoMap.lookup_erase_of_ne ht _⟩
  have hclears := notifyDropped_clears cfg (a.forget c.table) c
    { st with drops := st.drops ++ [c.table], replica := st.replica.erase c.table }
  exact ⟨hclears.gens, hclears.out, hclears.named⟩

theorem classify_table (owners : List Nat) (snap : Snapshot) (table comment : String) :
    (classify owners snap table comment).1.table = table := by
  unfold classify
  dsimp only
  split
  · rfl
  split
  · rfl
  split
  · rfl
  · split
    · rfl
    · split <;> rfl

/-- A table is kept exactly when its comment names a wanted incarnation of the view
    whose copy has its name. -/
theorem classify_keep {owners : List Nat} {snap : Snapshot} {table comment : String} :
    (classify owners snap table comment).2 = .keep ↔ ∃ seq inc, parseIncarnationComment comment = some seq ∧
      snap.incarnation seq = some inc ∧ copyTableName inc.key seq = table ∧ Wanted owners snap inc := by
  unfold classify
  dsimp only
  cases hparse : parseIncarnationComment comment with
  | none => simp
  | some seq =>
    cases hinc : snap.incarnation seq with
    | none => simp [hinc]
    | some inc =>
      by_cases hname : copyTableName inc.key seq = table
      · by_cases howner : snap.owner inc ∈ owners
        · cases hstatus : inc.status <;> simp [hinc, hname, howner, hstatus, Wanted]
        · simp [hinc, hname, howner, Wanted]
      · simp [hinc, hname]

/-- The drops of a pass: exactly the listed tables that are not kept. -/
theorem drops_spec (cfg : CopysetConfig) (a : PassAnswers) (snap : Snapshot) (listing : List (String × String))
    (st : PassState) :
    let st' := listing.foldl (dropUnlessKept cfg a snap) st
    st.Clears st' ∧
      st'.drops = st.drops ++ (listing.filter fun t => (classify cfg.owners snap t.1 t.2).2 ≠ .keep).map (·.1) ∧
      ∀ t, t ∉ st'.drops → st'.replica.lookup t = st.replica.lookup t := by
  induction listing generalizing st with
  | nil => exact ⟨⟨rfl, rfl, id⟩, by simp, fun _ _ => rfl⟩
  | cons t listing ih =>
    rw [List.foldl_cons]
    obtain ⟨hclears, hdrops, hreplica⟩ := ih (dropUnlessKept cfg a snap st t)
    by_cases hkeep : (classify cfg.owners snap t.1 t.2).2 = .keep
    · have hsame : dropUnlessKept cfg a snap st t = st := by simp [dropUnlessKept, hkeep]
      rw [hsame] at hclears hdrops hreplica ⊢
      exact ⟨hclears, by simpa [hkeep] using hdrops, hreplica⟩
    have hdrop : dropUnlessKept cfg a snap st t =
        dropTable cfg a (classify cfg.owners snap t.1 t.2).1 st := by simp [dropUnlessKept, hkeep]
    obtain ⟨hclears', hdrops', hreplica'⟩ := dropTable_spec cfg a
      (classify cfg.owners snap t.1 t.2).1 st
    rw [classify_table] at hdrops' hreplica'
    rw [hdrop] at hclears hdrops hreplica ⊢
    rw [hdrops'] at hdrops
    refine ⟨hclears'.trans hclears, by simpa [hkeep] using hdrops, fun t' ht' => ?_⟩
    have hne : t' ≠ t.1 := by
      rintro rfl
      rw [hdrops] at ht'
      simp at ht'
    exact (hreplica t' ht').trans (hreplica' t' hne)

end Drops

/-! ## Ensuring the wanted copies -/

variable {replica : GoMap String CopyTable}

section Ensure

variable {cfg : CopysetConfig} {a : PassAnswers} {snap : Snapshot} {set : CopySet} {present : List String}
  {st st' : PassState}

/-- What a pass with the view `snap` publishes under a key, once it is in the state `st`.
    `set` is what was published before and `present` are the tables that were kept. -/
structure Published.Sound (cfg : CopysetConfig) (a : PassAnswers) (snap : Snapshot) (set : CopySet)
    (present : List String) (st : PassState) (key : String) (p : Published) : Prop where
  tableKey : p.copy.tableKey = key
  ready_iff : p.ready = true ↔ p.copy.generation ≠ 0
  generation_le : p.copy.generation ≤ st.gens
  unique : p.ready = true → ∃ inc ∈ snap.incarnations, Wanted cfg.owners snap inc ∧ IsCopy a.schema snap p.copy inc ∧
    ∀ inc' ∈ snap.incarnations, Wanted cfg.owners snap inc' → inc'.key = key → inc' = inc
  unowed : p.ready = true → st.owed.lookup p.copy.table = none
  table : p.ready = true → ∃ t, st.replica.lookup p.copy.table = some t ∧
    t.comment = incarnationComment p.copy.incarnationSeq
  /-- The generation is that of the last publication, or new. -/
  generation : p.ready = true → (p.copy.table ∈ present ∧ ∃ q, set.copies.lookup key = some q ∧
    q.copy.table = p.copy.table ∧ q.copy.generation = p.copy.generation) ∨ set.gens < p.copy.generation

/-- What holds while a pass ensures its copies; `replica` are the tables before. -/
structure Ensuring (cfg : CopysetConfig) (a : PassAnswers) (snap : Snapshot) (set : CopySet) (present : List String)
    (replica : GoMap String CopyTable) (st : PassState) : Prop where
  gens : set.gens ≤ st.gens
  tables : ∀ t tab, replica.lookup t = some tab → st.replica.lookup t = some tab
  published : ∀ key p, st.out.lookup key = some p → p.Sound cfg a snap set present st key

/-- A step that only adds tables and generations. -/
structure PassState.Grows (st st' : PassState) : Prop where
  owed : st'.owed = st.owed
  gens : st.gens ≤ st'.gens
  drops : st'.drops = st.drops
  tables : ∀ t tab, st.replica.lookup t = some tab → st'.replica.lookup t = some tab

theorem PassState.Grows.trans {st'' : PassState} (h : st.Grows st') (h' : st'.Grows st'') : st.Grows st'' :=
  ⟨h'.owed.trans h.owed, h.gens.trans h'.gens, h'.drops.trans h.drops,
    fun t tab ht => h'.tables t tab (h.tables t tab ht)⟩

theorem Published.Sound.grows {key : String} {p : Published} (h : p.Sound cfg a snap set present st key)
    (hgrows : st.Grows st') : p.Sound cfg a snap set present st' key := by
  refine ⟨h.tableKey, h.ready_iff, h.generation_le.trans hgrows.gens, h.unique, fun hr => ?_, fun hr => ?_,
    h.generation⟩
  · rw [hgrows.owed]
    exact h.unowed hr
  · obtain ⟨t, ht, hcomment⟩ := h.table hr
    exact ⟨t, hgrows.tables _ _ ht, hcomment⟩

/-- Publishing one more copy. -/
theorem Ensuring.publish (h : Ensuring cfg a snap set present replica st) (hgrows : st.Grows st')
    (hout : st'.out = st.out) {p : Published}
    (hp : p.Sound cfg a snap set present st' p.copy.tableKey) :
    Ensuring cfg a snap set present replica (st'.publish p) := by
  refine ⟨h.gens.trans hgrows.gens, fun t tab ht => hgrows.tables t tab (h.tables t tab ht), fun key q hq => ?_⟩
  simp only [PassState.publish, GoMap.lookup_insert, hout] at hq
  split at hq
  · next hkey =>
    cases hq
    subst hkey
    exact hp.grows ⟨rfl, le_rfl, rfl, fun _ _ h => h⟩
  · exact (h.published key q hq).grows ⟨hgrows.owed, hgrows.gens, hgrows.drops, hgrows.tables⟩

theorem PassState.create_grows (st : PassState) (c : Copy) :
    st.Grows (st.create c) ∧ (st.create c).out = st.out ∧ (st.create c).gens = st.gens := by
  unfold PassState.create
  split
  · exact ⟨⟨rfl, le_rfl, rfl, fun _ _ h => h⟩, rfl, rfl⟩
  next hnone =>
  refine ⟨⟨rfl, le_rfl, rfl, fun t tab ht => ?_⟩, rfl, rfl⟩
  have hne : t ≠ c.table := by
    rintro rfl
    rw [hnone] at ht
    cases ht
  exact (GoMap.lookup_insert_of_ne hne ..).trans ht

theorem ensure_spec (cfg : CopysetConfig) (a : PassAnswers) (c : Copy) (st : PassState) :
    let r := ensure cfg a c st
    st.Grows r.1 ∧ r.1.out = st.out ∧ r.1.gens = st.gens ∧
      (r.2 = none → ∃ t, r.1.replica.lookup c.table = some t ∧ t.comment = incarnationComment c.incarnationSeq) := by
  obtain ⟨hgrows, hout, hgens⟩ := st.create_grows c
  unfold ensure
  dsimp only
  split
  · exact ⟨⟨rfl, le_rfl, rfl, fun _ _ h => h⟩, rfl, rfl, nofun⟩
  · exact ⟨hgrows, hout, hgens, nofun⟩
  split
  · exact ⟨hgrows, hout, hgens, nofun⟩
  next t ht =>
  split
  · next hcomment => exact ⟨hgrows, hout, hgens, fun _ => ⟨t, ht, hcomment⟩⟩
  · exact ⟨hgrows, hout, hgens, nofun⟩

/-- A generation is that of the last publication, whose table was present, or new. -/
theorem generation_spec (prev : GoMap String Published) (b : Bool) (c : Copy) (gens : Nat) :
    let g := generation prev b c gens
    (g.2 = gens ∧ g.1 ≠ 0 ∧ b = true ∧ ∃ q, prev.lookup c.tableKey = some q ∧ q.copy.table = c.table ∧
      q.copy.generation = g.1) ∨ (g.1 = gens + 1 ∧ g.2 = gens + 1) := by
  unfold generation
  dsimp only
  split
  · next q hq =>
    split
    · next hkept => exact .inl ⟨rfl, hkept.2.2, hkept.1, q, hq, hkept.2.1, rfl⟩
    · exact .inr ⟨rfl, rfl⟩
  · exact .inr ⟨rfl, rfl⟩

/-- A copy that failed is published without a generation. -/
theorem Ensuring.refuse (h : Ensuring cfg a snap set present replica st) (hgrows : st.Grows st')
    (hout : st'.out = st.out) {d : Desired}
    (hd : d.Sound a.schema cfg.owners snap snap.incarnations d.copy.tableKey) (err : String) :
    Ensuring cfg a snap set present replica ((st'.publish ⟨d.copy, false⟩).fail err) ∧
      st.Grows ((st'.publish ⟨d.copy, false⟩).fail err) := by
  have hpublish : Ensuring cfg a snap set present replica (st'.publish ⟨d.copy, false⟩) :=
    h.publish hgrows hout ⟨rfl, by simp [hd.generation], by simp [hd.generation], nofun, nofun, nofun, nofun⟩
  refine ⟨⟨hpublish.gens, hpublish.tables, fun key p hp => ?_⟩, ⟨hgrows.owed, hgrows.gens, hgrows.drops, hgrows.tables⟩⟩
  exact (hpublish.published key p hp).grows ⟨rfl, le_rfl, rfl, fun _ _ h => h⟩

theorem Ensuring.ensureCopy
    (hset : ∀ key q, set.copies.lookup key = some q → q.copy.generation ≤ set.gens)
    (h : Ensuring cfg a snap set present replica st) {d : Desired}
    (hd : d.Sound a.schema cfg.owners snap snap.incarnations d.copy.tableKey) :
    Ensuring cfg a snap set present replica (ensureCopy cfg a set.copies present st d) ∧
      st.Grows (ensureCopy cfg a set.copies present st d) := by
  have hsame : st.Grows st := ⟨rfl, le_rfl, rfl, fun _ _ h => h⟩
  unfold Install.ensureCopy
  dsimp only
  cases herr : d.err with
  | some err => exact h.refuse hsame rfl hd _
  | none =>
    dsimp only
    split
    · exact h.refuse hsame rfl hd _
    next hunowed =>
    obtain ⟨hgrows, hout, hgens, htable⟩ := ensure_spec cfg a d.copy st
    split
    · next st' err hensure =>
      rw [hensure] at hgrows hout
      exact h.refuse hgrows hout hd _
    next st' hensure =>
    rw [hensure] at hgrows hout hgens htable
    have hgen := generation_spec set.copies (decide (d.copy.table ∈ present)) d.copy st'.gens
    generalize generation set.copies (decide (d.copy.table ∈ present)) d.copy st'.gens = g at hgen
    obtain ⟨gen, gens⟩ := g
    dsimp only at hgen ⊢
    have hle : st'.gens ≤ gens := by
      rcases hgen with ⟨hsame, -⟩ | ⟨-, hnew⟩
      · exact hsame.ge
      · exact hnew ▸ Nat.le_succ _
    have hgrows' : st.Grows { st' with gens := gens } :=
      ⟨hgrows.owed, hgrows.gens.trans hle, hgrows.drops, hgrows.tables⟩
    refine ⟨h.publish hgrows' hout ?_, hgrows'.owed, hgrows'.gens, hgrows'.drops, hgrows'.tables⟩
    obtain ⟨inc, hinc, hwanted, hcopy, hunique⟩ := hd.unique herr
    refine ⟨rfl, ?_, ?_, fun _ => ⟨inc, hinc, hwanted, ?_, hunique⟩, fun _ => ?_, fun _ => htable rfl, fun _ => ?_⟩
    · rcases hgen with ⟨-, hne, -⟩ | ⟨hnew, -⟩
      · simpa using hne
      · simp [hnew]
    · rcases hgen with ⟨-, -, -, q, hq, -, hqgen⟩ | ⟨hnew, hnew'⟩
      · exact hqgen ▸ ((hset _ q hq).trans h.gens).trans (hgrows.gens.trans hle)
      · exact (hnew.trans hnew'.symm).le
    · exact ⟨hcopy.owner, hcopy.tableKey, hcopy.seq, hcopy.table, hcopy.schemaHash⟩
    · have howed : st'.owed = st.owed := hgrows.owed
      simpa [howed] using hunowed
    · rcases hgen with ⟨-, -, hpresent, q, hq, htab, hqgen⟩ | ⟨hnew, -⟩
      · exact .inl ⟨by simpa using hpresent, q, hq, htab, hqgen⟩
      · exact .inr (hnew ▸ Nat.lt_succ_of_le (h.gens.trans hgrows.gens))

theorem ensureCopies (hset : ∀ key q, set.copies.lookup key = some q → q.copy.generation ≤ set.gens)
    (hgens : set.gens ≤ st.gens) (hout : st.out = .empty) :
    let st' := (byKey (desired a.schema cfg.owners snap)).foldl (ensureCopy cfg a set.copies present) st
    Ensuring cfg a snap set present st.replica st' ∧ st.Grows st' := by
  refine List.foldlRecOn (motive := fun st' => Ensuring cfg a snap set present st.replica st' ∧ st.Grows st')
    (byKey (desired a.schema cfg.owners snap)) _
    ⟨⟨hgens, fun _ _ h => h, by simp [hout]⟩, ⟨rfl, le_rfl, rfl, fun _ _ h => h⟩⟩ ?_
  rintro st' ⟨hensuring, hgrows⟩ d hd
  obtain ⟨hnext, hgrows'⟩ := hensuring.ensureCopy hset (byKey_sound hd)
  exact ⟨hnext, hgrows.trans hgrows'⟩

end Ensure

/-! ## What a pass changes -/

/-- A copy set as passes leave it: a copy is ready exactly when it has a generation, and
    no ready copy has a table whose drop is owed. -/
structure CopySet.Wf (s : CopySet) : Prop where
  tableKey : ∀ key p, s.copies.lookup key = some p → p.copy.tableKey = key
  ready_iff : ∀ key p, s.copies.lookup key = some p → (p.ready = true ↔ p.copy.generation ≠ 0)
  generation_le : ∀ key p, s.copies.lookup key = some p → p.copy.generation ≤ s.gens
  unowed : ∀ key p, s.copies.lookup key = some p → p.ready = true → s.owed.lookup p.copy.table = none
  named : OwedNamed s.owed

/-- What a pass that published did with the view `snap`. -/
structure Pass.Published (cfg : CopysetConfig) (a : PassAnswers) (snap : Snapshot) (set : CopySet)
    (replica : GoMap String CopyTable) (r : Pass) : Prop where
  listing : r.listing = some (listTables replica)
  drops : r.drops = ((listTables replica).filter fun t => (classify cfg.owners snap t.1 t.2).2 ≠ .keep).map (·.1)
  tables : ∀ t ∈ presentTables cfg snap (listTables replica), r.replica.lookup t = replica.lookup t
  unique : ∀ key p, r.set.copies.lookup key = some p → p.ready = true →
    ∃ inc ∈ snap.incarnations, Wanted cfg.owners snap inc ∧ IsCopy a.schema snap p.copy inc ∧
      ∀ inc' ∈ snap.incarnations, Wanted cfg.owners snap inc' → inc'.key = key → inc' = inc
  table : ∀ key p, r.set.copies.lookup key = some p → p.ready = true →
    ∃ t, r.replica.lookup p.copy.table = some t ∧ t.comment = incarnationComment p.copy.incarnationSeq
  generation : ∀ key p, r.set.copies.lookup key = some p → p.ready = true →
    (p.copy.table ∈ presentTables cfg snap (listTables replica) ∧ ∃ q, set.copies.lookup key = some q ∧
      q.copy.table = p.copy.table ∧ q.copy.generation = p.copy.generation) ∨ set.gens < p.copy.generation

/-- How a pass can end: without a publication, with an empty one while the registry is
    disabled, or with one of the view. -/
inductive Pass.Ends (cfg : CopysetConfig) (a : PassAnswers) (set : CopySet) (replica : GoMap String CopyTable)
    (r : Pass) : Prop
  | failed (hpublished : r.published = false) (hcopies : r.set.copies = set.copies) (hgens : r.set.gens = set.gens)
      (hreplica : r.replica = replica) (hlisting : r.listing = none) (hdrops : r.drops = [])
  | disabled (hview : a.view = some none) (hpublished : r.published = true) (hcopies : r.set.copies = .empty)
      (hgens : r.set.gens = set.gens) (hreplica : r.replica = replica) (hlisting : r.listing = none)
      (hdrops : r.drops = [])
  | published (snap : Snapshot) (hview : a.view = some (some snap)) (hpublished : r.published = true)
      (hends : r.Published cfg a snap set replica)

/-- The names of a listing are unique. -/
theorem notMem_drops_of_present {cfg : CopysetConfig} {snap : Snapshot} {t : String}
    (h : t ∈ presentTables cfg snap (listTables replica)) :
    t ∉ ((listTables replica).filter fun t => (classify cfg.owners snap t.1 t.2).2 ≠ .keep).map (·.1) := by
  have hunique : ∀ e ∈ listTables replica, ∀ e' ∈ listTables replica, e.1 = e'.1 → e = e' := by
    intro e he e' he' hname
    simp only [listTables, List.mem_insertionSort, List.mem_map, Prod.exists] at he he'
    obtain ⟨t, tab, hmem, rfl⟩ := he
    obtain ⟨t', tab', hmem', rfl⟩ := he'
    obtain rfl : t = t' := hname
    have hsame := (GoMap.mem_toList.mp hmem).symm.trans (GoMap.mem_toList.mp hmem')
    rw [Option.some.inj hsame]
  simp only [presentTables, List.mem_map, List.mem_filter, decide_eq_true_eq] at h ⊢
  obtain ⟨e, ⟨he, hkeep⟩, rfl⟩ := h
  rintro ⟨e', ⟨he', hdrop⟩, hname⟩
  rw [hunique e' he' e he hname] at hdrop
  exact hdrop hkeep

theorem exists_of_present {cfg : CopysetConfig} {snap : Snapshot} {t : String}
    (h : t ∈ presentTables cfg snap (listTables replica)) : ∃ tab, replica.lookup t = some tab := by
  simp only [presentTables, listTables, List.mem_map, List.mem_filter, List.mem_insertionSort, Prod.exists] at h
  obtain ⟨t, comment, ⟨⟨t', tab, hmem, heq⟩, -⟩, rfl⟩ := h
  cases heq
  exact ⟨tab, GoMap.mem_toList.mp hmem⟩

/-- What one pass does, whatever fails in it. -/
theorem reconcile_spec {set : CopySet} (replica : GoMap String CopyTable)
    (hset : set.Wf) :
    (reconcile cfg a set replica).set.Wf ∧ set.gens ≤ (reconcile cfg a set replica).set.gens ∧
      (reconcile cfg a set replica).Ends cfg a set replica := by
  unfold reconcile
  split
  · exact ⟨hset, le_rfl, .failed rfl rfl rfl rfl rfl rfl⟩
  · next hview =>
    exact ⟨⟨by simp, by simp, by simp, by simp, hset.named⟩, le_rfl, .disabled hview rfl rfl rfl rfl rfl rfl⟩
  next snap hview =>
  obtain ⟨hclears, hreplica, hdrops, hnone⟩ := retry_spec cfg a
    ⟨set.owed, set.gens, replica, .empty, [], []⟩ hset.named
  dsimp only at hclears hreplica hdrops hnone ⊢
  generalize (owedDrops set.owed).foldl (fun st c => notifyDropped cfg (a.retry c.table) c st)
    ⟨set.owed, set.gens, replica, .empty, [], []⟩ = st at hclears hreplica hdrops hnone ⊢
  split
  · refine ⟨⟨hset.tableKey, hset.ready_iff, hset.generation_le, fun key p hp hr => ?_, hclears.named hset.named⟩,
      le_rfl, .failed rfl rfl rfl rfl rfl rfl⟩
    exact hnone _ (hset.unowed key p hp hr)
  obtain ⟨hclears', hdrops', hreplica'⟩ := drops_spec cfg a snap (listTables replica) st
  generalize (listTables replica).foldl (dropUnlessKept cfg a snap) st = st₁ at hclears' hdrops' hreplica' ⊢
  obtain ⟨hensuring, hgrows⟩ := ensureCopies hset.generation_le ((hclears.trans hclears').gens.ge)
    ((hclears.trans hclears').out)
  generalize (byKey (desired a.schema cfg.owners snap)).foldl
    (ensureCopy cfg a set.copies (presentTables cfg snap (listTables replica))) st₁ = st₂ at hensuring hgrows ⊢
  have hpublished := hensuring.published
  refine ⟨⟨fun key p hp => (hpublished key p hp).tableKey, fun key p hp => (hpublished key p hp).ready_iff,
    fun key p hp => (hpublished key p hp).generation_le, fun key p hp => (hpublished key p hp).unowed, ?_⟩,
    hensuring.gens, .published snap hview rfl ⟨rfl, ?_, fun t ht => ?_, fun key p hp => (hpublished key p hp).unique,
      fun key p hp => (hpublished key p hp).table, fun key p hp => (hpublished key p hp).generation⟩⟩
  · exact hgrows.owed ▸ (hclears.trans hclears').named hset.named
  · rw [hgrows.drops, hdrops', hdrops, List.nil_append]
  have hdrop : t ∉ st₁.drops := by
    rw [hdrops', hdrops, List.nil_append]
    exact notMem_drops_of_present ht
  have hsame : st₁.replica.lookup t = replica.lookup t := by rw [hreplica' t hdrop, hreplica]
  obtain ⟨tab, htab⟩ := exists_of_present ht
  rw [htab] at hsame ⊢
  exact hgrows.tables t tab hsame

/-! ## Ready copies over passes -/

end ArbiterCore.Install
