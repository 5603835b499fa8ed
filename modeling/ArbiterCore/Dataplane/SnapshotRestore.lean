-- SUMMARY: The read set of a snapshot query has every active part of its tables once (snapshot_restore.go).
import ArbiterCore.Base.Bag
import ArbiterCore.Base.Checked
import ArbiterCore.Base.Text
import ArbiterCore.Wire.Records
import Mathlib.Data.Prod.Lex
import Mathlib.Data.String.Basic

/-!
# The parts of a read set

Before a restore fetches the parts of a read set, it compares them with the
published manifest: equal counts, membership in a map under joined names, and no
key twice. The keys of a table are then as many as its active parts, so that no
two of these share a key, whatever the names contain.
-/

namespace ArbiterCore.SnapshotRestore

open GoSlice (Slice)
open Wire Text
export Wire (PartManifestEntry TableManifest SafeSnapshotManifest)

/-! ## The source -/

def partKey (tableID partitionID partName : String) : String :=
  tableID ++ "\x00" ++ partitionID ++ "\x00" ++ partName

def samePartIdentity (a b : PartManifestEntry) : Bool :=
  a.tableID = b.tableID ∧ a.partitionID = b.partitionID ∧ a.partName = b.partName ∧
    a.partPhysHash = b.partPhysHash ∧ a.partRowLtHash = b.partRowLtHash ∧
    a.rowCount = b.rowCount ∧ a.bytes = b.bytes

variable (part : PartManifestEntry)

def entryKey : String := partKey part.tableID part.partitionID part.partName

def readKey (part : SnapshotReadPart) : String := partKey part.tableID part.partitionID part.partName

/-- The entry that a read part describes; it has no storage references. -/
def entryOf (part : SnapshotReadPart) : PartManifestEntry :=
  { tableID := part.tableID, partitionID := part.partitionID, partName := part.partName,
    partPhysHash := part.partPhysHash, partRowLtHash := part.partRowLtHash,
    rowCount := part.rowCount, bytes := part.bytes, storageRefs := none }

/-- Puts the tables of the manifest under their ids. -/
def indexTables : List TableManifest → GoMap String TableManifest →
    Except String (GoMap String TableManifest)
  | [], tables => .ok tables
  | table :: rest, tables =>
    match tables.lookup table.tableID with
    | some _ => .error ("dataplane: duplicate manifest table " ++ quoted table.tableID)
    | none => indexTables rest (tables.insert table.tableID table)

/-- Goes through the parts of a read table, with the keys and the entries so far. -/
def readParts (manifestParts : GoMap String PartManifestEntry) :
    List SnapshotReadPart → List String × List PartManifestEntry →
      Except String (List String × List PartManifestEntry)
  | [], acc => .ok acc
  | part :: rest, (seen, expected) =>
    match manifestParts.lookup (readKey part) with
    | none => .error ("dataplane: read part " ++ readKey part ++ " is absent from the published manifest")
    | some want =>
      if ¬samePartIdentity (entryOf part) want then
        .error ("dataplane: read part " ++ readKey part ++ " does not match the published manifest")
      else if readKey part ∈ seen then .error ("dataplane: duplicate read part " ++ readKey part)
      else readParts manifestParts rest (seen ++ [readKey part], expected ++ [want])

/-- What is wrong with a read table, before its parts. -/
def tableRefusal (table : SnapshotReadTable) (manifestTable : TableManifest) : Option String :=
  if table.schemaHash ≠ manifestTable.schemaHash then some "schema_hash mismatch"
  else if isBlank table.database ∨ isBlank table.table then some "logical name is required"
  else if table.activeParts.elems.length ≠ manifestTable.activeParts.elems.length then
    some "does not name every active part"
  else none

def readTables (tables : GoMap String TableManifest) :
    List SnapshotReadTable → List String × List PartManifestEntry →
      Except String (List String × List PartManifestEntry)
  | [], acc => .ok acc
  | table :: rest, acc =>
    match tables.lookup table.tableID with
    | none =>
      .error ("dataplane: read table " ++ quoted table.tableID ++ " is absent from the published manifest")
    | some manifestTable =>
      match tableRefusal table manifestTable with
      | some refusal => .error ("dataplane: read table " ++ quoted table.tableID ++ " " ++ refusal)
      | none => do
        let acc ← readParts (GoMap.index entryKey manifestTable.activeParts.elems) table.activeParts.elems acc
        readTables tables rest acc

/-- The order of the result: by table, partition and part name. -/
def sortKey : String ×ₗ String ×ₗ String :=
  toLex (part.tableID, toLex (part.partitionID, part.partName))

def expectedReadParts (manifest : SafeSnapshotManifest) (reads : SnapshotReadSet) :
    Except String (List PartManifestEntry) := do
  let tables ← indexTables manifest.tables.elems .empty
  if reads.tables.elems.isEmpty then .error "dataplane: restore requires at least one read table"
  else do
    let (_, expected) ← readTables tables reads.tables.elems ([], [])
    return expected.insertionSort fun a b => sortKey a ≤ sortKey b

/-! ## What the loops accept -/

/-- The seven fields that identify an entry. -/
def identity : PartManifestEntry := { part with storageRefs := none }

theorem samePartIdentity_iff {part : SnapshotReadPart} {want : PartManifestEntry} :
    samePartIdentity (entryOf part) want = true ↔ entryOf part = identity want := by
  rw [samePartIdentity, decide_eq_true_iff]
  simp [entryOf, identity]

@[simp] theorem entryKey_comp_identity : entryKey ∘ identity = entryKey := rfl

@[simp] theorem entryKey_comp_entryOf : entryKey ∘ entryOf = readKey := rfl

theorem indexTables_eq_ok {tables : List TableManifest} {index out : GoMap String TableManifest} :
    indexTables tables index = .ok out ↔ (∀ t ∈ tables, index.lookup t.tableID = none) ∧
      (tables.map (·.tableID)).Nodup ∧
      out = tables.foldl (fun index t => index.insert t.tableID t) index := by
  induction tables generalizing index with
  | nil => simp [indexTables, eq_comm]
  | cons t tables ih =>
    rw [← and_assoc, GoMap.fresh_cons t, indexTables]
    cases index.lookup t.tableID with
    | some _ => simp
    | none => simp [ih, and_assoc]

/-- The read part is the entry under its key. -/
def Found (index : GoMap String PartManifestEntry) (part : SnapshotReadPart) : Prop :=
  ∃ want, index.lookup (readKey part) = some want ∧ entryOf part = identity want

def keysOf (table : SnapshotReadTable) : List String := table.activeParts.elems.map readKey

variable {index : GoMap String PartManifestEntry}

theorem readParts_eq_ok {parts : List SnapshotReadPart}
    {acc out : List String × List PartManifestEntry} (hseen : acc.1.Nodup) :
    readParts index parts acc = .ok out ↔ (∀ part ∈ parts, Found index part) ∧
      (acc.1 ++ parts.map readKey).Nodup ∧
      out = (acc.1 ++ parts.map readKey, acc.2 ++ parts.filterMap (index.lookup <| readKey ·)) := by
  induction parts generalizing acc with
  | nil => simp [readParts, hseen, eq_comm]
  | cons part parts ih =>
    obtain ⟨seen, expected⟩ := acc
    have hsnoc : ∀ l : List String, seen ++ [readKey part] ++ l = seen ++ readKey part :: l := by simp
    rw [List.forall_mem_cons, List.map_cons, ← hsnoc]
    constructor
    · intro h
      simp only [readParts] at h
      split at h
      · cases h
      next want hlook =>
      split at h
      · cases h
      next hsame =>
      split at h
      · cases h
      next hnew =>
      have hnodup : (seen ++ [readKey part]).Nodup := by
        simpa [List.concat_eq_append] using hseen.concat hnew
      obtain ⟨hfound, hkeys, rfl⟩ := (ih hnodup).mp h
      exact ⟨⟨⟨want, hlook, samePartIdentity_iff.mp (not_not.mp hsame)⟩, hfound⟩, hkeys, by simp [hlook]⟩
    · rintro ⟨⟨⟨want, hlook, hsame⟩, hfound⟩, hkeys, rfl⟩
      have hnodup : (seen ++ [readKey part]).Nodup := hkeys.of_append_left
      have hnew : readKey part ∉ seen := fun hmem =>
        List.disjoint_of_nodup_append hnodup hmem List.mem_cons_self
      simp only [readParts, hlook, samePartIdentity_iff.mpr hsame, not_true_eq_false, if_false, if_neg hnew]
      exact (ih hnodup).mpr ⟨hfound, hkeys, by simp [hlook]⟩

/-- The read table agrees with its table of the manifest. -/
structure Agrees (tables : GoMap String TableManifest) (table : SnapshotReadTable) (m : TableManifest) :
    Prop where
  lookup : tables.lookup table.tableID = some m
  schema : table.schemaHash = m.schemaHash
  named : ¬(isBlank table.database ∨ isBlank table.table)
  count : table.activeParts.elems.length = m.activeParts.elems.length
  found : ∀ part ∈ table.activeParts.elems, Found (GoMap.index entryKey m.activeParts.elems) part

variable {table : SnapshotReadTable}

theorem tableRefusal_eq_none {m : TableManifest} :
    tableRefusal table m = none ↔ table.schemaHash = m.schemaHash ∧
      ¬(isBlank table.database ∨ isBlank table.table) ∧
      table.activeParts.elems.length = m.activeParts.elems.length := by
  unfold tableRefusal
  split_ifs <;> simp_all

/-- The entries that the parts of a read table find. -/
def wanted (tables : GoMap String TableManifest) (table : SnapshotReadTable) : List PartManifestEntry :=
  ((tables.lookup table.tableID).map fun m =>
    table.activeParts.elems.filterMap ((GoMap.index entryKey m.activeParts.elems).lookup <| readKey ·)).getD []

theorem readTables_eq_ok {tables : GoMap String TableManifest} {reads : List SnapshotReadTable}
    {acc out : List String × List PartManifestEntry} (hseen : acc.1.Nodup) :
    readTables tables reads acc = .ok out ↔ (∀ table ∈ reads, ∃ m, Agrees tables table m) ∧
      (acc.1 ++ reads.flatMap keysOf).Nodup ∧
      out = (acc.1 ++ reads.flatMap keysOf, acc.2 ++ reads.flatMap (wanted tables)) := by
  induction reads generalizing acc with
  | nil => simp [readTables, hseen, eq_comm]
  | cons table reads ih =>
    rw [List.forall_mem_cons, List.flatMap_cons, List.flatMap_cons, ← List.append_assoc, ← List.append_assoc]
    constructor
    · intro h
      simp only [readTables] at h
      split at h
      · cases h
      next m hlook =>
      split at h
      · cases h
      next hrefusal =>
      obtain ⟨hschema, hnamed, hcount⟩ := tableRefusal_eq_none.mp hrefusal
      obtain ⟨acc', hparts, hrest⟩ := Except.bind_eq_ok.mp h
      obtain ⟨hfound, hnodup, rfl⟩ := (readParts_eq_ok hseen).mp hparts
      obtain ⟨hall, hkeys, rfl⟩ := (ih hnodup).mp hrest
      exact ⟨⟨⟨m, hlook, hschema, hnamed, hcount, hfound⟩, hall⟩, hkeys, by simp [wanted, hlook, keysOf]⟩
    · rintro ⟨⟨⟨m, hm⟩, hall⟩, hkeys, rfl⟩
      have hnodup : (acc.1 ++ keysOf table).Nodup := hkeys.of_append_left
      simp only [readTables, hm.lookup, tableRefusal_eq_none.mpr ⟨hm.schema, hm.named, hm.count⟩]
      refine Except.bind_eq_ok.mpr ⟨_, (readParts_eq_ok hseen).mpr ⟨hm.found, hnodup, rfl⟩, ?_⟩
      exact (ih hnodup).mpr ⟨hall, hkeys, by simp [wanted, hm.lookup, keysOf]⟩

/-! ## Counting -/

section Counting

variable {parts : List SnapshotReadPart} {l : List PartManifestEntry} (hkeys : (parts.map readKey).Nodup)

theorem identity_filterMap (h : ∀ part ∈ parts, Found index part) :
    (parts.filterMap (index.lookup <| readKey ·)).map identity = parts.map entryOf := by
  induction parts with
  | nil => rfl
  | cons part parts ih =>
    obtain ⟨⟨want, hlook, hsame⟩, hrest⟩ := List.forall_mem_cons.mp h
    simp [hlook, hsame, ih hrest]

theorem keys_filterMap (h : ∀ part ∈ parts, Found index part) :
    (parts.filterMap (index.lookup <| readKey ·)).map entryKey = parts.map readKey := by
  have hsame := congrArg (List.map entryKey) (identity_filterMap h)
  rwa [List.map_map, List.map_map, entryKey_comp_identity, entryKey_comp_entryOf] at hsame

include hkeys

/-- As many distinct keys as there are entries find every entry. -/
theorem perm_of_found (hcount : parts.length = l.length) (h : ∀ part ∈ parts, Found (GoMap.index entryKey l) part) :
    (parts.filterMap ((GoMap.index entryKey l).lookup <| readKey ·)).Perm l := by
  have hwants := keys_filterMap h
  have hnodup := (hwants ▸ hkeys).of_map
  refine (List.subperm_of_subset hnodup fun want hmem => ?_).perm_of_length_le ?_
  · obtain ⟨part, -, hlook⟩ := List.mem_filterMap.mp hmem
    exact (GoMap.mem_of_lookup_index hlook).1
  · rw [← hcount, ← List.length_map readKey, ← hwants, List.length_map]

theorem found_of_perm (h : (parts.map entryOf).Perm (l.map identity)) :
    ∀ part ∈ parts, Found (GoMap.index entryKey l) part := by
  have hl : (l.map entryKey).Nodup := by
    have hperm := h.map entryKey
    rw [List.map_map, List.map_map, entryKey_comp_identity, entryKey_comp_entryOf] at hperm
    exact hperm.nodup_iff.mp hkeys
  intro part hpart
  obtain ⟨want, hwant, hsame⟩ := List.mem_map.mp (h.subset (List.mem_map_of_mem hpart))
  have hkey : entryKey want = readKey part := by
    rw [← entryKey_comp_identity, ← entryKey_comp_entryOf]
    exact congrArg entryKey hsame
  exact ⟨want, GoMap.lookup_index hl hwant hkey, hsame.symm⟩

end Counting

/-! ## Exact cover -/

/-- The active parts of the manifest's table with the id. -/
def activeParts (manifest : SafeSnapshotManifest) (tableID : String) : List PartManifestEntry :=
  ((manifest.tables.elems.find? (·.tableID = tableID)).map (·.activeParts.elems)).getD []

/-- The table, the partition and the name of a read part. -/
def triple (part : SnapshotReadPart) : String × String × String :=
  (part.tableID, part.partitionID, part.partName)

def allParts (reads : SnapshotReadSet) : List SnapshotReadPart :=
  reads.tables.elems.flatMap (·.activeParts.elems)

/-- Every read table is a table of the manifest with exactly its parts, and no part is
    read twice. -/
structure Covers (manifest : SafeSnapshotManifest) (reads : SnapshotReadSet) : Prop where
  distinct : (manifest.tables.elems.map (·.tableID)).Nodup
  tables : ∀ table ∈ reads.tables.elems, ∃ m ∈ manifest.tables.elems, m.tableID = table.tableID ∧
    table.schemaHash = m.schemaHash ∧
    (table.activeParts.elems.map entryOf).Perm (m.activeParts.elems.map identity)
  once : ((allParts reads).map triple).Nodup

theorem flatMap_keysOf (reads : SnapshotReadSet) :
    reads.tables.elems.flatMap keysOf =
      ((allParts reads).map triple).map fun t => partKey t.1 t.2.1 t.2.2 := by
  rw [allParts, List.map_flatMap, List.map_flatMap]
  refine List.flatMap_congr fun table _ => ?_
  rw [List.map_map]
  rfl

theorem keysOf_nodup {reads : SnapshotReadSet} (h : (reads.tables.elems.flatMap keysOf).Nodup)
    (ht : table ∈ reads.tables.elems) : (keysOf table).Nodup :=
  (List.nodup_flatMap.mp h).1 table ht

/-- Names without the separator are determined by their key. -/
theorem partKey_inj {a b c a' b' c' : String} (ha : '\x00' ∉ a.toList) (ha' : '\x00' ∉ a'.toList)
    (hb : '\x00' ∉ b.toList) (hb' : '\x00' ∉ b'.toList) (h : partKey a b c = partKey a' b' c') :
    (a, b, c) = (a', b', c') := by
  have hlist : a.toList ++ '\x00' :: (b.toList ++ '\x00' :: c.toList) =
      a'.toList ++ '\x00' :: (b'.toList ++ '\x00' :: c'.toList) := by
    simpa [partKey] using congrArg String.toList h
  obtain ⟨hfirst, hrest⟩ := append_sep_inj ha ha' hlist
  obtain ⟨hsecond, hthird⟩ := append_sep_inj hb hb' hrest
  rw [String.toList_inj.mp hfirst, String.toList_inj.mp hsecond, String.toList_inj.mp hthird]

section Restore

variable {manifest : SafeSnapshotManifest} {reads : SnapshotReadSet}

/-- The tables of the manifest under their ids. -/
def tablesOf (manifest : SafeSnapshotManifest) : GoMap String TableManifest :=
  .index (·.tableID) manifest.tables.elems

theorem expectedReadParts_eq_ok {out : List PartManifestEntry} :
    expectedReadParts manifest reads = .ok out ↔ (manifest.tables.elems.map (·.tableID)).Nodup ∧
      reads.tables.elems ≠ [] ∧ (∀ table ∈ reads.tables.elems, ∃ m, Agrees (tablesOf manifest) table m) ∧
      (reads.tables.elems.flatMap keysOf).Nodup ∧
      out = (reads.tables.elems.flatMap (wanted (tablesOf manifest))).insertionSort
        fun a b => sortKey a ≤ sortKey b := by
  simp only [expectedReadParts, Except.bind_eq_ok, indexTables_eq_ok, GoMap.lookup_empty, implies_true,
    true_and, List.isEmpty_iff]
  constructor
  · rintro ⟨_, ⟨hdistinct, rfl⟩, h⟩
    split at h
    · cases h
    next hne =>
    obtain ⟨acc, hread, hout⟩ := Except.bind_eq_ok.mp h
    obtain ⟨hall, hkeys, rfl⟩ := (readTables_eq_ok List.nodup_nil).mp hread
    exact ⟨hdistinct, hne, hall, hkeys, (Except.pure_eq_ok.mp hout).symm⟩
  · rintro ⟨hdistinct, hne, hall, hkeys, rfl⟩
    refine ⟨_, ⟨hdistinct, rfl⟩, ?_⟩
    rw [if_neg hne]
    exact Except.bind_eq_ok.mpr ⟨_, (readTables_eq_ok List.nodup_nil).mpr ⟨hall, hkeys, rfl⟩, rfl⟩

/-- A table that agrees gives its active parts. -/
theorem Agrees.wanted_perm {m : TableManifest} (h : Agrees (tablesOf manifest) table m)
    (hdistinct : (manifest.tables.elems.map (·.tableID)).Nodup) (hkeys : (keysOf table).Nodup) :
    (wanted (tablesOf manifest) table).Perm (activeParts manifest table.tableID) := by
  obtain ⟨hmem, hid⟩ := GoMap.mem_of_lookup_index h.lookup
  simp only [wanted, h.lookup, activeParts, Bag.find?_of_nodup hdistinct hmem hid, Option.map_some,
    Option.getD_some]
  exact perm_of_found hkeys h.count h.found

theorem Agrees.identities {m : TableManifest} (h : Agrees (tablesOf manifest) table m)
    (hkeys : (keysOf table).Nodup) :
    (table.activeParts.elems.map entryOf).Perm (m.activeParts.elems.map identity) := by
  rw [← identity_filterMap h.found]
  exact (perm_of_found hkeys h.count h.found).map _

end Restore

/-- Entries of distinct keys are sorted strictly. -/
theorem sorted_of_keys {l : List PartManifestEntry} (h : (l.map entryKey).Nodup) :
    (l.insertionSort fun a b => sortKey a ≤ sortKey b).Pairwise (sortKey · < sortKey ·) := by
  have hkey : entryKey = (fun k => partKey (ofLex k).1 (ofLex (ofLex k).2).1 (ofLex (ofLex k).2).2) ∘ sortKey := rfl
  rw [hkey, ← List.map_map] at h
  have hnodup := ((List.perm_insertionSort (fun a b => sortKey a ≤ sortKey b) l).map sortKey).nodup_iff.mpr h.of_map
  exact ((List.pairwise_insertionSort _ l).and (List.pairwise_map.mp hnodup)).imp fun h => lt_of_le_of_ne h.1 h.2

/-- The names of the read set are free of the separator. -/
def NulFree (reads : SnapshotReadSet) : Prop :=
  ∀ part ∈ allParts reads, '\x00' ∉ part.tableID.toList ∧ '\x00' ∉ part.partitionID.toList

/-- What is accepted names every active part of its tables exactly once, whatever the names
    contain, and the result is the sorted list of these parts; without the separator in
    the names everything of this kind is accepted. -/
theorem read_set_covers_exactly (manifest : SafeSnapshotManifest) (reads : SnapshotReadSet) :
    (∀ out, expectedReadParts manifest reads = .ok out → Covers manifest reads ∧
      out.Perm (reads.tables.elems.flatMap fun table => activeParts manifest table.tableID) ∧
      out.Pairwise (sortKey · < sortKey ·)) ∧
    (Covers manifest reads → reads.tables.elems ≠ [] →
      (∀ table ∈ reads.tables.elems, ¬(isBlank table.database ∨ isBlank table.table)) → NulFree reads →
      ∃ out, expectedReadParts manifest reads = .ok out) := by
  constructor
  · intro out h
    obtain ⟨hdistinct, -, hall, hkeys, rfl⟩ := expectedReadParts_eq_ok.mp h
    have hperm : (reads.tables.elems.flatMap (wanted (tablesOf manifest))).Perm
        (reads.tables.elems.flatMap fun table => activeParts manifest table.tableID) := by
      refine List.Perm.flatMap_left _ fun table ht => ?_
      obtain ⟨m, hm⟩ := hall table ht
      exact hm.wanted_perm hdistinct (keysOf_nodup hkeys ht)
    refine ⟨⟨hdistinct, fun table ht => ?_, ?_⟩, (List.perm_insertionSort ..).trans hperm, ?_⟩
    · obtain ⟨m, hm⟩ := hall table ht
      obtain ⟨hmem, hid⟩ := GoMap.mem_of_lookup_index hm.lookup
      exact ⟨m, hmem, hid, hm.schema, hm.identities (keysOf_nodup hkeys ht)⟩
    · exact (flatMap_keysOf reads ▸ hkeys).of_map
    · refine sorted_of_keys ?_
      rw [List.map_flatMap]
      refine (List.flatMap_congr fun table ht => ?_).symm ▸ hkeys
      obtain ⟨m, hm⟩ := hall table ht
      simp only [wanted, hm.lookup, Option.map_some, Option.getD_some, keysOf, keys_filterMap hm.found]
  · intro hcovers hne hnamed hnul
    have hkeys : (reads.tables.elems.flatMap keysOf).Nodup := by
      rw [flatMap_keysOf]
      refine hcovers.once.map_on fun t ht t' ht' heq => ?_
      obtain ⟨part, hpart, rfl⟩ := List.mem_map.mp ht
      obtain ⟨part', hpart', rfl⟩ := List.mem_map.mp ht'
      exact partKey_inj (hnul part hpart).1 (hnul part' hpart').1 (hnul part hpart).2 (hnul part' hpart').2 heq
    refine ⟨_, expectedReadParts_eq_ok.mpr ⟨hcovers.distinct, hne, fun table ht => ?_, hkeys, rfl⟩⟩
    obtain ⟨m, hm, hid, hschema, hparts⟩ := hcovers.tables table ht
    refine ⟨m, GoMap.lookup_index hcovers.distinct hm hid, hschema, hnamed table ht, ?_,
      found_of_perm (keysOf_nodup hkeys ht) hparts⟩
    simpa using hparts.length_eq

/-- A part of an unpartitioned table. -/
def entryIn (tableID partName : String) : PartManifestEntry :=
  ⟨tableID, "all", partName, "f1", "0x1", 1, 10, some ["backup"]⟩

/-- Tables with the parts p1 and p2. -/
def manifestOf (ids : List String) : SafeSnapshotManifest :=
  { (default : SafeSnapshotManifest) with
    tables := some (ids.map fun id => ⟨id, "h", none, some (["p1", "p2"].map (entryIn id))⟩) }

/-- Reads both parts of every table, in the other order. -/
def readsOf (ids : List String) : SnapshotReadSet :=
  ⟨default, some (ids.map fun id => ⟨"db", id, id, "h", none,
    some (["p2", "p1"].map fun name => ⟨id, "all", name, "f1", "0x1", 1, 10⟩)⟩)⟩

/-- Two tables and their parts, read in other orders than the manifest's. -/
theorem read_set_covers_exactly_two :
    let manifest := manifestOf ["a", "b"]
    let reads := readsOf ["b", "a"]
    ∃ out, expectedReadParts manifest reads = .ok out ∧ Covers manifest reads ∧
      out.Perm (["b", "a"].flatMap fun id => ["p1", "p2"].map (entryIn id)) ∧
      out.Pairwise (sortKey · < sortKey ·) := by
  intro manifest reads
  obtain ⟨hsound, hcomplete⟩ := read_set_covers_exactly manifest reads
  have hcovers : Covers manifest reads :=
    { distinct := by decide
      tables := by
        intro table ht
        rcases List.mem_pair.mp ht with rfl | rfl
        · exact ⟨_, List.mem_cons_of_mem _ List.mem_cons_self, rfl, rfl, .swap ..⟩
        · exact ⟨_, List.mem_cons_self, rfl, rfl, .swap ..⟩
      once := by decide }
  obtain ⟨out, hout⟩ := hcomplete hcovers (by simp [reads, readsOf]) (by decide)
    (by unfold NulFree; decide)
  exact ⟨out, hout, hcovers, (hsound out hout).2⟩

end ArbiterCore.SnapshotRestore
