-- SUMMARY: When the files of restored parts collide (dataplane/snapshot_restore.go).
import ArbiterCore.Dataplane.SnapshotRestore

/-!
# The files of restored parts

A restore writes every part of a read set to a file of a new directory. The file's
name joins the three names of the part by underscores, after other separators were
replaced by underscores, and a file is never written twice. So what a file's name
keeps of a part is the list of the words between the separators.
-/

namespace ArbiterCore.SnapshotRestore

open Wire Text

/-! ## The source -/

/-- The path separator of the host is the slash. -/
def isSeparator (r : Char) : Bool := r = '/' ∨ r = '\\' ∨ r = ':'

def sanitizePartIdent (value : String) : String :=
  let replaced := String.ofList (value.toList.map fun r => if isSeparator r then '_' else r)
  if replaced = "" then "part" else replaced

def partFileName (entry : PartManifestEntry) : String :=
  sanitizePartIdent entry.tableID ++ "_" ++ sanitizePartIdent entry.partitionID ++ "_" ++
    sanitizePartIdent entry.partName ++ ".part"

/-- The files of the directory. -/
abbrev Files : Type := GoMap String (List UInt8)

/-- The directory, the digest of a file, and the bytes that a part has in the store. -/
structure Artifacts where
  dir : String
  digestBytes : List UInt8 → String
  fetchPart : PartManifestEntry → List UInt8

variable (artifacts : Artifacts)

/-- A name that the file system takes: without NUL, and of at most 255 bytes. -/
def Creatable (name : String) : Prop := '\x00' ∉ name.toList ∧ name.utf8ByteSize ≤ 255

instance (name : String) : Decidable (Creatable name) := inferInstanceAs (Decidable (_ ∧ _))

/-- Why `os.OpenFile` creates no file, which must be new. -/
def createError (name : String) (files : Files) : Option String :=
  if '\x00' ∈ name.toList then some "invalid argument"
  else if 255 < name.utf8ByteSize then some "file name too long"
  else (files.lookup name).map fun _ => "file exists"

/-- Creates the file and checks what was written. -/
def writeVerifiedPart (entry : PartManifestEntry) (body : List UInt8) (files : Files) : Except String Files :=
  let name := partFileName entry
  match createError name files with
  | some e => .error ("dataplane: create part " ++ quoted entry.partName ++ ": open " ++ artifacts.dir ++ "/" ++
      name ++ ": " ++ e)
  | none =>
    let raw := body.take (entry.bytes.toNat + 1)
    if raw.length ≠ entry.bytes.toNat then .error ("dataplane: part " ++ quoted entry.partName ++ " size mismatch")
    else if artifacts.digestBytes raw ≠ entry.partPhysHash then
      .error ("dataplane: part " ++ quoted entry.partName ++ " physical hash mismatch")
    else .ok (files.insert name raw)

/-- The loop of `Open` over the expected parts. -/
def writeParts : List PartManifestEntry → Files → Except String Files
  | [], files => .ok files
  | part :: rest, files => do
    let files ← writeVerifiedPart artifacts part (artifacts.fetchPart part) files
    writeParts rest files

/-! ## Words -/

/-- The words of a name between underscores and separators. -/
def identWords (value : String) : List (List Char) :=
  if value = "" then ["part".toList] else value.toList.splitOnP fun r => r = '_' || isSeparator r

/-- The words of the three names of a part. -/
def words (names : String × String × String) : List (List Char) :=
  identWords names.1 ++ identWords names.2.1 ++ identWords names.2.2

def entryNames (entry : PartManifestEntry) : String × String × String :=
  (entry.tableID, entry.partitionID, entry.partName)

theorem splitOn_replaced (cs : List Char) :
    (cs.map fun r => if isSeparator r then '_' else r).splitOn '_' =
      cs.splitOnP fun r => r = '_' || isSeparator r := by
  induction cs with
  | nil => rfl
  | cons c cs ih =>
    rw [List.map_cons, List.splitOn_cons_eq_if_modifyHead, List.splitOnP_cons_eq_if_modifyHead, ih]
    by_cases hc : isSeparator c
    · simp [hc]
    · simp [hc]

theorem splitOn_sanitizePartIdent (value : String) :
    (sanitizePartIdent value).toList.splitOn '_' = identWords value := by
  unfold sanitizePartIdent identWords
  by_cases hvalue : value = ""
  · subst hvalue
    decide
  have hne : String.ofList (value.toList.map fun r => if isSeparator r then '_' else r) ≠ "" := by
    intro hempty
    exact hvalue (by simpa using congrArg String.toList hempty)
  simp only [if_neg hne, if_neg hvalue, String.toList_ofList, splitOn_replaced]

/-- Two parts have one file name exactly when they have the same words. -/
theorem partFileName_eq_iff {a b : PartManifestEntry} :
    partFileName a = partFileName b ↔ words (entryNames a) = words (entryNames b) := by
  have hname : ∀ e, ∃ stem : List Char, (partFileName e).toList = stem ++ ".part".toList ∧
      stem.splitOn '_' = words (entryNames e) := by
    intro e
    refine ⟨(sanitizePartIdent e.tableID).toList ++ '_' :: ((sanitizePartIdent e.partitionID).toList ++
      '_' :: (sanitizePartIdent e.partName).toList), by simp [partFileName], ?_⟩
    simp only [List.splitOn_append_cons_self, splitOn_sanitizePartIdent, words, entryNames, List.append_assoc]
  obtain ⟨stem, hstem, hwords⟩ := hname a
  obtain ⟨stem', hstem', hwords'⟩ := hname b
  rw [← String.toList_inj, hstem, hstem', List.append_left_inj, ← hwords, ← hwords']
  refine ⟨congrArg _, fun h => ?_⟩
  have hjoined := congrArg (['_'].intercalate ·) h
  simpa only [List.intercalate_splitOn] using hjoined

/-! ## The restore -/

/-- The store has the bytes that the manifest names. -/
def Valid (entry : PartManifestEntry) : Prop :=
  (artifacts.fetchPart entry).length = entry.bytes.toNat ∧
    artifacts.digestBytes (artifacts.fetchPart entry) = entry.partPhysHash

variable {artifacts} {manifest : SafeSnapshotManifest} {reads : SnapshotReadSet} {out : List PartManifestEntry}

theorem createError_eq_none {name : String} {files : Files} :
    createError name files = none ↔ Creatable name ∧ files.lookup name = none := by
  unfold createError Creatable
  split_ifs <;> simp_all

theorem writeVerifiedPart_eq_ok {entry : PartManifestEntry} {files files' : Files} :
    writeVerifiedPart artifacts entry (artifacts.fetchPart entry) files = .ok files' ↔
      (Valid artifacts entry ∧ Creatable (partFileName entry)) ∧ files.lookup (partFileName entry) = none ∧
        files' = files.insert (partFileName entry) (artifacts.fetchPart entry) := by
  rw [and_assoc, ← and_assoc (b := files.lookup _ = none), ← createError_eq_none]
  unfold writeVerifiedPart
  dsimp only
  cases createError (partFileName entry) files with
  | some _ => simp
  | none =>
    dsimp only
    by_cases hsize : (artifacts.fetchPart entry).length = entry.bytes.toNat
    · rw [List.take_of_length_le (hsize.le.trans (Nat.le_succ _))]
      by_cases hdigest : artifacts.digestBytes (artifacts.fetchPart entry) = entry.partPhysHash
      · simp [Valid, hsize, hdigest, eq_comm]
      · simp [Valid, hsize, hdigest]
    · have hshort : ((artifacts.fetchPart entry).take (entry.bytes.toNat + 1)).length ≠ entry.bytes.toNat := by
        rw [List.length_take]
        omega
      rw [if_pos hshort]
      simp [Valid, hsize]

/-- A restore writes every part to its own new file. -/
theorem writeParts_eq_ok {files files' : Files} :
    writeParts artifacts out files = .ok files' ↔
      (∀ e ∈ out, Valid artifacts e ∧ Creatable (partFileName e)) ∧
      ((∀ e ∈ out, files.lookup (partFileName e) = none) ∧ (out.map partFileName).Nodup) ∧
      files' = out.foldl (fun files e => files.insert (partFileName e) (artifacts.fetchPart e)) files := by
  induction out generalizing files with
  | nil => simp [writeParts, eq_comm]
  | cons e out ih =>
    rw [GoMap.fresh_cons (artifacts.fetchPart e), List.forall_mem_cons, List.foldl_cons]
    simp only [writeParts, Except.bind_eq_ok, writeVerifiedPart_eq_ok, ih]
    constructor
    · rintro ⟨_, ⟨hvalid, hnew, rfl⟩, hall, hfresh, rfl⟩
      exact ⟨⟨hvalid, hall⟩, ⟨hnew, hfresh⟩, rfl⟩
    · rintro ⟨⟨hvalid, hall⟩, ⟨hnew, hfresh⟩, rfl⟩
      exact ⟨_, ⟨hvalid, hnew, rfl⟩, hall, hfresh, rfl⟩

/-- The expected parts have the names of the read parts. -/
theorem entryNames_perm (h : expectedReadParts manifest reads = .ok out) :
    (out.map entryNames).Perm ((allParts reads).map triple) ∧ ((allParts reads).map triple).Nodup := by
  obtain ⟨-, -, hall, hkeys, rfl⟩ := expectedReadParts_eq_ok.mp h
  refine ⟨((List.perm_insertionSort ..).map _).trans (.of_eq ?_), (flatMap_keysOf reads ▸ hkeys).of_map⟩
  rw [allParts, List.map_flatMap, List.map_flatMap]
  refine List.flatMap_congr fun table ht => ?_
  obtain ⟨m, hm⟩ := hall table ht
  have hsame := congrArg (List.map entryNames) (identity_filterMap hm.found)
  simp only [wanted, hm.lookup, Option.map_some, Option.getD_some]
  rw [List.map_map, List.map_map] at hsame
  exact hsame

/-- Among accepted parts, names of files are distinct exactly when words are. -/
theorem nodup_files_iff (h : expectedReadParts manifest reads = .ok out) :
    (out.map partFileName).Nodup ↔
      ∀ a ∈ allParts reads, ∀ b ∈ allParts reads, words (triple a) = words (triple b) → triple a = triple b := by
  obtain ⟨hperm, hnodup⟩ := entryNames_perm h
  have hnames : (out.map partFileName).Nodup ↔ ((out.map entryNames).map words).Nodup := by
    simp only [List.Nodup, List.pairwise_map, ne_eq, partFileName_eq_iff]
  rw [hnames, (hperm.map words).nodup_iff, List.nodup_map_iff_inj_on hnodup]
  simp only [List.forall_mem_map]

/-- Distinct parts of an accepted read set have distinct files exactly when no two of them
    have the same words. A restore of valid parts succeeds exactly when, besides, the file
    system takes the names of all files. What it writes is never overwritten. -/
theorem part_files_distinct_iff (artifacts : Artifacts) (h : expectedReadParts manifest reads = .ok out) :
    ((∀ a ∈ out, ∀ b ∈ out, a ≠ b → partFileName a ≠ partFileName b) ↔
      ∀ a ∈ allParts reads, ∀ b ∈ allParts reads, words (triple a) = words (triple b) → triple a = triple b) ∧
    ((∀ e ∈ out, Valid artifacts e) → ((∃ files, writeParts artifacts out .empty = .ok files) ↔
      (∀ a ∈ allParts reads, ∀ b ∈ allParts reads, words (triple a) = words (triple b) → triple a = triple b) ∧
        ∀ e ∈ out, Creatable (partFileName e))) ∧
    ∀ files, writeParts artifacts out .empty = .ok files →
      ∀ e ∈ out, files.lookup (partFileName e) = some (artifacts.fetchPart e) := by
  rw [← nodup_files_iff h]
  have hout : out.Nodup := by
    obtain ⟨hperm, hnodup⟩ := entryNames_perm h
    exact (hperm.nodup_iff.mpr hnodup).of_map
  refine ⟨?_, fun hvalid => ?_, fun files hfiles e he => ?_⟩
  · rw [List.nodup_map_iff_inj_on hout]
    exact forall₄_congr fun a _ b _ => not_imp_not
  · have hboth : (∀ e ∈ out, Valid artifacts e ∧ Creatable (partFileName e)) ↔
        ∀ e ∈ out, Creatable (partFileName e) :=
      forall₂_congr fun e he => and_iff_right (hvalid e he)
    simp [writeParts_eq_ok, hboth, and_comm]
  obtain ⟨-, ⟨-, hnodup⟩, rfl⟩ := writeParts_eq_ok.mp hfiles
  obtain ⟨body, hbody⟩ := GoMap.lookup_foldl_insert_isSome (g := artifacts.fetchPart) (m := .empty)
    (f := partFileName) ⟨e, he, rfl⟩
  rcases GoMap.lookup_foldl_insert hbody with hempty | ⟨e', he', hname, rfl⟩
  · simp at hempty
  · rwa [List.inj_on_of_nodup_map hnodup he' he hname] at hbody

/-- A store in which every part has ten bytes. -/
def tenBytes : Artifacts := ⟨"/restore", fun _ => "f1", fun _ => List.replicate 10 0⟩

theorem valid_entryIn (tableID partName : String) : Valid tenBytes (entryIn tableID partName) := ⟨rfl, rfl⟩

/-- The parts p1 and p2 of two tables get files of their own. -/
theorem part_files_distinct_two : ∃ out files,
    expectedReadParts (manifestOf ["a", "b"]) (readsOf ["b", "a"]) = .ok out ∧ out.length = 4 ∧
      writeParts tenBytes out .empty = .ok files := by
  obtain ⟨out, haccepted, hout⟩ : ∃ out,
      expectedReadParts (manifestOf ["a", "b"]) (readsOf ["b", "a"]) = .ok out ∧
        out = [entryIn "a" "p1", entryIn "a" "p2", entryIn "b" "p1", entryIn "b" "p2"] :=
    ⟨_, by rfl, rfl⟩
  have hvalid : ∀ e ∈ out, Valid tenBytes e := by
    simp [hout, valid_entryIn]
  have hcreatable : ∀ e ∈ out, Creatable (partFileName e) := by
    rw [hout]
    decide +kernel
  obtain ⟨files, hfiles⟩ := ((part_files_distinct_iff tenBytes haccepted).2.1 hvalid).mpr
    ⟨by decide +kernel, hcreatable⟩
  exact ⟨out, files, haccepted, by rw [hout]; rfl, hfiles⟩

/-- Two tables whose names differ in a separator: the second part finds the file of the first. -/
theorem part_files_collide : ∃ out,
    expectedReadParts (manifestOf ["d.a:b", "d.a_b"]) (readsOf ["d.a:b", "d.a_b"]) = .ok out ∧
      (∀ e ∈ out, Valid tenBytes e ∧ Creatable (partFileName e)) ∧
      writeParts tenBytes out .empty =
        .error "dataplane: create part \"p1\": open /restore/d.a_b_all_p1.part: file exists" := by
  refine ⟨["d.a:b", "d.a_b"].flatMap fun id => ["p1", "p2"].map (entryIn id), by rfl, ?_, by rfl⟩
  have hcreatable : ∀ id ∈ ["d.a:b", "d.a_b"], ∀ name ∈ ["p1", "p2"],
      Creatable (partFileName (entryIn id name)) := by
    decide +kernel
  intro e he
  obtain ⟨id, hid, he⟩ := List.mem_flatMap.mp he
  obtain ⟨name, hname, rfl⟩ := List.mem_map.mp he
  exact ⟨valid_entryIn id name, hcreatable id hid name hname⟩

end ArbiterCore.SnapshotRestore
