-- SUMMARY: Candidates against shadow parts, and the mappings of a replaced partition (promote_*.go).
import ArbiterCore.Base.Bag
import ArbiterCore.SNode.Promote
import Mathlib.Data.List.Forall2

/-!
# Matching by row hash

The subset path of a promotion keeps one shadow part for every candidate, by row
hash. After REPLACE the whole partition is mapped, part by part, and the candidates
are looked up among the mappings. Both count canonical texts in maps; here they are
described by the accumulators that the texts stand for.
-/

namespace ArbiterCore

open LtHash (Acc)

/-! ## Spellings -/

section Spellings

variable [LtHash]

/-- The text is a spelling of the accumulator. The empty text is none. -/
def Spells (h : String) (a : Acc) : Prop := h ≠ "" ∧ parseAccumulatorHex h = .ok a

/-- Two spellings of one accumulator. -/
def SameHash (h h' : String) : Prop := ∃ a, Spells h a ∧ Spells h' a

/-- A text that spells an accumulator. -/
def IsHash (h : String) : Prop := ∃ a, Spells h a

variable {h : String}

theorem Spells.accOf_eq {a : Acc} (hs : Spells h a) : accOf h = a :=
  accOf_of_parse hs.2

theorem IsHash.parse (hs : IsHash h) : parseAccumulatorHex h = .ok (accOf h) := by
  obtain ⟨a, ha⟩ := hs
  rw [ha.accOf_eq, ha.2]

theorem IsHash.ne_empty (hs : IsHash h) : h ≠ "" := hs.choose_spec.1

theorem SameHash.isHash {h' : String} (hs : SameHash h h') : IsHash h ∧ IsHash h' :=
  ⟨⟨_, hs.choose_spec.1⟩, ⟨_, hs.choose_spec.2⟩⟩

theorem SameHash.accOf_eq {h' : String} (hs : SameHash h h') : accOf h = accOf h' := by
  obtain ⟨a, ha, ha'⟩ := hs
  rw [ha.accOf_eq, ha'.accOf_eq]

theorem canonical_eq_iff {h' : String} : canonical h = canonical h' ↔ accOf h = accOf h' :=
  ⟨fun heq => accumulatorHex_injective heq, fun heq => congrArg accumulatorHex heq⟩

end Spellings

/-! ## Matching -/

variable {cps : List PartRef}

section Matching

variable [LtHash]

/-- The text under which the matching counts a shadow part; none for a part without rows. -/
def ShadowPart.key (p : ShadowPart) : String :=
  if p.rowLtHash = "" then "" else canonical p.rowLtHash

/-- The row hashes of the parts that have rows. -/
def contents (ps : List ShadowPart) : Multiset Acc :=
  ((ps.filter (·.rowLtHash ≠ "")).map (accOf ·.rowLtHash) : List Acc)

/-- The row hashes of the candidates. -/
def PromoteSafePartition.wanted (cmd : PromoteSafePartition) : Multiset Acc :=
  (cmd.candidateParts.map (accOf ·.partRowLtHash) : List Acc)

/-- The candidates under their canonical texts. -/
def candidateKeys (cps : List PartRef) : List String := cps.map (canonical ·.partRowLtHash)

theorem candidateMultiset_ok (h : ∀ cp ∈ cps, IsHash cp.partRowLtHash) :
    ∃ want, candidateMultiset cps = .ok want ∧ Bag.Counts want (candidateKeys cps) := by
  induction cps with
  | nil => exact ⟨_, rfl, .empty⟩
  | cons cp cps ih =>
    obtain ⟨hcp, hrest⟩ := List.forall_mem_cons.mp h
    obtain ⟨want, hwant, hcounts⟩ := ih hrest
    refine ⟨want.insert (canonical cp.partRowLtHash)
      (want.getD (canonical cp.partRowLtHash) 0 + 1), ?_, hcounts.add _⟩
    simp [candidateMultiset, hcp.ne_empty, hcp.parse, hwant, canonical, bind, Except.bind, pure,
      Except.pure]

theorem isHash_of_candidateMultiset {want : GoMap String Nat}
    (h : candidateMultiset cps = .ok want) : ∀ cp ∈ cps, IsHash cp.partRowLtHash := by
  induction cps generalizing want with
  | nil => simp
  | cons cp cps ih =>
    simp only [candidateMultiset] at h
    split at h
    · cases h
    next hne =>
    split at h
    · cases h
    · next acc hacc =>
      obtain ⟨rest, hrest, -⟩ := Except.bind_eq_ok.mp h
      exact List.forall_mem_cons.mpr ⟨⟨acc, hne, hacc⟩, ih hrest⟩

/-- A shadow part that the matching can read. -/
def ShadowPart.Readable (p : ShadowPart) : Prop := p.rowLtHash = "" ∨ IsHash p.rowLtHash

variable {parts : List ShadowPart} {left : List String} {want : GoMap String Nat}

/-- The loop over the shadow takes down the count of every part that it keeps. -/
theorem claimShadowParts_ok (hcounts : Bag.Counts want left) (hne : "" ∉ left)
    (hread : ∀ p ∈ parts, p.Readable) :
    ∃ want', claimShadowParts want parts = .ok ((Bag.pickBy ShadowPart.key parts left).map (·.name),
        (Bag.leaveBy ShadowPart.key parts left).map (·.name), want') ∧
      Bag.Counts want' (left.diff ((Bag.pickBy ShadowPart.key parts left).map ShadowPart.key)) := by
  induction parts generalizing want left with
  | nil => exact ⟨want, rfl, by simpa [Bag.pickBy] using hcounts⟩
  | cons p ps ih =>
    obtain ⟨hp, hread⟩ := List.forall_mem_cons.mp hread
    rcases hp with hempty | hp
    · -- a part without rows is never a candidate
      have hkey : p.key ∉ left := by simpa [ShadowPart.key, hempty] using hne
      obtain ⟨want', hclaim, hcounts'⟩ := ih hcounts hne hread
      refine ⟨want', ?_, ?_⟩
      · simp [claimShadowParts, hempty, hclaim, Bag.pickBy, Bag.leaveBy, hkey, bind, Except.bind,
          pure, Except.pure]
      · simpa [Bag.pickBy, hkey] using hcounts'
    · have hkey : p.key = accumulatorHex (accOf p.rowLtHash) := by
        simp [ShadowPart.key, hp.ne_empty, canonical]
      by_cases hmem : p.key ∈ left
      · have hpos : 0 < want.getD p.key 0 := hcounts.pos_iff.mpr hmem
        obtain ⟨want', hclaim, hcounts'⟩ :=
          ih (hcounts.take p.key) (fun h => hne (List.mem_of_mem_erase h)) hread
        refine ⟨want', ?_, ?_⟩
        · rw [hkey] at hpos hclaim hmem
          simp [claimShadowParts, hp.ne_empty, hp.parse, hpos, hclaim, Bag.pickBy, Bag.leaveBy,
            hkey, hmem, bind, Except.bind, pure, Except.pure]
        · simpa [Bag.pickBy, hmem] using hcounts'
      · have hzero : ¬ 0 < want.getD p.key 0 := fun h => hmem (hcounts.pos_iff.mp h)
        obtain ⟨want', hclaim, hcounts'⟩ := ih hcounts hne hread
        refine ⟨want', ?_, ?_⟩
        · rw [hkey] at hzero hmem
          simp [claimShadowParts, hp.ne_empty, hp.parse, hzero, hclaim, Bag.pickBy, Bag.leaveBy,
            hkey, hmem, bind, Except.bind, pure, Except.pure]
        · simpa [Bag.pickBy, hmem] using hcounts'

theorem readable_of_claimShadowParts {res : List String × List String × GoMap String Nat}
    (h : claimShadowParts want parts = .ok res) : ∀ p ∈ parts, p.Readable := by
  induction parts generalizing want res with
  | nil => simp
  | cons p ps ih =>
    simp only [claimShadowParts] at h
    split at h
    · next hempty =>
      obtain ⟨rest, hr, -⟩ := Except.bind_eq_ok.mp h
      exact List.forall_mem_cons.mpr ⟨.inl hempty, ih hr⟩
    next hne =>
    split at h
    · cases h
    next acc hacc =>
    have hp : p.Readable := .inr ⟨acc, hne, hacc⟩
    split at h
    · obtain ⟨rest, hr, -⟩ := Except.bind_eq_ok.mp h
      exact List.forall_mem_cons.mpr ⟨hp, ih hr⟩
    · obtain ⟨rest, hr, -⟩ := Except.bind_eq_ok.mp h
      exact List.forall_mem_cons.mpr ⟨hp, ih hr⟩

theorem unmatchedCandidates_eq_nil (hcounts : Bag.Counts want left) :
    unmatchedCandidates want cps = [] ↔ ∀ k ∈ candidateKeys cps, k ∉ left := by
  induction cps with
  | nil => simp [unmatchedCandidates, candidateKeys]
  | cons cp cps ih =>
    have hpos := hcounts.pos_iff (k := canonical cp.partRowLtHash)
    by_cases hmem : canonical cp.partRowLtHash ∈ left
    · simp [unmatchedCandidates, candidateKeys, hpos.mpr hmem, hmem]
    · have hzero : ¬ 0 < want.getD (canonical cp.partRowLtHash) 0 := fun h => hmem (hpos.mp h)
      simpa [unmatchedCandidates, candidateKeys, hzero, hmem] using ih

theorem empty_not_mem_candidateKeys (cps : List PartRef) : "" ∉ candidateKeys cps := by
  intro h
  obtain ⟨cp, -, heq⟩ := List.mem_map.mp h
  exact accumulatorHex_ne_empty _ heq

theorem count_key (ps : List ShadowPart) (a : Acc) :
    (ps.map ShadowPart.key).count (accumulatorHex a) = (contents ps).count a := by
  rw [contents, Multiset.coe_count]
  induction ps with
  | nil => rfl
  | cons p ps ih =>
    by_cases hempty : p.rowLtHash = ""
    · have hkey : p.key ≠ accumulatorHex a := by
        simpa [ShadowPart.key, hempty] using (accumulatorHex_ne_empty a).symm
      simp [hempty, List.count_cons_of_ne hkey, ih]
    · have hkey : p.key = accumulatorHex (accOf p.rowLtHash) := by
        simp [ShadowPart.key, hempty, canonical]
      have hsame : accumulatorHex (accOf p.rowLtHash) = accumulatorHex a ↔ accOf p.rowLtHash = a :=
        ⟨fun h => accumulatorHex_injective h, fun h => congrArg accumulatorHex h⟩
      simp [hempty, hkey, List.count_cons, ih, hsame]

theorem count_candidateKeys (cmd : PromoteSafePartition) (a : Acc) :
    (candidateKeys cmd.candidateParts).count (accumulatorHex a) = cmd.wanted.count a := by
  have hmap : candidateKeys cmd.candidateParts =
      (cmd.candidateParts.map (accOf ·.partRowLtHash)).map accumulatorHex := by
    rw [List.map_map]
    rfl
  rw [hmap, List.count_map_of_injective _ _ fun _ _ => accumulatorHex_injective,
    PromoteSafePartition.wanted, Multiset.coe_count]

variable {ps : List ShadowPart}

/-- The counted texts are included in each other just when the accumulators are. -/
theorem candidateKeys_subperm {cmd : PromoteSafePartition} :
    (candidateKeys cmd.candidateParts).Subperm (ps.map ShadowPart.key) ↔
      cmd.wanted ≤ contents ps := by
  rw [List.subperm_ext_iff, Multiset.le_iff_count]
  refine ⟨fun h a => ?_, fun h k hk => ?_⟩
  · rw [← count_candidateKeys, ← count_key]
    by_cases hmem : accumulatorHex a ∈ candidateKeys cmd.candidateParts
    · exact h _ hmem
    · simp [List.count_eq_zero_of_not_mem hmem]
  · obtain ⟨cp, -, rfl⟩ := List.mem_map.mp hk
    rw [canonical, count_candidateKeys, count_key]
    exact h _

theorem contents_perm {ps' : List ShadowPart} (h : ps.Perm ps') : contents ps = contents ps' :=
  Multiset.coe_eq_coe.mpr ((h.filter _).map _)

/-- The shadow in the order in which it is matched. -/
def inNameOrder (shadow : List ShadowPart) : List ShadowPart :=
  shadow.insertionSort (fun a b => a.name ≤ b.name)

omit [LtHash] in
theorem inNameOrder_perm (shadow : List ShadowPart) : (inNameOrder shadow).Perm shadow :=
  List.perm_insertionSort _ shadow

variable {cmd : PromoteSafePartition} {shadow : List ShadowPart}

/-- The loop over the shadow has matched every candidate just when no count is left. -/
theorem diff_picked {left : List String} :
    (∀ k ∈ left, k ∉ left.diff ((Bag.pickBy ShadowPart.key ps left).map ShadowPart.key)) ↔
      left.Subperm (ps.map ShadowPart.key) := by
  have hsplit := List.subperm_append_diff_self_of_count_le
    (List.subperm_ext_iff.mp (Bag.pickBy_subperm ShadowPart.key ps left))
  constructor
  · intro h
    have hnil : left.diff ((Bag.pickBy ShadowPart.key ps left).map ShadowPart.key) = [] :=
      List.eq_nil_iff_forall_not_mem.mpr fun k hk => h k ((List.diff_sublist _ _).subset hk) hk
    rw [hnil, List.append_nil] at hsplit
    exact hsplit.symm.subperm.trans ((Bag.pickBy_sublist _ _ _).map _).subperm
  · intro h k _ hk
    have hlength := (hsplit.trans (Bag.pickBy_perm h).symm).length_eq
    rw [List.length_append, Nat.add_eq_left, List.length_eq_zero_iff] at hlength
    simp [hlength] at hk

/-- What the matching accepts, and the parts that it keeps and drops. -/
theorem matchShadowCandidates_eq_ok {keep drop : List String} :
    matchShadowCandidates cmd shadow = .ok (keep, drop) ↔
      (∀ cp ∈ cmd.candidateParts, IsHash cp.partRowLtHash) ∧ (∀ p ∈ shadow, p.Readable) ∧
      cmd.wanted ≤ contents shadow ∧
      keep = (Bag.pickBy ShadowPart.key (inNameOrder shadow)
        (candidateKeys cmd.candidateParts)).map (·.name) ∧
      drop = (Bag.leaveBy ShadowPart.key (inNameOrder shadow)
        (candidateKeys cmd.candidateParts)).map (·.name) := by
  have hmem : ∀ {P : ShadowPart → Prop}, (∀ p ∈ shadow, P p) ↔ ∀ p ∈ inNameOrder shadow, P p :=
    fun {P} => forall_congr' fun p => by rw [(inNameOrder_perm shadow).mem_iff]
  have hrest : ∀ want, candidateMultiset cmd.candidateParts = .ok want →
      (∀ p ∈ shadow, p.Readable) → (matchShadowCandidates cmd shadow = .ok (keep, drop) ↔
        cmd.wanted ≤ contents shadow ∧
        keep = (Bag.pickBy ShadowPart.key (inNameOrder shadow)
          (candidateKeys cmd.candidateParts)).map (·.name) ∧
        drop = (Bag.leaveBy ShadowPart.key (inNameOrder shadow)
          (candidateKeys cmd.candidateParts)).map (·.name)) := by
    intro want hwant hread
    obtain ⟨want', hwant', hcounts⟩ :=
      candidateMultiset_ok (isHash_of_candidateMultiset hwant)
    obtain rfl : want = want' := Except.ok.inj (hwant.symm.trans hwant')
    obtain ⟨left, hclaim, hleft⟩ := claimShadowParts_ok hcounts
      (empty_not_mem_candidateKeys cmd.candidateParts) (hmem.mp hread)
    have hmatched : unmatchedCandidates left cmd.candidateParts = [] ↔ _ :=
      (unmatchedCandidates_eq_nil hleft).trans (diff_picked.trans candidateKeys_subperm)
    rw [contents_perm (inNameOrder_perm shadow)] at hmatched
    rw [inNameOrder] at hclaim
    simp only [matchShadowCandidates, hwant, hclaim, bind, Except.bind, ne_eq, hmatched]
    by_cases hle : cmd.wanted ≤ contents shadow
    · simp [hle, pure, Except.pure, inNameOrder, eq_comm]
    · simp [hle, throw, throwThe, MonadExceptOf.throw]
  constructor
  · intro h
    have hok := h
    simp only [matchShadowCandidates, Except.bind_eq_ok] at h
    obtain ⟨want, hwant, claimed, hclaim, -⟩ := h
    have hread := hmem.mpr (readable_of_claimShadowParts hclaim)
    exact ⟨isHash_of_candidateMultiset hwant, hread, (hrest want hwant hread).mp hok⟩
  · rintro ⟨hcands, hread, hparts⟩
    obtain ⟨want, hwant, -⟩ := candidateMultiset_ok hcands
    exact (hrest want hwant hread).mpr hparts

/-- The row hashes of the shadow parts with the given names. -/
def contentsOf (shadow : List ShadowPart) (names : List String) : Multiset Acc :=
  contents (shadow.filter (·.name ∈ names))

omit [LtHash] in
/-- Parts of distinct names are found by their names. -/
theorem filter_names_perm {kept dropped : List ShadowPart} (h : (kept ++ dropped).Perm shadow)
    (hnodup : (shadow.map (·.name)).Nodup) :
    (shadow.filter (·.name ∈ kept.map (·.name))).Perm kept := by
  have hdisjoint : ∀ p ∈ dropped, p.name ∉ kept.map (·.name) := by
    intro p hp hmem
    have hboth : (kept.map (·.name) ++ dropped.map (·.name)).Nodup := by
      rw [← List.map_append]
      exact (h.map _).nodup_iff.mpr hnodup
    exact List.disjoint_of_nodup_append hboth hmem (List.mem_map_of_mem hp)
  refine (h.symm.filter _).trans ?_
  rw [List.filter_append, List.filter_eq_self.mpr fun p hp => by
      simpa using ⟨p, hp, rfl⟩,
    List.filter_eq_nil_iff.mpr fun p hp => by simpa using hdisjoint p hp, List.append_nil]

theorem contents_append (ps ps' : List ShadowPart) :
    contents (ps ++ ps') = contents ps + contents ps' := by
  simp [contents]

/-- Kept parts whose texts are those of the candidates have the candidates' contents. -/
theorem contents_of_keys (h : (ps.map ShadowPart.key).Perm (candidateKeys cmd.candidateParts)) :
    contents ps = cmd.wanted := by
  ext a
  rw [← count_key, ← count_candidateKeys]
  exact h.count_eq _

/-- What a successful matching says about the parts that it keeps and drops. -/
structure MatchedBy (cmd : PromoteSafePartition) (shadow : List ShadowPart)
    (keep drop : List String) : Prop where
  names : (keep ++ drop).Perm (shadow.map (·.name))
  disjoint : keep.Disjoint drop
  kept : contentsOf shadow keep = cmd.wanted
  dropped : contents shadow = cmd.wanted + contentsOf shadow drop

theorem matchShadowCandidates_matched {keep drop : List String}
    (hnodup : (shadow.map (·.name)).Nodup)
    (h : matchShadowCandidates cmd shadow = .ok (keep, drop)) : MatchedBy cmd shadow keep drop := by
  obtain ⟨-, -, hle, rfl, rfl⟩ := matchShadowCandidates_eq_ok.mp h
  have hpick := Bag.pickBy_perm (candidateKeys_subperm.mpr
    (contents_perm (inNameOrder_perm shadow) ▸ hle))
  have hperm := (Bag.pickBy_append_leaveBy ShadowPart.key (inNameOrder shadow)
    (candidateKeys cmd.candidateParts)).trans (inNameOrder_perm shadow)
  have hnames := hperm.map (·.name)
  rw [List.map_append] at hnames
  have hkept := contents_perm (filter_names_perm hperm hnodup)
  have hdropped := contents_perm (filter_names_perm (List.perm_append_comm.trans hperm) hnodup)
  refine ⟨hnames, List.disjoint_of_nodup_append (hnames.nodup_iff.mpr hnodup), ?_, ?_⟩
  · rw [contentsOf, hkept, contents_of_keys hpick]
  · rw [contentsOf, hdropped, ← contents_perm hperm, contents_append, contents_of_keys hpick]

/-! ### Order and spelling -/

/-- Two spellings of one candidate. -/
def SameCandidate (cp cp' : PartRef) : Prop := SameHash cp.partRowLtHash cp'.partRowLtHash

/-- Two spellings of one shadow part; a part without rows has none. -/
def SamePart (p p' : ShadowPart) : Prop :=
  p.rowLtHash = "" ∧ p'.rowLtHash = "" ∨ SameHash p.rowLtHash p'.rowLtHash

/-- The same candidates and the same shadow, in another order and with other spellings. -/
structure Respelled (cmd cmd' : PromoteSafePartition) (shadow shadow' : List ShadowPart) : Prop where
  candidates : ∃ l, l.Perm cmd.candidateParts ∧ List.Forall₂ SameCandidate l cmd'.candidateParts
  shadow : ∃ l, l.Perm shadow ∧ List.Forall₂ SamePart l shadow'

theorem map_accOf_of_sameCandidate {cps' : List PartRef} (h : List.Forall₂ SameCandidate cps cps') :
    cps.map (accOf ·.partRowLtHash) = cps'.map (accOf ·.partRowLtHash) := by
  induction h with
  | nil => rfl
  | cons hc _ ih => simp [SameHash.accOf_eq hc, ih]

theorem contents_of_samePart {ps' : List ShadowPart} (h : List.Forall₂ SamePart ps ps') :
    contents ps = contents ps' := by
  induction h with
  | nil => rfl
  | @cons p p' ps ps' hp _ ih =>
    have hhead : contents [p] = contents [p'] := by
      rcases hp with ⟨hempty, hempty'⟩ | hsame
      · simp [contents, hempty, hempty']
      · simp [contents, hsame.isHash.1.ne_empty, hsame.isHash.2.ne_empty, hsame.accOf_eq]
    exact (contents_append [p] ps).trans ((congrArg₂ _ hhead ih).trans
      (contents_append [p'] ps').symm)

section Respelling

variable {cmd' : PromoteSafePartition} {shadow' : List ShadowPart}
  (h : Respelled cmd cmd' shadow shadow')

include h

theorem Respelled.wanted_eq : cmd.wanted = cmd'.wanted := by
  obtain ⟨l, hl, hsame⟩ := h.candidates
  rw [PromoteSafePartition.wanted, PromoteSafePartition.wanted, ← map_accOf_of_sameCandidate hsame]
  exact Multiset.coe_eq_coe.mpr (hl.symm.map _)

theorem Respelled.contents_eq : contents shadow = contents shadow' := by
  obtain ⟨l, hl, hsame⟩ := h.shadow
  rw [← contents_perm hl, contents_of_samePart hsame]

theorem Respelled.isHash : ∀ cp ∈ cmd'.candidateParts, IsHash cp.partRowLtHash := by
  obtain ⟨l, -, hsame⟩ := h.candidates
  exact ((List.forall₂_and_left _ _).mp (hsame.flip.imp fun _ _ hc =>
    ⟨(SameHash.isHash hc).2, hc⟩)).1

theorem Respelled.readable : ∀ p ∈ shadow', p.Readable := by
  obtain ⟨l, -, hsame⟩ := h.shadow
  exact ((List.forall₂_and_left _ _).mp (hsame.flip.imp fun _ _ hp =>
    ⟨hp.imp (·.2) (·.isHash.2), hp⟩)).1

/-- Neither order nor spelling changes whether the matching succeeds, or the contents
    that it keeps and drops. -/
theorem Respelled.matched {keep drop : List String} (hnodup : (shadow.map (·.name)).Nodup)
    (hnodup' : (shadow'.map (·.name)).Nodup)
    (hok : matchShadowCandidates cmd shadow = .ok (keep, drop)) :
    ∃ keep' drop', matchShadowCandidates cmd' shadow' = .ok (keep', drop') ∧
      contentsOf shadow' keep' = contentsOf shadow keep ∧
      contentsOf shadow' drop' = contentsOf shadow drop := by
  have hle : cmd'.wanted ≤ contents shadow' := by
    rw [← h.wanted_eq, ← h.contents_eq]
    exact (matchShadowCandidates_eq_ok.mp hok).2.2.1
  have hok' := matchShadowCandidates_eq_ok.mpr ⟨h.isHash, h.readable, hle, rfl, rfl⟩
  have hm := matchShadowCandidates_matched hnodup hok
  have hm' := matchShadowCandidates_matched hnodup' hok'
  refine ⟨_, _, hok', ?_, ?_⟩
  · rw [hm'.kept, hm.kept, h.wanted_eq]
  · have hsum := hm'.dropped
    rw [← h.wanted_eq, ← h.contents_eq, hm.dropped] at hsum
    exact (Multiset.add_right_inj.mp hsum).symm

end Respelling

end Matching

/-! ## Mappings of a replaced partition -/

section Mappings

variable [HouseGate]

/-- The mapping of a scanned part that the listing knows. -/
def scanMapping (infos : List Part) (s : PartScanResult) : SafePartMapping :=
  ⟨canonical s.rowLtHash, s.partName,
    ((infos.find? (·.name = s.partName)).map (·.physHash)).getD ""⟩

/-- The scans are of distinct parts that the listing has with a physical hash, and their
    row hashes are valid, distinct and not among those of `byHash`. -/
structure ScansParts (infos : List Part) (byHash : List SafePartMapping)
    (scans : List PartScanResult) : Prop where
  names : (scans.map (·.partName)).Nodup
  known : ∀ s ∈ scans, ∃ p, infos.find? (·.name = s.partName) = some p ∧ p.physHash ≠ ""
  valid : ∀ s ∈ scans, IsHash s.rowLtHash
  distinct : (scans.map (canonical ·.rowLtHash)).Nodup
  fresh : ∀ s ∈ scans, ∀ m ∈ byHash, m.partRowLtHash ≠ canonical s.rowLtHash

variable {infos : List Part}

omit [HouseGate] in
theorem find?_filter_ne {n n' : String} (h : n' ≠ n) :
    (infos.filter (·.name ≠ n)).find? (·.name = n') = infos.find? (·.name = n') := by
  rw [List.find?_filter]
  congr
  funext p
  by_cases hp : p.name = n'
  · simp [hp, h]
  · simp [hp]

variable {byHash : List SafePartMapping}

theorem scansParts_nil : ScansParts infos byHash [] :=
  ⟨.nil, by simp, by simp, .nil, by simp⟩

variable {scans : List PartScanResult}

/-- A part that was taken off the listing is not scanned again. -/
theorem ScansParts.ne_of_filter {n : String}
    (h : ScansParts (infos.filter (·.name ≠ n)) byHash scans) : ∀ s ∈ scans, s.partName ≠ n := by
  intro s hs heq
  obtain ⟨p, hp, -⟩ := h.known s hs
  have hmem := List.mem_filter.mp (List.mem_of_find?_eq_some hp)
  have hname : p.name = s.partName := by simpa using List.find?_some hp
  simp [hname, heq] at hmem

/-- The loop over the scans goes on just with a part that the listing still has. -/
theorem scansParts_cons {s : PartScanResult} :
    ScansParts infos byHash (s :: scans) ↔
      (∃ p, infos.find? (·.name = s.partName) = some p ∧ p.physHash ≠ "") ∧ IsHash s.rowLtHash ∧
      (∀ m ∈ byHash, m.partRowLtHash ≠ canonical s.rowLtHash) ∧
      ScansParts (infos.filter (·.name ≠ s.partName)) (byHash ++ [scanMapping infos s]) scans := by
  constructor
  · intro h
    have hnames := List.nodup_cons.mp h.names
    have hdistinct := List.nodup_cons.mp h.distinct
    refine ⟨h.known s List.mem_cons_self, h.valid s List.mem_cons_self,
      h.fresh s List.mem_cons_self, hnames.2, fun s' hs' => ?_,
      fun s' hs' => h.valid s' (List.mem_cons_of_mem _ hs'), hdistinct.2, fun s' hs' m hm => ?_⟩
    · have hne : s'.partName ≠ s.partName :=
        fun heq => hnames.1 (List.mem_map.mpr ⟨s', hs', heq⟩)
      rw [find?_filter_ne hne]
      exact h.known s' (List.mem_cons_of_mem _ hs')
    · rcases List.mem_append.mp hm with hm | hm
      · exact h.fresh s' (List.mem_cons_of_mem _ hs') m hm
      · rw [List.mem_singleton.mp hm]
        exact fun heq => hdistinct.1 (List.mem_map.mpr ⟨s', hs', heq.symm⟩)
  · rintro ⟨hknown, hvalid, hfresh, h⟩
    have hne := h.ne_of_filter
    refine ⟨List.nodup_cons.mpr ⟨?_, h.names⟩, ?_, List.forall_mem_cons.mpr ⟨hvalid, h.valid⟩,
      List.nodup_cons.mpr ⟨?_, h.distinct⟩, List.forall_mem_cons.mpr ⟨hfresh, ?_⟩⟩
    · intro hmem
      obtain ⟨s', hs', heq⟩ := List.mem_map.mp hmem
      exact hne s' hs' heq
    · refine List.forall_mem_cons.mpr ⟨hknown, fun s' hs' => ?_⟩
      have hfound := h.known s' hs'
      rwa [find?_filter_ne (hne s' hs')] at hfound
    · intro hmem
      obtain ⟨s', hs', heq⟩ := List.mem_map.mp hmem
      exact h.fresh s' hs' _ (List.mem_append_right _ List.mem_cons_self) heq.symm
    · exact fun s' hs' m hm => h.fresh s' hs' m (List.mem_append_left _ hm)

/-- One step of the loop over the scans leaves the result as it is. -/
theorem scansParts_result {byHash' : List SafePartMapping} {sum a : Acc} {s : PartScanResult}
    (h : ScansParts (infos.filter (·.name ≠ s.partName)) byHash' scans)
    (ha : accOf s.rowLtHash = a) :
    (byHash ++ [scanMapping infos s] ++ scans.map (scanMapping (infos.filter (·.name ≠ s.partName))),
        (infos.filter (·.name ≠ s.partName)).filter (·.name ∉ scans.map (·.partName)),
        sum + a + sumOf (scans.map (·.rowLtHash))) =
      (byHash ++ (s :: scans).map (scanMapping infos),
        infos.filter (·.name ∉ (s :: scans).map (·.partName)),
        sum + sumOf ((s :: scans).map (·.rowLtHash))) := by
  have hmap : scans.map (scanMapping (infos.filter (·.name ≠ s.partName))) =
      scans.map (scanMapping infos) := List.map_congr_left fun s' hs' => by
    rw [scanMapping, scanMapping, find?_filter_ne (h.ne_of_filter s' hs')]
  have hfilter : (infos.filter (·.name ≠ s.partName)).filter (·.name ∉ scans.map (·.partName)) =
      infos.filter (·.name ∉ (s :: scans).map (·.partName)) := by
    rw [List.filter_filter]
    refine List.filter_congr fun p _ => ?_
    rw [Bool.eq_iff_iff]
    simp [and_comm]
  have hsum : sum + a + sumOf (scans.map (·.rowLtHash)) =
      sum + sumOf ((s :: scans).map (·.rowLtHash)) := by simp [ha, add_assoc]
  rw [hmap, hfilter, hsum, List.append_assoc]
  rfl

/-- What the loop over the scans accepts and returns. -/
theorem mapSafeScans_eq_ok {sum : Acc} {res : List SafePartMapping × List Part × Acc} :
    mapSafeScans infos byHash sum scans = .ok res ↔ ScansParts infos byHash scans ∧
      res = (byHash ++ scans.map (scanMapping infos),
        infos.filter (·.name ∉ scans.map (·.partName)), sum + sumOf (scans.map (·.rowLtHash))) := by
  induction scans generalizing infos byHash sum with
  | nil => simp [mapSafeScans, scansParts_nil, eq_comm]
  | cons s scans ih =>
    rw [scansParts_cons]
    simp only [mapSafeScans]
    cases hfind : infos.find? (·.name = s.partName) with
    | none => simp
    | some info =>
      by_cases hphys : info.physHash = ""
      · simp [hphys]
      cases hparse : parseAccumulatorHex s.rowLtHash with
      | error e =>
        have hnot : ¬ IsHash s.rowLtHash := fun ⟨a, ha⟩ => by simp [ha.2] at hparse
        simp [hphys, hnot]
      | ok a =>
        have hacc : accOf s.rowLtHash = a := accOf_of_parse hparse
        have hmapping : scanMapping infos s = ⟨accumulatorHex a, s.partName, info.physHash⟩ := by
          simp [scanMapping, hfind, canonical, hacc]
        have hhash : IsHash s.rowLtHash ↔ s.rowLtHash ≠ "" :=
          ⟨fun h => h.ne_empty, fun h => ⟨a, h, hparse⟩⟩
        have hany : byHash.any (·.partRowLtHash = accumulatorHex a) = true ↔
            ¬ ∀ m ∈ byHash, m.partRowLtHash ≠ canonical s.rowLtHash := by
          simp [canonical, hacc]
        simp only [hphys, if_false, hany, hhash]
        by_cases hempty : s.rowLtHash = ""
        · simp [hempty]
        by_cases hfresh : ∀ m ∈ byHash, m.partRowLtHash ≠ canonical s.rowLtHash
        · rw [if_neg hempty, if_neg (not_not.mpr hfresh), ih, ← hmapping]
          have hknown : ∃ p, some info = some p ∧ p.physHash ≠ "" := ⟨info, rfl, hphys⟩
          simp only [hknown, hempty, ne_eq, not_false_eq_true, true_and]
          refine ⟨fun ⟨h, hres⟩ => ⟨⟨hfresh, h⟩, ?_⟩, fun ⟨⟨_, h⟩, hres⟩ => ⟨h, ?_⟩⟩
          · rw [hres, scansParts_result h hacc]
          · rw [hres, scansParts_result h hacc]
        · rw [if_neg hempty, if_pos hfresh]
          simp [hfresh]

/-- The mapping of a candidate: that of the part with its row hash, under the spelling of
    the command. -/
def CandidateOf (partition : List SafePartMapping) (cp : PartRef) (m : SafePartMapping) : Prop :=
  ∃ found ∈ partition, found.partRowLtHash = canonical cp.partRowLtHash ∧
    m = { found with partRowLtHash := cp.partRowLtHash }

/-- What the loop over the candidates accepts and returns. -/
theorem mapSafeCandidates_eq_ok {seen : List String} {out : List SafePartMapping}
    (hdistinct : (byHash.map (·.partRowLtHash)).Nodup) :
    mapSafeCandidates byHash seen cps = .ok out ↔
      (∀ cp ∈ cps, IsHash cp.partRowLtHash) ∧ (candidateKeys cps).Nodup ∧
      (∀ k ∈ candidateKeys cps, k ∉ seen) ∧ List.Forall₂ (CandidateOf byHash) cps out := by
  induction cps generalizing seen out with
  | nil => simp [mapSafeCandidates, candidateKeys, eq_comm]
  | cons cp cps ih =>
    simp only [mapSafeCandidates]
    cases hparse : parseAccumulatorHex cp.partRowLtHash with
    | error e =>
      have hnot : ¬ IsHash cp.partRowLtHash := fun ⟨a, ha⟩ => by simp [ha.2] at hparse
      simp [hnot]
    | ok a =>
      have hkey : canonical cp.partRowLtHash = accumulatorHex a := by
        rw [canonical, accOf_of_parse hparse]
      have hkeys : candidateKeys (cp :: cps) = accumulatorHex a :: candidateKeys cps := by
        rw [← hkey]
        rfl
      rw [hkeys]
      dsimp only
      constructor
      · intro h
        split at h
        · cases h
        next hempty =>
        split at h
        · cases h
        next hseen =>
        split at h
        · cases h
        next found hfind =>
        simp only [Except.bind_eq_ok, Except.pure_eq_ok] at h
        obtain ⟨rest, hrest, rfl⟩ := h
        obtain ⟨hvalid, hnodup, hfresh, hall⟩ := ih.mp hrest
        have hfound : found.partRowLtHash = accumulatorHex a := by
          simpa using List.find?_some hfind
        refine ⟨List.forall_mem_cons.mpr ⟨⟨a, hempty, hparse⟩, hvalid⟩,
          List.nodup_cons.mpr ⟨fun hmem => hfresh _ hmem List.mem_cons_self, hnodup⟩,
          List.forall_mem_cons.mpr ⟨hseen, fun k hk hmem =>
            hfresh k hk (List.mem_cons_of_mem _ hmem)⟩, ?_⟩
        exact .cons ⟨found, List.mem_of_find?_eq_some hfind, hfound.trans hkey.symm, rfl⟩ hall
      · rintro ⟨hvalid, hnodup, hfresh, hall⟩
        obtain ⟨hcp, hvalid⟩ := List.forall_mem_cons.mp hvalid
        obtain ⟨hnot, hnodup⟩ := List.nodup_cons.mp hnodup
        obtain ⟨hseen, hfresh⟩ := List.forall_mem_cons.mp hfresh
        cases hall with
        | cons hm hall =>
          obtain ⟨found, hfound, heq, rfl⟩ := hm
          have hunseen : ∀ k ∈ candidateKeys cps, k ∉ accumulatorHex a :: seen := by
            intro k hk hmem
            rcases List.mem_cons.mp hmem with rfl | hmem
            · exact hnot hk
            · exact hfresh k hk hmem
          have hrest := ih.mpr ⟨hvalid, hnodup, hunseen, hall⟩
          rw [if_neg hcp.ne_empty, if_neg hseen,
            Bag.find?_of_nodup hdistinct hfound (heq.trans hkey)]
          simp [hrest, bind, Except.bind, pure, Except.pure]

/-- The scans are the active parts one to one, with distinct row hashes that sum to the
    root, and the candidates are distinct and present. -/
structure Closed (cmd : PromoteSafePartition) (post : String) (after : List Part)
    (scans : List PartScanResult) : Prop where
  names : (scans.map (·.partName)).Perm (after.map (·.name))
  valid : ∀ s ∈ scans, IsHash s.rowLtHash
  distinct : (scans.map (accOf ·.rowLtHash)).Nodup
  closes : parseAccumulatorHex post = .ok (sumOf (scans.map (·.rowLtHash)))
  candidates : ∀ cp ∈ cmd.candidateParts, IsHash cp.partRowLtHash
  distinctCandidates : (cmd.candidateParts.map (accOf ·.partRowLtHash)).Nodup
  present : ∀ cp ∈ cmd.candidateParts, accOf cp.partRowLtHash ∈ scans.map (accOf ·.rowLtHash)

/-- When the mappings of a replaced partition are accepted: every active part also has a
    physical hash. -/
structure Inventory (cmd : PromoteSafePartition) (post : String) (after : List Part)
    (scans : List PartScanResult) : Prop extends Closed cmd post after scans where
  complete : ∀ p ∈ after, p.physHash ≠ ""

variable {cmd : PromoteSafePartition} {post : String} {after : List Part}
  {scans : List PartScanResult}

theorem nodup_canonical {α : Type} {f : α → String} {l : List α} :
    (l.map fun x => canonical (f x)).Nodup ↔ (l.map fun x => accOf (f x)).Nodup := by
  have hmap : (l.map fun x => canonical (f x)) = (l.map fun x => accOf (f x)).map accumulatorHex := by
    rw [List.map_map]
    rfl
  rw [hmap, List.nodup_map_iff fun _ _ => accumulatorHex_injective]

/-- Scans of all active parts, in the terms of the loop over them. -/
theorem scansParts_iff (hnodup : (after.map (·.name)).Nodup) :
    ScansParts after [] scans ∧ after.filter (·.name ∉ scans.map (·.partName)) = [] ↔
      (scans.map (·.partName)).Perm (after.map (·.name)) ∧ (∀ p ∈ after, p.physHash ≠ "") ∧
      (∀ s ∈ scans, IsHash s.rowLtHash) ∧ (scans.map (accOf ·.rowLtHash)).Nodup := by
  have hfind : ∀ p ∈ after, ∀ n, p.name = n → after.find? (·.name = n) = some p :=
    fun p hp n hn => Bag.find?_of_nodup hnodup hp hn
  constructor
  · rintro ⟨h, hall⟩
    have hsub : ∀ p ∈ after, ∃ s ∈ scans, s.partName = p.name := by
      intro p hp
      simpa using List.filter_eq_nil_iff.mp hall p hp
    refine ⟨?_, fun p hp => ?_, h.valid, nodup_canonical.mp h.distinct⟩
    · refine (List.perm_ext_iff_of_nodup h.names hnodup).mpr fun n => ⟨fun hn => ?_, fun hn => ?_⟩
      · obtain ⟨s, hs, rfl⟩ := List.mem_map.mp hn
        obtain ⟨p, hp, -⟩ := h.known s hs
        exact List.mem_map.mpr ⟨p, List.mem_of_find?_eq_some hp, by simpa using List.find?_some hp⟩
      · obtain ⟨p, hp, rfl⟩ := List.mem_map.mp hn
        obtain ⟨s, hs, hname⟩ := hsub p hp
        exact List.mem_map.mpr ⟨s, hs, hname⟩
    · obtain ⟨s, hs, hname⟩ := hsub p hp
      obtain ⟨p', hp', hphys⟩ := h.known s hs
      rw [hfind p hp _ hname.symm, Option.some.injEq] at hp'
      exact hp' ▸ hphys
  · rintro ⟨hnames, hcomplete, hvalid, hdistinct⟩
    refine ⟨⟨hnames.nodup_iff.mpr hnodup, fun s hs => ?_, hvalid, nodup_canonical.mpr hdistinct,
      by simp⟩, List.filter_eq_nil_iff.mpr fun p hp => ?_⟩
    · obtain ⟨p, hp, hname⟩ := List.mem_map.mp (hnames.subset (List.mem_map_of_mem hs))
      exact ⟨p, hfind p hp _ hname, hcomplete p hp⟩
    · simpa using List.mem_map.mp (hnames.symm.subset (List.mem_map_of_mem hp))

theorem exists_candidates {partition : List SafePartMapping} :
    (∃ out, List.Forall₂ (CandidateOf partition) cps out) ↔
      ∀ cp ∈ cps, canonical cp.partRowLtHash ∈ partition.map (·.partRowLtHash) := by
  induction cps with
  | nil => simp
  | cons cp cps ih =>
    rw [List.forall_mem_cons, ← ih]
    constructor
    · rintro ⟨out, hout⟩
      cases hout with
      | cons hm hrest =>
        obtain ⟨found, hfound, heq, -⟩ := hm
        exact ⟨List.mem_map.mpr ⟨found, hfound, heq⟩, _, hrest⟩
    · rintro ⟨hmem, out, hout⟩
      obtain ⟨found, hfound, heq⟩ := List.mem_map.mp hmem
      exact ⟨_, .cons ⟨found, hfound, heq, rfl⟩ hout⟩

theorem map_scanMapping (infos : List Part) (scans : List PartScanResult) :
    (scans.map (scanMapping infos)).map (·.partRowLtHash) = scans.map (canonical ·.rowLtHash) := by
  rw [List.map_map]
  rfl

/-- What the mappings of a replaced partition accept and return. -/
theorem mappingsOf_eq_ok {m : SafePartMappings} (hnodup : (after.map (·.name)).Nodup) :
    mappingsOf cmd post after scans = .ok m ↔ Inventory cmd post after scans ∧
      m.partition = scans.map (scanMapping after) ∧
      List.Forall₂ (CandidateOf m.partition) cmd.candidateParts m.candidates := by
  constructor
  · intro h
    simp only [mappingsOf, Except.bind_eq_ok] at h
    obtain ⟨res, hmap, h⟩ := h
    obtain ⟨hscanned, rfl⟩ := mapSafeScans_eq_ok.mp hmap
    split at h
    · cases h
    next hall =>
    split at h
    · cases h
    next expected hpost =>
    split at h
    · cases h
    next hsum =>
    simp only [List.nil_append, Except.bind_eq_ok, Except.pure_eq_ok] at h
    obtain ⟨cands, hcands, rfl⟩ := h
    have hinventory := (scansParts_iff hnodup).mp ⟨hscanned, not_not.mp hall⟩
    have hdistinct : ((scans.map (scanMapping after)).map (·.partRowLtHash)).Nodup := by
      rw [map_scanMapping]
      exact hscanned.distinct
    obtain ⟨hvalid, hkeys, -, hfound⟩ := (mapSafeCandidates_eq_ok hdistinct).mp hcands
    have hpresent := exists_candidates.mp ⟨_, hfound⟩
    rw [map_scanMapping] at hpresent
    refine ⟨⟨⟨hinventory.1, hinventory.2.2.1, hinventory.2.2.2, ?_, hvalid,
      nodup_canonical.mp hkeys, fun cp hcp => ?_⟩, hinventory.2.1⟩, rfl, hfound⟩
    · rw [hpost, ← not_not.mp hsum, zero_add]
    · obtain ⟨s, hs, heq⟩ := List.mem_map.mp (hpresent cp hcp)
      exact List.mem_map.mpr ⟨s, hs, canonical_eq_iff.mp heq⟩
  · obtain ⟨candidates, partition⟩ := m
    rintro ⟨hinv, rfl, hcandidates⟩
    obtain ⟨hscanned, hall⟩ := (scansParts_iff hnodup).mpr
      ⟨hinv.names, hinv.complete, hinv.valid, hinv.distinct⟩
    have hmap : mapSafeScans after [] 0 scans = .ok _ := mapSafeScans_eq_ok.mpr ⟨hscanned, rfl⟩
    have hdistinct : ((scans.map (scanMapping after)).map (·.partRowLtHash)).Nodup := by
      rw [map_scanMapping]
      exact hscanned.distinct
    have hcands : mapSafeCandidates (scans.map (scanMapping after)) [] cmd.candidateParts = .ok _ :=
      (mapSafeCandidates_eq_ok hdistinct).mpr ⟨hinv.candidates,
        nodup_canonical.mpr hinv.distinctCandidates, by simp, hcandidates⟩
    simp only [mappingsOf, hmap, bind, Except.bind, hall, hinv.closes, List.nil_append, hcands,
      zero_add, ne_eq, not_true_eq_false, if_false, pure, Except.pure]

/-- The mapping of the partition is one to one with the active parts, and that of the
    candidates is its part in the order of the command. -/
structure MapsInventory (cmd : PromoteSafePartition) (after : List Part)
    (scans : List PartScanResult) (m : SafePartMappings) : Prop where
  names : (m.partition.map (·.safePartName)).Perm (after.map (·.name))
  phys : ∀ x ∈ m.partition, ∃ p ∈ after, p.name = x.safePartName ∧ p.physHash = x.partPhysHash
  rows : ∀ x ∈ m.partition, ∃ s ∈ scans, s.partName = x.safePartName ∧
    canonical s.rowLtHash = x.partRowLtHash
  candidates : List.Forall₂ (CandidateOf m.partition) cmd.candidateParts m.candidates

theorem mappingsOf_maps {m : SafePartMappings} (hnodup : (after.map (·.name)).Nodup)
    (h : mappingsOf cmd post after scans = .ok m) : MapsInventory cmd after scans m := by
  obtain ⟨hinv, hpartition, hcandidates⟩ := (mappingsOf_eq_ok hnodup).mp h
  refine ⟨?_, fun x hx => ?_, fun x hx => ?_, hcandidates⟩
  · rw [hpartition, List.map_map]
    exact hinv.names
  · rw [hpartition] at hx
    obtain ⟨s, hs, rfl⟩ := List.mem_map.mp hx
    obtain ⟨p, hp, hname⟩ := List.mem_map.mp (hinv.names.subset (List.mem_map_of_mem hs))
    refine ⟨p, hp, hname, ?_⟩
    rw [scanMapping, Bag.find?_of_nodup hnodup hp hname]
    rfl
  · rw [hpartition] at hx
    obtain ⟨s, hs, rfl⟩ := List.mem_map.mp hx
    exact ⟨s, hs, rfl, rfl⟩

theorem exists_mappingsOf (hnodup : (after.map (·.name)).Nodup) :
    (∃ m, mappingsOf cmd post after scans = .ok m) ↔ Inventory cmd post after scans := by
  constructor
  · rintro ⟨m, hm⟩
    exact ((mappingsOf_eq_ok hnodup).mp hm).1
  intro hinv
  have hpresent : ∀ cp ∈ cmd.candidateParts, canonical cp.partRowLtHash ∈
      (scans.map (scanMapping after)).map (·.partRowLtHash) := by
    intro cp hcp
    obtain ⟨s, hs, heq⟩ := List.mem_map.mp (hinv.present cp hcp)
    rw [map_scanMapping]
    exact List.mem_map.mpr ⟨s, hs, canonical_eq_iff.mpr heq⟩
  obtain ⟨out, hout⟩ := exists_candidates.mpr hpresent
  exact ⟨⟨out, _⟩, (mappingsOf_eq_ok hnodup).mpr ⟨hinv, rfl, hout⟩⟩

/-- Matching succeeds just when the candidates are among the contents of the shadow, and
    mapping just when the scans are the inventory; both then answer with the parts that
    the multisets of row hashes name. -/
theorem matching_and_mappings {shadow shadow' : List ShadowPart} {cmd' : PromoteSafePartition}
    (hshadow : (shadow.map (·.name)).Nodup) (hshadow' : (shadow'.map (·.name)).Nodup)
    (hafter : (after.map (·.name)).Nodup) :
    ((∃ res, matchShadowCandidates cmd shadow = .ok res) ↔
      (∀ cp ∈ cmd.candidateParts, IsHash cp.partRowLtHash) ∧ (∀ p ∈ shadow, p.Readable) ∧
      cmd.wanted ≤ contents shadow) ∧
    (∀ keep drop, matchShadowCandidates cmd shadow = .ok (keep, drop) →
      MatchedBy cmd shadow keep drop ∧ (Respelled cmd cmd' shadow shadow' →
        ∃ keep' drop', matchShadowCandidates cmd' shadow' = .ok (keep', drop') ∧
          contentsOf shadow' keep' = contentsOf shadow keep ∧
          contentsOf shadow' drop' = contentsOf shadow drop)) ∧
    ((∃ m, mappingsOf cmd post after scans = .ok m) ↔ Inventory cmd post after scans) ∧
    ∀ m, mappingsOf cmd post after scans = .ok m → MapsInventory cmd after scans m := by
  refine ⟨⟨?_, ?_⟩, fun keep drop h => ⟨matchShadowCandidates_matched hshadow h,
    fun hsame => hsame.matched hshadow hshadow' h⟩, exists_mappingsOf hafter,
    fun m hm => mappingsOf_maps hafter hm⟩
  · rintro ⟨⟨keep, drop⟩, h⟩
    obtain ⟨hcands, hread, hle, -⟩ := matchShadowCandidates_eq_ok.mp h
    exact ⟨hcands, hread, hle⟩
  · rintro ⟨hcands, hread, hle⟩
    exact ⟨_, matchShadowCandidates_eq_ok.mpr ⟨hcands, hread, hle, rfl, rfl⟩⟩

end Mappings

namespace SmallNode

/-- A promotion of one candidate with one row. -/
def promoteRow : PromoteSafePartition := ⟨"t", "all", 1, "", "", [⟨"t", "all", "0x1", "u1"⟩]⟩

/-- The replaced partition: one part with the physical hash. -/
def replaced (physHash : String) : List Part := [⟨"all_1_1_0", "all", "", physHash, "", 1, 1⟩]

def scannedRow : List PartScanResult := [⟨"all_1_1_0", "0x1", 1⟩]

theorem isHash_row : letI := gate; IsHash "0x1" :=
  letI := gate
  ⟨(1 : ZMod 3), by decide, rfl⟩

theorem closed_row (physHash : String) :
    letI := gate; Closed promoteRow "0x1" (replaced physHash) scannedRow :=
  letI := gate
  { names := .refl _
    valid := by simpa [scannedRow] using isHash_row
    distinct := by simp [scannedRow]
    closes := rfl
    candidates := by simpa [promoteRow] using isHash_row
    distinctCandidates := by simp [promoteRow]
    present := by simp [promoteRow, scannedRow] }

end SmallNode

open SmallNode in
/-- The attached parts are the candidate and one without rows; the replaced partition is
    the candidate. -/
theorem matching_and_mappings_row : letI := gate
    (∃ keep drop, matchShadowCandidates promoteRow [⟨"p1", "0x1"⟩, ⟨"p2", ""⟩] = .ok (keep, drop) ∧
      MatchedBy promoteRow [⟨"p1", "0x1"⟩, ⟨"p2", ""⟩] keep drop) ∧
    ∃ m, mappingsOf promoteRow "0x1" (replaced "f") scannedRow = .ok m ∧
      MapsInventory promoteRow (replaced "f") scannedRow m := by
  let _ := gate
  obtain ⟨hmatch, hmatched, hmap, hmaps⟩ := @matching_and_mappings gate promoteRow "0x1"
    (replaced "f") scannedRow [⟨"p1", "0x1"⟩, ⟨"p2", ""⟩] [] promoteRow (by decide) .nil (by decide)
  have hcands : ∀ cp ∈ promoteRow.candidateParts, IsHash cp.partRowLtHash := by
    simpa [promoteRow] using isHash_row
  have hread : ∀ p ∈ [⟨"p1", "0x1"⟩, ⟨"p2", ""⟩], ShadowPart.Readable p := by
    simpa [ShadowPart.Readable] using isHash_row
  have hle : promoteRow.wanted ≤ contents [⟨"p1", "0x1"⟩, ⟨"p2", ""⟩] :=
    Multiset.coe_le.mpr (List.Subperm.refl _)
  obtain ⟨⟨keep, drop⟩, hok⟩ := hmatch.mpr ⟨hcands, hread, hle⟩
  obtain ⟨m, hm⟩ := hmap.mpr ⟨closed_row "f", by simp [replaced]⟩
  exact ⟨⟨keep, drop, hok, (hmatched keep drop hok).1⟩, m, hm, hmaps m hm⟩

open SmallNode in
/-- The same inventory with a part that has no physical hash is refused. -/
theorem mappings_refuse_part_without_phys_hash : letI := gate
    Closed promoteRow "0x1" (replaced "") scannedRow ∧ ((replaced "").map (·.name)).Nodup ∧
      ∀ m, mappingsOf promoteRow "0x1" (replaced "") scannedRow ≠ .ok m := by
  let _ := gate
  exact ⟨closed_row "", by decide, fun m h => by cases h⟩

end ArbiterCore
