-- SUMMARY: The multiset law of the gate, over any sequence of classified scratches.
import ArbiterCore.Install.Gate
import ArbiterCore.SNode.World

/-!
# The multiset law

A partition is planned once. Then scratches arrive in any order from any source, and
each is classified against the need that the earlier ones left. Whatever arrives, the
kept parts and the remaining need make up the planned need.
-/

namespace ArbiterCore.Install.Gate

variable [LtHash]

/-- A scratch, and the part that it was pulled for; a restore has none. -/
structure Filled where
  single : Option Expected
  parts : List ScratchPart

/-- Every hash of the scratch, and of the part that it was pulled for, parses. -/
structure Filled.Accepted (s : Filled) : Prop where
  parts : ∀ p ∈ s.parts, Gate.Accepted p.rowLtHash
  single : ∀ e ∈ s.single, Gate.Accepted e.rowLtHash

/-- Classifies scratches in turn; gives the classifications and the need that is left. -/
def classifyAll : List String → List Filled → Except String (List Classification × List String)
  | need, [] => .ok ([], need)
  | need, s :: rest => do
    let cls ← classify ⟨need, s.single⟩ s.parts
    -- each kept part is taken off the need once
    let (later, left) ← classifyAll (need.diff cls.kept) rest
    return (cls :: later, left)

/-- The needs that a sequence of classifications satisfied. -/
def keptOf (classes : List Classification) : List String := classes.flatMap (·.kept)

omit [LtHash] in
@[simp] theorem keptOf_nil : keptOf [] = [] := rfl

omit [LtHash] in
@[simp] theorem keptOf_cons (cls : Classification) (classes : List Classification) :
    keptOf (cls :: classes) = cls.kept ++ keptOf classes := rfl

variable {need : List String}

/-- One scratch: what it keeps and what it leaves make up the need. -/
theorem diff_kept {s : Filled} {cls : Classification} {kept : List ScratchPart}
    (hneed : ∀ x ∈ need, Canonical x) (h : Keeps need s.parts cls kept) :
    bag need = bag cls.kept + bag (need.diff cls.kept) := by
  have hsame : need.map canonical = need :=
    (List.map_congr_left fun x hx => (hneed x hx).canonical_eq).trans (List.map_id' need)
  have hsub : cls.kept.Subperm need := by
    have hle := subperm_canonical.mpr h.needed
    rw [hsame, List.map_map] at hle
    rwa [h.texts]
  rw [← bag_append]
  exact (bag_perm (List.subperm_append_diff_self_of_count_le
    (List.subperm_ext_iff.mp hsub))).symm

/-- Any sequence of scratches: what they keep and what is left make up the need. -/
theorem classifyAll_spec {fills : List Filled} (hneed : ∀ x ∈ need, Canonical x)
    (hfills : ∀ s ∈ fills, s.Accepted) :
    ∃ classes left, classifyAll need fills = .ok (classes, left) ∧
      bag need = bag (keptOf classes) + bag left ∧ ∀ x ∈ keptOf classes, Canonical x := by
  induction fills generalizing need with
  | nil => exact ⟨[], need, rfl, by simp, by simp⟩
  | cons s fills ih =>
    obtain ⟨hs, hfills⟩ := List.forall_mem_cons.mp hfills
    obtain ⟨cls, hcls, kept, hkeeps⟩ := classify_keeps (f := ⟨need, s.single⟩)
      ⟨fun x hx => (hneed x hx).accepted, hs.parts, hs.single⟩
    have hleft : ∀ x ∈ need.diff cls.kept, Canonical x :=
      fun x hx => hneed x ((List.diff_sublist _ _).subset hx)
    obtain ⟨later, left, hrest, hbag, hlater⟩ := ih hleft hfills
    refine ⟨cls :: later, left, ?_, ?_, ?_⟩
    · simp [classifyAll, hcls, hrest, bind, Except.bind, pure, Except.pure]
    · rw [diff_kept hneed hkeeps, hbag, keptOf_cons, bag_append, add_assoc]
    intro x hx
    rw [keptOf_cons, List.mem_append] at hx
    rcases hx with hx | hx
    · rw [hkeeps.texts] at hx
      obtain ⟨p, -, rfl⟩ := List.mem_map.mp hx
      exact ⟨_, rfl⟩
    · exact hlater x hx

/-! ## The law -/

/-- What a plan of a partition comes to, whatever scratches arrive after it. -/
structure Plan.Completes (p : Plan) (manifest : List String) (root : String) (held : List String) :
    Prop where
  diverged : p.diverged = true ↔ ¬ bag held ≤ bag manifest
  need : p.diverged = false → bag p.need = bag manifest - bag held
  fetched : p.diverged = false → ∀ fills : List Filled, (∀ s ∈ fills, s.Accepted) →
    ∃ classes left, classifyAll p.need fills = .ok (classes, left) ∧
      bag p.need = bag (keptOf classes) + bag left ∧
      (left = [] → bag held + bag (keptOf classes) = bag manifest ∧
        closure root held (keptOf classes) = .ok ())

/-- What a classification says about the scratch. -/
structure Classification.Judges (cls : Classification) (need : List String) (s : Filled) : Prop where
  keeps : ∃ kept, Keeps need s.parts cls kept
  restored : s.single = none → (s.parts.map (·.name)).Nodup →
    (cls.keep ++ cls.drop).Perm (s.parts.map (·.name)) ∧ cls.keep.Disjoint cls.drop
  pulled : ∀ e, s.single = some e → rowsOf s.parts < 2 ^ 63 → e.rows < 2 ^ 63 →
    ∀ o, cls.outcome = o ↔ e.Stated need s.parts o ∧ (rowsOf s.parts = 0 → o = .renameRace)
  foreign : cls.outcome = .foreign → cls.keep = [] ∧ cls.drop = [] ∧ cls.kept = []

theorem planPartition_completes {manifest held : List String} {root : String}
    (hm : ∀ x ∈ manifest, Accepted x) (hl : ∀ x ∈ held, Accepted x)
    (hr : Accepted root) (hsum : accOf root = sumOf manifest) :
    ∃ p, planPartition manifest root held = .ok p ∧ p.Completes manifest root held := by
  have hplan := planPartition_ok hm hl hr hsum
  refine ⟨_, hplan, planPartition_diverged hm hl hr hsum hplan, fun hp => ?_, fun hp fills hfills => ?_⟩
  · rw [planPartition_need hm hl hr hsum hplan hp, add_tsub_cancel_left]
  have hneed := planPartition_need hm hl hr hsum hplan hp
  obtain ⟨classes, left, hall, hbag, hkept⟩ :=
    classifyAll_spec (planPartition_canonical hm hl hr hsum hplan hp) hfills
  refine ⟨classes, left, hall, hbag, ?_⟩
  rintro rfl
  have hwhole : bag held + bag (keptOf classes) = bag manifest := by
    rw [hneed, hbag, bag_nil, add_zero]
  refine ⟨hwhole, (closure_iff hl (fun x hx => (hkept x hx).accepted) hr).mpr ?_⟩
  rw [hsum, ← sum_bag, ← hwhole, Multiset.sum_add, sum_bag, sum_bag]

theorem classify_judges {s : Filled} (hneed : ∀ x ∈ need, Accepted x) (hs : s.Accepted) :
    ∃ cls, classify ⟨need, s.single⟩ s.parts = .ok cls ∧ cls.Judges need s := by
  have haccepted : Fetch.Accepted ⟨need, s.single⟩ s.parts := ⟨hneed, hs.parts, hs.single⟩
  cases hsingle : s.single with
  | none =>
    rw [hsingle] at haccepted
    refine ⟨_, classify_restore haccepted rfl, classifyRestore_keeps need s.parts, ?_, ?_, nofun⟩
    · intro _ hnodup
      have hperm := classifyRestore_partition (need.map canonical)
        (s.parts.map ScratchPart.canonical)
      have hnames : (s.parts.map ScratchPart.canonical).map (·.name) = s.parts.map (·.name) := by
        simp [ScratchPart.canonical]
      rw [hnames] at hperm
      exact ⟨hperm, List.disjoint_of_nodup_append (hperm.nodup_iff.mpr hnodup)⟩
    · intro e he
      rw [hsingle] at he
      cases he
  | some e =>
    rw [hsingle] at haccepted
    refine ⟨_, classify_pull haccepted rfl, classifyPull_keeps need e s.parts, ?_, ?_, ?_⟩
    · intro hnone
      rw [hsingle] at hnone
      cases hnone
    · intro e' he' hrows hexpected o
      obtain rfl : e = e' := by simpa [hsingle] using he'
      exact classifyPull_outcome hrows hexpected o
    · exact classifyPull_foreign

/-- A plan and the classifications that follow it obey the multisets: of accumulators
    in any spelling, for any sequence of scratches. A pull without rows is a rename
    race, whatever was expected; the other outcomes are told apart by their rows. -/
theorem gate_multiset_law {manifest held : List String} {root : String} {s : Filled}
    (hm : ∀ x ∈ manifest, Accepted x) (hl : ∀ x ∈ held, Accepted x)
    (hr : Accepted root) (hsum : accOf root = sumOf manifest)
    (hneed : ∀ x ∈ need, Accepted x) (hs : s.Accepted) :
    (∃ p, planPartition manifest root held = .ok p ∧ p.Completes manifest root held) ∧
      ∃ cls, classify ⟨need, s.single⟩ s.parts = .ok cls ∧ cls.Judges need s :=
  ⟨planPartition_completes hm hl hr hsum, classify_judges hneed hs⟩

omit [LtHash] in
/-- A partition of two parts of one content, of which one is held and the other is
    pulled. -/
theorem gate_multiset_law_two_parts : letI : LtHash := SmallNode.gate.toLtHash
    let s : Filled := ⟨some ⟨"0x1", 1⟩, [⟨"all_1_1_0", "0x1", 1⟩]⟩
    (∀ x ∈ ["0x1", "0x1"], Accepted x) ∧ (∀ x ∈ ["0x1"], Accepted x) ∧ Accepted "0x2" ∧
      accOf "0x2" = sumOf ["0x1", "0x1"] ∧ (∀ x ∈ ["0x1"], Accepted x) ∧ s.Accepted ∧
      (∃ p, planPartition ["0x1", "0x1"] "0x2" ["0x1"] = .ok p ∧
        p.Completes ["0x1", "0x1"] "0x2" ["0x1"]) ∧
      ∃ cls, classify ⟨["0x1"], s.single⟩ s.parts = .ok cls ∧ cls.Judges ["0x1"] s := by
  let _ : LtHash := SmallNode.gate.toLtHash
  have hone : Accepted "0x1" := ⟨"0x1", by decide⟩
  have htwo : Accepted "0x2" := ⟨"0x2", by decide⟩
  have hheld : ∀ x ∈ ["0x1"], Accepted x := by simpa using hone
  have hboth : ∀ x ∈ ["0x1", "0x1"], Accepted x := by simpa using hone
  have hsum : accOf "0x2" = sumOf ["0x1", "0x1"] := by decide
  have hs : Filled.Accepted ⟨some ⟨"0x1", 1⟩, [⟨"all_1_1_0", "0x1", 1⟩]⟩ :=
    ⟨by simpa using hone, by simpa using hone⟩
  exact ⟨hboth, hheld, htwo, hsum, hheld, hs, gate_multiset_law hboth hheld htwo hsum hheld hs⟩

omit [LtHash] in
/-- The expected part has no rows and arrives alone: it is needed and equal to the
    expected one, and still the pull is a rename race. -/
theorem empty_part_pulled_is_rename_race : letI : LtHash := SmallNode.gate.toLtHash
    let single : Expected := ⟨"0x0", 0⟩
    let parts : List ScratchPart := [⟨"all_1_1_0", "0x0", 0⟩]
    rowsOf parts < 2 ^ 63 ∧ single.rows < 2 ^ 63 ∧ single.Stated ["0x0"] parts .kept ∧
      single.Stated ["0x0"] parts .renameRace ∧
      (classify ⟨["0x0"], some single⟩ parts).map (·.outcome) = .ok .renameRace := by
  let _ : LtHash := SmallNode.gate.toLtHash
  refine ⟨by decide, by decide, ⟨by decide, ?_⟩, rfl, rfl⟩
  exact Multiset.mem_coe.mpr (by decide)

end ArbiterCore.Install.Gate
