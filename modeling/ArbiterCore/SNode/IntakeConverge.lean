-- SUMMARY: Aborts, convergence and the entry points of the intake meet their contract.
import ArbiterCore.SNode.IntakeSafe

/-!
# Aborts, convergence and the entry points

Convergence lists the table, scans the suspected parts and repairs or aborts the
record. Cleanups may drop a listed part before it is scanned; such a part then
counts as attributed without rows, and an abort names a part that is gone.
-/

namespace ArbiterCore

open Conc

variable [HouseGate]

section Handlers

variable {r : Role} {faults : Faults} {permit : Permit} {id : String} {J : World → Prop}
  (K : (intakeContract r faults permit id).Keeps J) (hJ : ∀ w, J w → IntakeBase r w)
  {w w' : World} {rec : IntakeRecord}

/-! ## Aborts -/

/-- The call is aborting the record. -/
structure InAbort (w : World) (rec : IntakeRecord) (abort : IntakeAbort) : Prop where
  lookup : w.HasRecord rec
  life : rec.lifecycle = .abortPending
  hasAbort : rec.abort = some abort

variable {abort : IntakeAbort} (hid : rec.statementID = id)

theorem InAbort.rely (h : InAbort w rec abort) (hr : IntakeRely r w w') : InAbort w' rec abort :=
  ⟨h.lookup.of_journal hr.journal, h.life, h.hasAbort⟩

include K hid

theorem dropAbortPart_safe (h : InAbort w rec abort) {name : String}
    (hname : name ∈ abort.partNames) :
    intakeSafe r faults permit id J (dropAbortPart rec (r.schemas rec.table) name)
      (fun _ w' => InAbort w' rec abort ∧ ∀ p ∈ w'.parts .hgUnsafe rec.table,
        p ∈ w.parts .hgUnsafe rec.table ∧ p.name ≠ name) w := by
  have htable := r.schemas_tableID rec.table
  unfold dropAbortPart
  rw [htable]
  refine wpI_bind (wpI_ask K fun w₁ hr _ res w₂ ⟨a, ha⟩ => ?_)
  have h₁ := h.rely hr
  obtain ⟨hw₂, hgone⟩ := runDropPart_abort_cases ha
  have hstep : IntakeStep r faults permit id w₁ w₂ := by
    rcases hw₂ with rfl | rfl
    · exact .idle
    · exact .drop (hid ▸ h₁.lookup) hid h₁.life h₁.hasAbort hname
  have h₂ : InAbort w₂ rec abort := by
    rcases hw₂ with rfl | rfl <;> exact ⟨h₁.lookup, h₁.life, h₁.hasAbort⟩
  have hsub : ∀ p ∈ w₂.parts .hgUnsafe rec.table, p ∈ w.parts .hgUnsafe rec.table := by
    intro p hp
    refine hr.mem_parts ?_
    rcases hw₂ with rfl | rfl
    · exact hp
    · exact List.mem_of_mem_filter (World.partDropped_parts rec.table name rec.table ▸ hp)
  refine ⟨hstep, ?_⟩
  cases res with
  | ok u => exact wpI_pure ⟨h₂, fun p hp => ⟨hsub p hp, hgone (.inl rfl) p hp⟩⟩
  | error e =>
    dsimp only
    split
    · next hkind =>
      have hg : e.kind.gone = true := by rw [hkind]; rfl
      exact wpI_pure ⟨h₂, fun p hp => ⟨hsub p hp, hgone (.inr ⟨e, rfl, hg⟩) p hp⟩⟩
    · exact wpI_throw

theorem excludeAbortedPart_safe (h : InAbort w rec abort) (name : String) :
    intakeSafe r faults permit id J (excludeAbortedPart rec name)
      (fun _ w' => InAbort w' rec abort ∧ ∀ p ∈ w'.parts .hgUnsafe rec.table,
        p ∈ w.parts .hgUnsafe rec.table) w := by
  unfold excludeAbortedPart
  cases hres : rec.result with
  | none => exact wpI_pure ⟨h, fun _ hp => hp⟩
  | some result =>
    dsimp only
    split
    · exact wpI_pure ⟨h, fun _ hp => hp⟩
    next part hfind =>
    refine write_safe K (fun w₁ fault e hr _ hf => ?_) fun w₁ fault store hr => ?_
    · have h₁ := h.rely hr
      exact .remove (hid ▸ h₁.lookup) hid h₁.life hres (List.mem_of_find?_eq_some hfind) hf
    · have h₁ := h.rely hr
      exact ⟨⟨h₁.lookup, h₁.life, h₁.hasAbort⟩, fun p hp => hr.mem_parts hp⟩

theorem dropAbortParts_safe {names : List String}
    (hnames : ∀ n ∈ names, n ∈ abort.partNames) (h : InAbort w rec abort) :
    intakeSafe r faults permit id J (dropAbortParts rec (r.schemas rec.table) names)
      (fun _ w' => InAbort w' rec abort ∧ ∀ p ∈ w'.parts .hgUnsafe rec.table,
        p ∈ w.parts .hgUnsafe rec.table ∧ p.name ∉ names) w := by
  induction names generalizing w with
  | nil => exact wpI_pure ⟨h, fun p hp => ⟨hp, List.not_mem_nil⟩⟩
  | cons name names ih =>
    refine wpI_bind (wpI_bind (wpI_fromExcept fun _ _ => ?_))
    refine (dropAbortPart_safe K hid h (hnames name List.mem_cons_self)).bind ?_
    rintro _ w₁ _ ⟨h₁, hgone₁⟩
    refine wpI.mono (wpI_mapError (excludeAbortedPart_safe K hid h₁ name)) ?_
    rintro _ w₂ _ ⟨h₂, hsub₂⟩
    refine wpI.mono (ih (fun n hn => hnames n (List.mem_cons_of_mem _ hn)) h₂) ?_
    rintro _ w₃ _ ⟨h₃, hgone₃⟩
    refine ⟨h₃, fun p hp => ?_⟩
    obtain ⟨hp₂, hnot⟩ := hgone₃ p hp
    obtain ⟨hp₀, hne⟩ := hgone₁ p (hsub₂ p hp₂)
    exact ⟨hp₀, by simp [hne, hnot]⟩

/-- A finished abort leaves a cleaned record. -/
theorem runAbort_safe (hlook : w.HasRecord rec) (hlife : rec.lifecycle = .abortPending) :
    intakeSafe r faults permit id J (runAbort rec (r.schemas rec.table))
      (fun now w' => now = { rec with lifecycle := .cleaned } ∧
        w'.journal.lookup id = some now) w := by
  unfold runAbort
  split
  · exact wpI_throw
  next abort habort =>
  refine (dropAbortParts_safe K hid (fun n hn => hn) ⟨hlook, hlife, habort⟩).bind ?_
  rintro _ w₁ _ ⟨h₁, hgone⟩
  refine wpI_bind (wpI_mapError (saveRecord_safe K hid fun w₂ hr _ _ => ⟨?_, ?_⟩))
  · have h₂ := h₁.rely hr
    exact .cleaned h₂.lookup h₂.life h₂.hasAbort fun p hp => (hgone p (hr.mem_parts hp)).2
  · refine wpI_pure ⟨rfl, ?_⟩
    rw [← hid]
    exact GoMap.lookup_insert_self ..

/-! ## Attribution by row ids -/

variable (hlook : w.HasRecord rec) (hlife : rec.lifecycle = .preparing)
omit K hid
include hlook hlife

theorem Confused.rely (h : Confused r w rec) (hr : IntakeRely r w w') : Confused r w' rec := by
  cases h with
  | foreign p hp hs hrow => exact .foreign p (hr.born ▸ hp) hs hrow
  | overfull ps hps hnodup hpart hids =>
    refine .overfull ps (fun p hp => ?_) hnodup hpart hids
    exact hr.mem_parts_of_preparing hlook hlife (hps p hp) (hpart p hp)

include K hid

/-- A confused convergence is recorded, and ends. -/
theorem persistConvergenceFailure_safe {α : Type} {Q : α → World → Prop} (hwhy : Confused r w rec)
    (detail partName : String) :
    intakeSafe r faults permit id J (persistConvergenceFailure rec detail partName) Q w := by
  unfold persistConvergenceFailure
  refine wpI_bind (wpI_mapError (saveRecord_safe K hid fun w₁ hr _ _ => ⟨?_, ?_⟩))
  · exact .failed detail (hlook.of_journal hr.journal) hlife (hwhy.rely hlook hlife hr)
  · split <;> exact wpI_throw

variable {p : StoredPart}
omit K hid hlook hlife

omit [HouseGate] in
/-- The scan of an active part gives its row ids. -/
theorem rowIDs_of_name {t : Table} (hp : p ∈ t.parts) :
    rowIDs (t.parts.filter (·.name = p.name)) = p.content.map (·.rowID) := by
  have hone : t.parts.filter (·.name = p.name) = [p] := by
    refine List.perm_singleton.mp ?_
    refine (List.perm_ext_iff_of_nodup (t.nodup.of_map.filter _) (List.nodup_singleton p)).mpr ?_
    intro q
    simp only [List.mem_filter, decide_eq_true_eq, List.mem_singleton]
    constructor
    · exact fun h => Table.eq_of_name h.1 hp h.2
    · rintro rfl
      exact ⟨hp, rfl⟩
  rw [hone]
  simp [rowIDs]

/-- The suspected parts among `qs`. -/
def suspects (r : Role) (rec : IntakeRecord) (qs : List StoredPart) : List StoredPart :=
  qs.filter fun p => suspect rec (r.schemas rec.table) p.info

variable {qs : List StoredPart}

omit [HouseGate] in
theorem suspects_cons_of_pos (h : Suspect r rec p) :
    suspects r rec (p :: qs) = p :: suspects r rec qs :=
  List.filter_cons_of_pos h

omit [HouseGate] in
theorem mem_suspects : p ∈ suspects r rec qs ↔ p ∈ qs ∧ Suspect r rec p :=
  List.mem_filter

/-- The suspects among `qs` are scanned: `ps` are those that were still there, and
    hold rows of the statement only. -/
structure Scanned (r : Role) (w : World) (rec : IntakeRecord) (qs ps : List StoredPart) :
    Prop where
  sub : ps.Sublist (suspects r rec qs)
  active : ∀ p ∈ ps, p ∈ w.parts .hgUnsafe rec.table
  ids : ∀ x ∈ rowIDs ps, x ∈ rec.derived r
  gone : ∀ p ∈ qs, Suspect r rec p → p ∉ ps → p ∉ w.parts .hgUnsafe rec.table

/-- The table has lost parts, and none of the statement. -/
structure Thinned (r : Role) (rec : IntakeRecord) (w w' : World) : Prop where
  lookup : w'.HasRecord rec
  born : w.born ⊆ w'.born
  sub : ∀ p ∈ w'.parts .hgUnsafe rec.table, p ∈ w.parts .hgUnsafe rec.table
  own : ∀ p ∈ w.ownOf r rec, p ∈ w'.parts .hgUnsafe rec.table

include hlook hlife in
theorem thinned_of_rely (hr : IntakeRely r w w') : Thinned r rec w w' where
  lookup := hlook.of_journal hr.journal
  born := hr.born ▸ List.Subset.refl _
  sub _ hp := hr.mem_parts hp
  own _ hp := hr.mem_parts_of_preparing hlook hlife (World.mem_own.mp hp).1 (World.mem_own.mp hp).2

theorem Thinned.trans {w'' : World} (h : Thinned r rec w w') (h' : Thinned r rec w' w'') :
    Thinned r rec w w'' where
  lookup := h'.lookup
  born := List.Subset.trans h.born h'.born
  sub p hp := h.sub p (h'.sub p hp)
  own p hp := h'.own p (World.mem_own.mpr ⟨h.own p hp, (World.mem_own.mp hp).2⟩)

/-- One more scanned suspect. -/
theorem Scanned.cons {w₁ : World} {ps : List StoredPart} (h : Scanned r w' rec qs ps)
    (ht : Thinned r rec w₁ w') (hs : Suspect r rec p)
    (hids : p ∈ w₁.parts .hgUnsafe rec.table → ∀ row ∈ p.content, row.rowID ∈ rec.derived r) :
    ∃ ps', Scanned r w' rec (p :: qs) ps' ∧
      rowIDs ps' = (if p ∈ w₁.parts .hgUnsafe rec.table then p.content.map (·.rowID) else []) ++
        rowIDs ps := by
  by_cases hact : p ∈ w₁.parts .hgUnsafe rec.table
  · refine ⟨p :: ps, ⟨?_, ?_, ?_, ?_⟩, by rw [if_pos hact]; rfl⟩
    · rw [suspects_cons_of_pos hs]
      exact h.sub.cons_cons p
    · intro q hq
      rcases List.mem_cons.mp hq with rfl | hq
      · refine ht.own q (World.mem_own.mpr ⟨hact, fun row hrow => ?_⟩)
        obtain ⟨i, -, hi⟩ := List.mem_map.mp (hids hact row hrow)
        exact ⟨i, hi.symm⟩
      · exact h.active q hq
    · intro x hx
      rcases List.mem_append.mp hx with hx | hx
      · obtain ⟨row, hrow, rfl⟩ := List.mem_map.mp hx
        exact hids hact row hrow
      · exact h.ids x hx
    · intro q hq hqs hnot
      rw [List.mem_cons, not_or] at hnot
      rcases List.mem_cons.mp hq with rfl | hq
      · exact absurd rfl hnot.1
      · exact h.gone q hq hqs hnot.2
  · refine ⟨ps, ⟨?_, h.active, h.ids, ?_⟩, by rw [if_neg hact]; rfl⟩
    · rw [suspects_cons_of_pos hs]
      exact h.sub.cons p
    · intro q hq hqs hnot
      rcases List.mem_cons.mp hq with rfl | hq
      · exact fun hq' => hact (ht.sub q hq')
      · exact h.gone q hq hqs hnot

include K hJ hid hlook hlife

theorem attributeParts_safe (hqs : ∀ p ∈ qs, (rec.table, p) ∈ w.born) :
    intakeSafe r faults permit id J
      (attributeParts rec (r.schemas rec.table) (rec.derived r) (qs.map (·.info)))
      (fun res w' => Thinned r rec w w' ∧
        res.1 = (suspects r rec qs).map (·.info) ∧
        ∃ ps, res.2 = rowIDs ps ∧ Scanned r w' rec qs ps) w := by
  have htable := r.schemas_tableID rec.table
  induction qs generalizing w with
  | nil =>
    refine wpI_pure ⟨thinned_of_rely hlook hlife (.refl w), rfl, [], rfl, ?_⟩
    exact ⟨List.Sublist.refl _, nofun, nofun, nofun⟩
  | cons p qs ih =>
    have hqs' : ∀ q ∈ qs, (rec.table, q) ∈ w.born := fun q hq => hqs q (List.mem_cons_of_mem _ hq)
    simp only [List.map_cons, attributeParts]
    split
    · next hs =>
      refine wpI_bind (wpI_mapError (query_safe K (fun w b => b =
        rowIDs ((w.parts .hgUnsafe rec.table).filter (·.name = p.name)))
        (fun a w => ⟨_, rfl, by rw [htable]; rfl⟩) ?_))
      intro w₁ ids hr hJ₁ hids₁
      have ht := thinned_of_rely hlook hlife hr
      have hb := hJ w₁ hJ₁
      have hpborn : (rec.table, p) ∈ w₁.born := hr.born ▸ hqs p List.mem_cons_self
      -- the part under this name is `p`, if there is one
      have hscan : ids =
          if p ∈ w₁.parts .hgUnsafe rec.table then p.content.map (·.rowID) else [] := by
        rw [hids₁]
        split
        · next hact => exact rowIDs_of_name (t := w₁.tables .hgUnsafe rec.table) hact
        · next hact =>
          rw [List.filter_eq_nil_iff.mpr]
          · rfl
          · intro q hq hn
            rw [decide_eq_true_eq] at hn
            exact hact (hb.names _ q p (hb.active _ q hq) hpborn hn ▸ hq)
      split
      · next hall =>
        refine (ih ht.lookup (hr.born ▸ hqs')).bind ?_
        rintro ⟨attributed, seen⟩ w₂ _ ⟨ht₂, hatt, ps, hseen, hscanned⟩
        obtain ⟨ps', hscanned', hids⟩ := hscanned.cons ht₂ hs fun hact row hrow => by
          rw [hscan, if_pos hact, List.all_eq_true] at hall
          simpa using hall _ (List.mem_map_of_mem hrow)
        refine wpI_pure ⟨ht.trans ht₂, ?_, ps', ?_, hscanned'⟩
        · rw [suspects_cons_of_pos hs, List.map_cons]
          exact congrArg _ hatt
        · rw [hids, ← hscan]
          exact congrArg _ hseen
      · next hall =>
        refine persistConvergenceFailure_safe K hid ht.lookup hlife ?_ _ _
        refine .foreign p hpborn hs ?_
        by_contra hrow
        refine hall (List.all_eq_true.mpr fun x hx => ?_)
        rw [hscan] at hx
        split at hx
        · obtain ⟨row, hmem, rfl⟩ := List.mem_map.mp hx
          by_contra hnot
          exact hrow ⟨row, hmem, by simpa using hnot⟩
        · cases hx
    · next hs =>
      refine wpI.mono (ih hlook hqs') ?_
      rintro ⟨attributed, seen⟩ w₁ _ ⟨ht, hatt, ps, hseen, hscanned⟩
      have hsame : suspects r rec (_ :: qs) = suspects r rec qs := List.filter_cons_of_neg hs
      refine ⟨ht, hsame ▸ hatt, ps, hseen, hsame ▸ hscanned.sub, hscanned.active, hscanned.ids, ?_⟩
      intro q hq hqsus hnot
      rcases List.mem_cons.mp hq with rfl | hq
      · exact absurd hqsus hs
      · exact hscanned.gone q hq hqsus hnot

/-! ## Convergence -/

omit K hJ hid hlook hlife

theorem derivedRowIDs_nodup (table flat : String) (n : Nat) :
    (derivedRowIDs r table flat n).Nodup := by
  refine List.nodup_range.map fun i j h => ?_
  exact (HouseGate.rowID_injective _ _ _ _ _ _ _ _ h).2.2.2

omit [HouseGate] in
/-- Row ids that hold every expected id once, in the expected number. -/
theorem perm_of_count {expected seen : List String} (hnodup : expected.Nodup)
    (hlen : seen.length = expected.length) (h : ∀ x ∈ expected, seen.count x = 1) :
    seen.Perm expected := by
  have hsub : expected ⊆ seen := fun x hx => List.count_pos_iff.mp (by rw [h x hx]; exact one_pos)
  exact ((hnodup.subperm hsub).perm_of_length_le hlen.le).symm

include hlook hlife in
/-- What the scan of a whole listing attributes. -/
theorem Scanned.attributed {ps : List StoredPart} (h : Scanned r w rec qs ps)
    (hnames : (qs.map (·.name)).Nodup) (hall : ∀ p ∈ w.parts .hgUnsafe rec.table, p ∈ qs)
    (hids : (rowIDs ps).Perm (rec.derived r)) :
    Attributed r w rec (subtractParts (qs.map (·.info)) ((suspects r rec qs).map (·.info))) ps := by
  have hactive : ∀ p ∈ w.parts .hgUnsafe rec.table, Suspect r rec p → p ∈ ps := by
    intro p hp hs
    by_contra hnot
    exact h.gone p (hall p hp) hs hnot hp
  have hsus : ∀ p ∈ ps, p.name ∈ ((suspects r rec qs).map (·.info)).map (·.name) := by
    intro p hp
    exact List.mem_map_of_mem (List.mem_map_of_mem (h.sub.subset hp))
  constructor
  case lookup => exact hlook
  case life => exact hlife
  case nodup => exact (hnames.of_map.filter _).sublist h.sub
  case active => exact h.active
  case suspects => exact hactive
  case others =>
    intro p hp hnot
    refine List.mem_map.mpr ⟨p.info, List.mem_filter.mpr ⟨List.mem_map_of_mem (hall p hp), ?_⟩, rfl⟩
    rw [decide_eq_true_eq]
    intro hn
    obtain ⟨_, hb, hbn⟩ := List.mem_map.mp hn
    obtain ⟨q, hq, rfl⟩ := List.mem_map.mp hb
    obtain ⟨hqs, hsusq⟩ := mem_suspects.mp hq
    cases List.inj_on_of_nodup_map hnames hqs (hall p hp) hbn
    exact hnot (hactive p hp hsusq)
  case fresh =>
    intro p hp hn
    obtain ⟨b, hb, hbn⟩ := List.mem_map.mp hn
    have hnot := of_decide_eq_true (List.mem_filter.mp hb).2
    exact hnot (hbn ▸ hsus p hp)
  case ids => exact hids

/-- A record whose call or convergence is done. -/
structure Settled (w : World) (rec now : IntakeRecord) : Prop where
  lookup : w.journal.lookup rec.statementID = some now
  same : now.statementID = rec.statementID
  envelope : now.envelope = rec.envelope
  life : now.lifecycle = .cleaned ∨
    (now.lifecycle = .unsafeWritten ∨ now.lifecycle = .rcBound) ∧
      (∃ result, now.result = some result) ∧ ∃ rc, now.rc = some rc

include K hid

include hJ in
/-- The repair of a record whose rows are all there. -/
theorem repair_safe {before : List Part} {ps : List StoredPart}
    (h : Attributed r w rec before ps) :
    intakeSafe r faults permit id J
      (do
        let (result, rc) ← within "converge repair"
          (assembleAfterWrite r rec.envelope (r.schemas rec.table) before rec)
        let repaired := { rec with lifecycle := .unsafeWritten, result := some result, rc := some rc }
        within "persist repaired record" (saveRecord repaired)
        return repaired)
      (fun now w' => Settled w' rec now) w := by
  refine (wpI_mapError (assembleAfterWrite_safe K hJ hid h)).bind ?_
  rintro ⟨result, rc⟩ w₁ _ ⟨ps', h₁, hcand, hrc, hname, hstmt⟩
  refine wpI_bind (wpI_mapError (saveRecord_safe K hid fun w₂ hr _ _ => ⟨?_, ?_⟩))
  · exact (h₁.rely hr).recordStep hcand hrc hname hstmt
  · exact wpI_pure ⟨GoMap.lookup_insert_self .., rfl, rfl, .inr ⟨.inl rfl, ⟨_, rfl⟩, _, rfl⟩⟩

include hlook

include hlife in
/-- The abort of a record whose rows are not all there. -/
theorem abandon_safe
    (hall : ∀ p ∈ w.parts .hgUnsafe rec.table, Suspect r rec p → p.name ∈ abort.partNames)
    (hnames : ∀ n ∈ abort.partNames, ∃ p, (rec.table, p) ∈ w.born ∧ p.name = n ∧
      (p ∈ w.parts .hgUnsafe rec.table → PartOf r rec.table rec.statementID p)) :
    intakeSafe r faults permit id J
      (do
        let aborting := { rec with lifecycle := .abortPending, abort := some abort }
        within "persist abort intent" (saveRecord aborting)
        runAbort aborting (r.schemas rec.table))
      (fun now w' => Settled w' rec now) w := by
  refine wpI_bind (wpI_mapError (saveRecord_safe K hid fun w₁ hr _ _ => ⟨?_, ?_⟩))
  · refine .incomplete (hlook.of_journal hr.journal) hlife (fun p hp => hall p (hr.mem_parts hp)) ?_
    intro n hn
    obtain ⟨p, hp, hname, hpart⟩ := hnames n hn
    exact ⟨p, hr.born ▸ hp, hname, fun hact => hpart (hr.mem_parts hact)⟩
  · refine wpI.mono (runAbort_safe K hid (GoMap.lookup_insert_self ..) rfl) ?_
    rintro _ w₂ _ ⟨rfl, hlook₂⟩
    exact ⟨hid ▸ hlook₂, rfl, rfl, .inl rfl⟩

include hJ

theorem convergeIntake_safe (hlife : rec.lifecycle = .preparing ∨ rec.lifecycle = .abortPending) :
    intakeSafe r faults permit id J (convergeIntake r rec (r.schemas rec.table))
      (fun now w' => Settled w' rec now) w := by
  have htable := r.schemas_tableID rec.table
  unfold convergeIntake
  split
  · exact wpI_throw
  rcases hlife with hlife | hlife
  · rw [hlife]
    dsimp only
    rw [htable]
    refine wpI_bind (wpI_mapError (query_safe K
      (fun w b => b = listing (w.parts .hgUnsafe rec.table)) (fun a w => ⟨_, rfl, rfl⟩) ?_))
    rintro w₁ _ hr₁ hJ₁ rfl
    have hlook₁ := hlook.of_journal hr₁.journal
    obtain ⟨qs, hperm, heq⟩ := listing_eq (w₁.parts .hgUnsafe rec.table)
    rw [heq]
    have hborn : ∀ p ∈ qs, (rec.table, p) ∈ w₁.born := fun p hp =>
      (hJ w₁ hJ₁).active _ p (hperm.mem_iff.mp hp)
    have hqnames : (qs.map (·.name)).Nodup :=
      (hperm.map _).nodup_iff.mpr (w₁.tables .hgUnsafe rec.table).nodup
    refine (attributeParts_safe K hJ hid hlook₁ hlife hborn).bind ?_
    rintro ⟨_, _⟩ w₂ hJ₂ ⟨ht, rfl, ps, rfl, hs⟩
    have hall : ∀ p ∈ w₂.parts .hgUnsafe rec.table, p ∈ qs := fun p hp =>
      hperm.mem_iff.mpr (ht.sub p hp)
    have hpart : ∀ p ∈ ps, PartOf r rec.table rec.statementID p := partOf_of_rowIDs hs.ids
    have hnodup : ps.Nodup := (hqnames.of_map.filter _).sublist hs.sub
    have hdlen : (rec.derived r).length = rec.expectedRowCount := by
      simp [IntakeRecord.derived, derivedRowIDs]
    have hdnodup : (rec.derived r).Nodup := derivedRowIDs_nodup ..
    dsimp only
    split
    · next hfull =>
      have hlen : (rowIDs ps).length = (rec.derived r).length := hfull.1.trans hdlen.symm
      split
      · next hcount =>
        have hids : (rowIDs ps).Perm (rec.derived r) :=
          perm_of_count hdnodup hlen fun x hx => by simpa using List.all_eq_true.mp hcount x hx
        exact repair_safe K hJ hid (hs.attributed ht.lookup hlife hqnames hall hids)
      · next hcount =>
        refine persistConvergenceFailure_safe K hid ht.lookup hlife ?_ _ _
        refine .overfull ps hs.active hnodup hpart fun hsub => hcount ?_
        have hids := hsub.perm_of_length_le hlen.ge
        refine List.all_eq_true.mpr fun x hx => decide_eq_true ?_
        rw [hids.count_eq]
        exact List.count_eq_one_of_mem hdnodup hx
    · split
      · next hmore =>
        refine persistConvergenceFailure_safe K hid ht.lookup hlife ?_ _ _
        refine .overfull ps hs.active hnodup hpart fun hsub => ?_
        exact absurd (hsub.length_le.trans_eq hdlen) (Nat.not_le.mpr hmore)
      · refine abandon_safe K hid ht.lookup hlife ?_ ?_
        · intro p hp hsus
          exact List.mem_map_of_mem (List.mem_map_of_mem (mem_suspects.mpr ⟨hall p hp, hsus⟩))
        · intro n hn
          obtain ⟨_, hb, rfl⟩ := List.mem_map.mp hn
          obtain ⟨p, hp, rfl⟩ := List.mem_map.mp hb
          obtain ⟨hpq, hsus⟩ := mem_suspects.mp hp
          refine ⟨p, ht.born (hborn p hpq), rfl, fun hact => hpart p ?_⟩
          by_contra hnot
          exact hs.gone p hpq hsus hnot hact
  · rw [hlife]
    refine wpI.mono (runAbort_safe K hid hlook hlife) ?_
    rintro _ w₁ _ ⟨rfl, hlook₁⟩
    exact ⟨hid ▸ hlook₁, rfl, rfl, .inl rfl⟩

end Handlers

end ArbiterCore
