-- SUMMARY: The intake handlers take steps only, and a prepared result is that of the record.
import ArbiterCore.SNode.IntakeSteps
import ArbiterCore.SNode.Scan

/-!
# The intake handlers

One lemma per handler says that its operations are steps of the statement it is
called for, and what holds when it returns. The lemmas are about any invariant
`J` that the contract keeps and that contains `IntakeBase`.
-/

namespace ArbiterCore

open Conc

variable [HouseGate]

/-- The contract of a call on the statement `id`. -/
def intakeContract (r : Role) (faults : Faults) (permit : Permit) (id : String) :
    Contract World :=
  ⟨IntakeRely r, IntakeStep r faults permit id⟩

/-- A program of a call on the statement `id` meets its contract. -/
def intakeSafe (r : Role) (faults : Faults) (permit : Permit) (id : String)
    (J : World → Prop) {α : Type} (p : Handler α) (Q : α → World → Prop) (w : World) : Prop :=
  wpI (machine r faults) (intakeContract r faults permit id) J p Q w

section Handlers

variable {r : Role} {faults : Faults} {permit : Permit} {id : String}
  {J : World → Prop} (K : (intakeContract r faults permit id).Keeps J)
  (hJ : ∀ w, J w → IntakeBase r w) {α β : Type} {w w' : World} {rec : IntakeRecord}

/-! ## Operations -/

include K

/-- A query answers about the state it finds and changes nothing. -/
theorem query_safe {op : Op (Except GoError α)} (answer : World → α → Prop)
    {Q : α → World → Prop}
    (hrun : ∀ a w, ∃ b, Op.run r faults op a w = a.query w b ∧ answer w b)
    (h : ∀ w₁ b, IntakeRely r w w₁ → J w₁ → answer w₁ b → Q b w₁) :
    intakeSafe r faults permit id J (call op) Q w := by
  refine wpI_call K fun w₁ hr hJ₁ res w₂ ⟨a, ha⟩ => ?_
  obtain ⟨b, hb, hans⟩ := hrun a w₁
  obtain ⟨rfl, hres⟩ := Answer.query_cases (hb.symm.trans ha)
  refine ⟨.idle, fun b' hok => ?_⟩
  rcases hres with rfl | ⟨e, rfl⟩
  · cases hok
    exact h _ b hr hJ₁ hans
  · cases hok

omit K in
theorem validateDecoded_safe {C : Contract World} {Q : IntakeRecord → World → Prop}
    (h : validateIntakeRecord rec = .ok () → Q rec w) :
    wpI (machine r faults) C J (validateDecoded rec) Q w := by
  unfold validateDecoded
  refine wpI_bind (wpI_mapError (wpI_fromExcept fun u hok => ?_))
  exact wpI_pure (h hok)

theorem loadRecord_safe {flat : String} {Q : Option IntakeRecord → World → Prop}
    (h : ∀ w₁, IntakeRely r w w₁ → J w₁ →
      (∀ rec, w₁.journal.lookup flat = some rec → validateIntakeRecord rec = .ok ()) →
        Q (w₁.journal.lookup flat) w₁) :
    intakeSafe r faults permit id J (loadRecord flat) Q w := by
  unfold loadRecord
  refine wpI_bind (query_safe K (fun w b => b = w.journal.lookup flat)
    (fun a w => ⟨_, rfl, rfl⟩) fun w₁ b hr hJ₁ hb => ?_)
  cases hl : b with
  | none => exact wpI_pure (hb.symm.trans hl ▸ h w₁ hr hJ₁ fun rec hrec => by simp_all)
  | some rec =>
    refine wpI_bind (validateDecoded_safe fun hvalid => wpI_pure ?_)
    have hlook := hb.symm.trans hl
    refine hlook ▸ h w₁ hr hJ₁ fun rec' hrec' => ?_
    cases Option.some.inj (hlook.symm.trans hrec')
    exact hvalid

/-- Saving a record is a record step, if it is one whenever the journal accepts
    the transition. -/
theorem saveRecord_safe {Q : Unit → World → Prop} (hid : rec.statementID = id)
    (h : ∀ w₁, IntakeRely r w w₁ → J w₁ →
      (∀ old, w₁.journal.lookup rec.statementID = some old →
        validIntakeTransition old.lifecycle rec.lifecycle = true) →
      RecordStep r permit w₁ rec ∧
        Q () { w₁ with journal := w₁.journal.insert rec.statementID rec }) :
    intakeSafe r faults permit id J (saveRecord rec) Q w := by
  have hwrite : ∀ w₀, IntakeRely r w w₀ →
      (∀ old, w₀.journal.lookup rec.statementID = some old →
        validIntakeTransition old.lifecycle rec.lifecycle = true) →
      intakeSafe r faults permit id J (call (.journalWrite rec)) Q w₀ := by
    intro w₀ hr₀ hvalid
    refine wpI_call K fun w₁ hr hJ₁ res w₂ ⟨a, ha⟩ => ?_
    obtain ⟨hstep, hQ⟩ := h w₁ (hr₀.trans hr) hJ₁ (hr.journal ▸ hvalid)
    rcases Answer.statement_cases ha with ⟨rfl, rfl⟩ | ⟨⟨e, rfl⟩, rfl | rfl⟩
    · exact ⟨.record rec hid hstep, fun _ _ => hQ⟩
    · exact ⟨.idle, nofun⟩
    · exact ⟨.record rec hid hstep, nofun⟩
  unfold saveRecord
  refine wpI_bind (wpI_fromExcept fun _ _ => ?_)
  refine wpI_bind (wpI_mapError (loadRecord_safe K fun w₀ hr₀ _ _ => ?_))
  cases hl : w₀.journal.lookup rec.statementID with
  | some previous =>
    dsimp only
    split
    · next hok =>
      refine hwrite w₀ hr₀ fun old hold => ?_
      cases Option.some.inj (hl.symm.trans hold)
      exact hok
    · exact wpI_throw
  | none =>
    dsimp only
    split
    · exact hwrite w₀ hr₀ fun old hold => nomatch hl.symm.trans hold
    · exact wpI_throw

/-- A state write is a step, wherever it fails. -/
theorem write_safe {sw : StateWrite} {Q : Unit → World → Prop}
    (hstep : ∀ w₁ fault e, IntakeRely r w w₁ → J w₁ → faults sw fault = true →
      IntakeStep r faults permit id w₁ (w₁.written sw fault (w₁.store.write sw fault e).2))
    (h : ∀ w₁ fault store, IntakeRely r w w₁ → Q () (w₁.written sw fault store)) :
    intakeSafe r faults permit id J (call (.write sw)) Q w := by
  refine wpI_call K fun w₁ hr hJ₁ res w₂ ⟨a, ha⟩ => ?_
  obtain ⟨hf, heq⟩ := Option.ite_none_right_eq_some.mp ha
  cases heq
  exact ⟨hstep w₁ _ _ hr hJ₁ hf, fun _ _ => h w₁ _ _ hr⟩

/-! ## Attribution -/

omit K

/-- The call knows the parts `ps` of the statement that it is preparing: they hold
    every row once, and all other parts are in the listing `before`. -/
structure Attributed (r : Role) (w : World) (rec : IntakeRecord) (before : List Part)
    (ps : List StoredPart) : Prop where
  lookup : w.HasRecord rec
  life : rec.lifecycle = .preparing
  nodup : ps.Nodup
  active : ∀ p ∈ ps, p ∈ w.parts .hgUnsafe rec.table
  suspects : ∀ p ∈ w.parts .hgUnsafe rec.table, Suspect r rec p → p ∈ ps
  others : ∀ p ∈ w.parts .hgUnsafe rec.table, p ∉ ps → p.name ∈ before.map (·.name)
  fresh : ∀ p ∈ ps, p.name ∉ before.map (·.name)
  ids : (rowIDs ps).Perm (rec.derived r)

variable {before : List Part} {ps : List StoredPart}

theorem Attributed.partOf (h : Attributed r w rec before ps) :
    ∀ p ∈ ps, PartOf r rec.table rec.statementID p :=
  partOf_of_rowIDs fun _ hx => h.ids.mem_iff.mp hx

theorem Attributed.own (h : Attributed r w rec before ps) : ∀ p ∈ ps, p ∈ w.ownOf r rec :=
  fun p hp => World.mem_own.mpr ⟨h.active p hp, h.partOf p hp⟩

theorem Attributed.rely (h : Attributed r w rec before ps) (hr : IntakeRely r w w') :
    Attributed r w' rec before ps where
  lookup := h.lookup.of_journal hr.journal
  life := h.life
  nodup := h.nodup
  active p hp := hr.mem_parts_of_preparing h.lookup h.life (h.active p hp) (h.partOf p hp)
  suspects p hp hs := h.suspects p (hr.mem_parts hp) hs
  others p hp hps := h.others p (hr.mem_parts hp) hps
  fresh := h.fresh
  ids := h.ids

theorem Attributed.written (h : Attributed r w rec before ps) {sw : StateWrite}
    {fault : WriteFault} {store : Store} :
    Attributed r (w.written sw fault store) rec before ps :=
  { h with }

theorem Attributed.perm (h : Attributed r w rec before ps) {ps' : List StoredPart}
    (hp : ps'.Perm ps) : Attributed r w rec before ps' where
  lookup := h.lookup
  life := h.life
  nodup := hp.nodup_iff.mpr h.nodup
  active p hm := h.active p (hp.mem_iff.mp hm)
  suspects p hm hs := hp.mem_iff.mpr (h.suspects p hm hs)
  others p hm hps := h.others p hm fun h => hps (hp.mem_iff.mpr h)
  fresh p hm := h.fresh p (hp.mem_iff.mp hm)
  ids := (hp.flatMap_right _).trans h.ids

/-- The record with the result of known parts may be saved. -/
theorem Attributed.recordStep {result : PreparedLocalResult} {rc : RCRecord}
    (h : Attributed r w rec before ps)
    (hcand : result.candidateParts = ps.map (candidatePart r rec.table))
    (hrc : rc.candidateParts = result.candidateParts)
    (hname : result.statementID = rec.statementID)
    (hstmt : rc.statementID = rec.envelope.statementID) :
    RecordStep r permit w
      { rec with lifecycle := .unsafeWritten, result := some result, rc := some rc } :=
  .written h.lookup h.life h.active h.suspects h.ids hcand hrc hname hstmt

/-! ## Assembling a claim -/

omit [HouseGate] in
/-- The parts that a listing shows to be new are those that the listing `before`
    does not name. -/
theorem diffParts_listing {parts : List StoredPart} (hparts : parts.Nodup) (hps : ps.Nodup)
    (hnew : ∀ p ∈ ps, p ∈ parts ∧ p.content ≠ [] ∧ p.name ∉ before.map (·.name))
    (hothers : ∀ p ∈ parts, p ∉ ps → p.name ∈ before.map (·.name)) :
    ∃ ps' : List StoredPart, ps'.Perm ps ∧ diffParts before (listing parts) = ps'.map (·.info) := by
  obtain ⟨qs, hperm, heq⟩ := listing_eq parts
  let isNew : StoredPart → Bool := fun p => p.info.rows > 0 ∧ p.info.name ∉ before.map (·.name)
  refine ⟨qs.filter isNew, (hperm.filter isNew).trans ?_, ?_⟩
  · refine (List.perm_ext_iff_of_nodup (hparts.filter _) hps).mpr fun p => ?_
    constructor
    · intro hmem
      obtain ⟨hp, hisNew⟩ := List.mem_filter.mp hmem
      by_contra hnot
      simp only [isNew, decide_eq_true_eq] at hisNew
      exact hisNew.2 (hothers p hp hnot)
    · intro hp
      obtain ⟨hmem, hne, hfresh⟩ := hnew p hp
      exact List.mem_filter.mpr ⟨hmem, decide_eq_true ⟨List.length_pos_of_ne_nil hne, hfresh⟩⟩
  · simp only [heq, diffParts, List.filter_map]
    rfl

omit [HouseGate] in
/-- An active part is found by its name. -/
theorem find_info {t : Table} (hps : ∀ p ∈ ps, p ∈ t.parts) {p : StoredPart} (hp : p ∈ ps) :
    (ps.map (·.info)).find? (·.name = p.name) = some p.info := by
  rw [List.find?_map, Option.map_eq_some_iff]
  cases hf : ps.find? ((fun q : Part => decide (q.name = p.name)) ∘ (·.info)) with
  | none => exact absurd (List.find?_eq_none.mp hf p hp) (by simp [StoredPart.info])
  | some q =>
    have hname : q.name = p.name := by simpa [StoredPart.info] using List.find?_some hf
    have hq := hps q (List.mem_of_find?_eq_some hf)
    exact ⟨q, rfl, congrArg _ (Table.eq_of_name hq (hps p hp) hname)⟩

include K

theorem addCandidates_safe (hid : rec.statementID = id) {qs : List StoredPart}
    (hqs : ∀ p ∈ qs, p ∈ ps) (h : Attributed r w rec before ps) :
    intakeSafe r faults permit id J
      (addCandidates rec.envelope (r.schemas rec.table) (ps.map (·.info))
        (qs.map (partScan (r.schemas rec.table))))
      (fun cands w' => cands = qs.map (candidatePart r rec.table) ∧ Attributed r w' rec before ps)
      w := by
  induction qs generalizing w with
  | nil => exact wpI_pure ⟨rfl, h⟩
  | cons p qs ih =>
    have hp := hqs p List.mem_cons_self
    simp only [List.map_cons, addCandidates]
    rw [show (partScan (r.schemas rec.table) p).partName = p.name from rfl,
      find_info (t := w.tables .hgUnsafe rec.table) h.active hp]
    refine wpI_bind (wpI_fromExcept fun _ _ => ?_)
    refine wpI_bind (write_safe K ?_ fun w₁ fault store hr => ?_)
    · intro w₁ fault e hr _ hf
      have h₁ := h.rely hr
      exact .add (c := candidatePart r rec.table p) (hid ▸ h₁.lookup) hid h₁.life (h₁.own p hp) rfl hf
    · refine (ih (fun q hq => hqs q (List.mem_cons_of_mem _ hq))
        (h.rely hr).written).bind ?_
      rintro _ w₂ _ ⟨rfl, h₂⟩
      exact wpI_pure ⟨rfl, h₂⟩

include hJ

/-- Assembling a claim records the known parts and makes them the candidates. -/
theorem assembleAfterWrite_safe (hid : rec.statementID = id) (h : Attributed r w rec before ps) :
    intakeSafe r faults permit id J
      (assembleAfterWrite r rec.envelope (r.schemas rec.table) before rec)
      (fun res w' => ∃ ps', Attributed r w' rec before ps' ∧
        res.1.candidateParts = ps'.map (candidatePart r rec.table) ∧
        res.2.candidateParts = res.1.candidateParts ∧
        res.1.statementID = rec.statementID ∧ res.2.statementID = rec.envelope.statementID) w := by
  have htable := r.schemas_tableID rec.table
  unfold assembleAfterWrite
  refine wpI_bind (wpI_mapError (query_safe K
    (fun w b => b = listing (w.parts .hgUnsafe rec.table)) (fun a w => ⟨_, rfl, by rw [htable]⟩) ?_))
  rintro w₁ _ hr hJ₁ rfl
  have hat := h.rely hr
  have hb := hJ w₁ hJ₁
  obtain ⟨ps', hperm, hdiff⟩ := diffParts_listing (w₁.parts_nodup .hgUnsafe rec.table) hat.nodup
    (fun p hp => ⟨hat.active p hp, hb.nonempty _ p (hb.active _ p (hat.active p hp)), hat.fresh p hp⟩)
    hat.others
  have h₁ := hat.perm hperm
  rw [hdiff]
  dsimp only
  split
  · exact wpI_throw
  refine wpI_bind ?_
  have hscan : intakeSafe r faults permit id J
      (hashNewParts (r.schemas rec.table) (ps'.map (·.info)))
      (fun scans w' => scans = ps'.map (partScan (r.schemas rec.table)) ∧
        Attributed r w' rec before ps') w₁ := by
    unfold hashNewParts
    split
    · next hnil => exact wpI_pure ⟨by rw [List.map_eq_nil_iff.mp hnil]; rfl, h₁⟩
    refine wpI_mapError (query_safe K (fun w b => b = scanned (r.schemas rec.table)
      (w.parts .hgUnsafe rec.table) ((ps'.map (·.info)).map (·.name)))
      (fun a w => ⟨_, rfl, by rw [htable]⟩) ?_)
    rintro w₂ _ hr₂ hJ₂ rfl
    have h₂ := h₁.rely hr₂
    refine ⟨?_, h₂⟩
    rw [List.map_map]
    refine scanned_active (t := w₂.tables .hgUnsafe rec.table) fun p hp => ?_
    have hb := hJ w₂ hJ₂
    exact ⟨h₂.active p hp, hb.nonempty _ p (hb.active _ p (h₂.active p hp))⟩
  refine wpI.mono hscan ?_
  rintro _ w₂ _ ⟨rfl, h₂⟩
  refine wpI_bind ?_
  unfold assembleRC
  refine (addCandidates_safe K hid (fun p hp => hp) h₂).bind ?_
  rintro _ w₃ _ ⟨rfl, h₃⟩
  refine wpI_bind (query_safe K (fun _ _ => True) (fun a w => ⟨_, rfl, trivial⟩) ?_)
  intro w₄ root hr₄ _ _
  exact wpI_pure (wpI_pure ⟨ps', h₃.rely hr₄, rfl, rfl, rfl, rfl⟩)

/-! ## The fresh path -/

omit hJ K

/-- The listing `before` shows every active part of the table, and only parts that
    were written. -/
structure Listed (w : World) (table : String) (before : List Part) : Prop where
  active : ∀ p ∈ w.parts .hgUnsafe table, p.info ∈ before
  born : ∀ b ∈ before, ∃ p, (table, p) ∈ w.born ∧ p.info = b

theorem Listed.rely {table : String} (h : Listed w table before) (hr : IntakeRely r w w') :
    Listed w' table before :=
  ⟨fun p hp => h.active p (hr.mem_parts hp), hr.born ▸ h.born⟩

theorem listed_listing (hbase : IntakeBase r w) (table : String) :
    Listed w table (listing (w.parts .hgUnsafe table)) := by
  obtain ⟨qs, hperm, heq⟩ := listing_eq (w.parts .hgUnsafe table)
  rw [heq]
  constructor
  · exact fun p hp => List.mem_map_of_mem (hperm.mem_iff.mpr hp)
  · intro b hb
    obtain ⟨p, hp, rfl⟩ := List.mem_map.mp hb
    exact ⟨p, hbase.active _ p (hperm.mem_iff.mp hp), rfl⟩

omit [HouseGate] in
/-- No listed part is suspected. -/
theorem Listed.quiet {touched : List String} (h : Listed w rec.table before)
    (htouched : rec.touchedPartitions = touched)
    (hinv : rec.preWriteInventory = preWriteInventory (r.schemas rec.table) before touched) :
    ∀ p ∈ w.parts .hgUnsafe rec.table, ¬ Suspect r rec p := by
  intro p hp hs
  obtain ⟨-, hpid, hnot⟩ := suspect_iff.mp hs
  rw [hinv, preWriteInventory_getD, if_pos (htouched ▸ hpid)] at hnot
  refine hnot (List.mem_map.mpr ⟨p.info, ?_, rfl⟩)
  exact List.mem_filter.mpr ⟨h.active p hp, decide_eq_true rfl⟩

omit [HouseGate] in
/-- The inventory names parts that were written. -/
theorem Listed.inventory {table : String} {sch : TableSchema} {touched : List String}
    (h : Listed w table before) (pid : String) :
    ∀ n ∈ (preWriteInventory sch before touched).getD pid [],
      ∃ p, (table, p) ∈ w.born ∧ p.name = n := by
  intro n hn
  rw [preWriteInventory_getD] at hn
  split at hn
  · obtain ⟨b, hb, rfl⟩ := List.mem_map.mp hn
    obtain ⟨p, hp, rfl⟩ := h.born b (List.mem_of_mem_filter hb)
    exact ⟨p, hp, rfl⟩
  · cases hn

/-- An INSERT of all rows makes its parts the known ones. -/
theorem attributed_inserted {rows : List Row} {landed : List StoredPart}
    (hrec : w.HasRecord rec) (hlife : rec.lifecycle = .preparing)
    (hlist : Listed w rec.table before) (hquiet : ∀ p ∈ w.parts .hgUnsafe rec.table, ¬ Suspect r rec p)
    (hrows : rows.map (·.rowID) = rec.derived r)
    (hland : landable (r.schemas rec.table) rows w.born landed)
    (hins : w.inserted (r.schemas rec.table) landed = some w')
    (hall : (landed.flatMap (·.content)).Perm rows) : Attributed r w' rec before landed := by
  have htable := r.schemas_tableID rec.table
  have hparts : w'.parts .hgUnsafe rec.table = w.parts .hgUnsafe rec.table ++ landed := by
    rw [World.inserted_parts hins, if_pos htable.symm]
  obtain ⟨-, hjournal, -⟩ := World.inserted_frame hins
  constructor
  case lookup => exact hrec.of_journal hjournal
  case life => exact hlife
  case nodup =>
    have hnodup := w'.parts_nodup .hgUnsafe rec.table
    have hsub : landed.Sublist (w'.parts .hgUnsafe rec.table) := hparts ▸ List.sublist_append_right ..
    exact hnodup.sublist hsub
  case active => exact fun p hp => hparts ▸ List.mem_append_right _ hp
  case suspects =>
    intro p hp hs
    rcases List.mem_append.mp (hparts ▸ hp) with hp | hp
    · exact absurd hs (hquiet p hp)
    · exact hp
  case others =>
    intro p hp hnot
    rcases List.mem_append.mp (hparts ▸ hp) with hp | hp
    · exact List.mem_map.mpr ⟨p.info, hlist.active p hp, rfl⟩
    · exact absurd hp hnot
  case fresh =>
    intro p hp hn
    obtain ⟨b, hb, hbn⟩ := List.mem_map.mp hn
    obtain ⟨q, hq, rfl⟩ := hlist.born b hb
    exact (hland.1 p hp).2.2.1 _ hq htable.symm hbn
  case ids =>
    have := hall.map (·.rowID)
    rwa [List.map_flatMap, hrows] at this

include K

theorem insertRows_safe (rec : IntakeRecord) {rows : List Row} (hid : rec.statementID = id)
    (hlife : rec.lifecycle = .preparing) (hrows : rows.map (·.rowID) = rec.derived r)
    (htouched : ∀ row ∈ rows, ∃ pid ∈ rec.touchedPartitions,
      HouseGate.partitionIDForRow (r.schemas rec.table) row.values = .ok pid)
    (hrec : w.HasRecord rec) (hlist : Listed w rec.table before)
    (hquiet : ∀ p ∈ w.parts .hgUnsafe rec.table, ¬ Suspect r rec p) :
    intakeSafe r faults permit id J (insertRows (r.schemas rec.table) rows)
      (fun _ w' => ∃ ps, Attributed r w' rec before ps) w := by
  unfold insertRows
  split
  · next hnil =>
    subst hnil
    refine wpI_pure ⟨[], hrec, hlife, List.nodup_nil, nofun, fun p hp hs => absurd hs (hquiet p hp),
      fun p hp _ => List.mem_map.mpr ⟨p.info, hlist.active p hp, rfl⟩, nofun, ?_⟩
    rw [← hrows]
    exact List.Perm.refl _
  · refine wpI_call K fun w₁ hr _ res w₂ ⟨a, ha⟩ => ?_
    have hrec₁ := hrec.of_journal hr.journal
    have hquiet₁ : ∀ p ∈ w₁.parts .hgUnsafe rec.table, ¬ Suspect r rec p :=
      fun p hp => hquiet p (hr.mem_parts hp)
    obtain ⟨hland, w', hins, hcase⟩ := runInsert_cases ha
    have hstep : ∀ failed, IntakeStep r faults permit id w₁ { w' with failed := failed } :=
      fun failed => .insert failed (hid ▸ hrec₁) hid hlife hquiet₁ hrows htouched hland hins
    rcases hcase with ⟨-, hall, rfl⟩ | ⟨⟨e, rfl⟩, failed, rfl⟩
    · refine ⟨hstep w₂.failed, fun _ _ => ⟨a.landed, ?_⟩⟩
      exact attributed_inserted hrec₁ hlife (hlist.rely hr) hquiet₁ hrows hland hins hall
    · exact ⟨hstep failed, nofun⟩

include hJ

/-- What a prepare that returns `result` leaves: the record with the result, whose
    candidates are all suspected parts and hold every row once. -/
structure Prepared (r : Role) (w : World) (rec : IntakeRecord) (result : PreparedLocalResult)
    (ps : List StoredPart) : Prop where
  lookup : w.HasRecord rec
  life : rec.lifecycle = .unsafeWritten
  hasResult : rec.result = some result
  candidates : result.candidateParts = ps.map (candidatePart r rec.table)
  active : ∀ p ∈ ps, p ∈ w.parts .hgUnsafe rec.table
  suspects : ∀ p ∈ w.parts .hgUnsafe rec.table, Suspect r rec p → p ∈ ps
  ids : (rowIDs ps).Perm (rec.derived r)

/-- A fresh prepare of a statement without parts. -/
theorem prepareFresh_safe {req : PrepareRequest} {encoding : String} {revision : Int}
    {payload : List UInt8} (hid : req.envelope.statementID.flat = id)
    (hold : ∀ old, w.journal.lookup id = some old →
      old.lifecycle = .cleaned ∧ old.envelope = req.envelope) :
    intakeSafe r faults permit id J
      (prepareFresh r req encoding revision (r.schemas req.envelope.targetTableID) payload)
      (fun result w' => ∃ rec ps, rec.statementID = id ∧ Prepared r w' rec result ps) w := by
  set table := req.envelope.targetTableID with htab
  have htable := r.schemas_tableID table
  unfold prepareFresh
  refine wpI_bind (wpI_mapError (wpI_fromExcept fun _ hbound => ?_))
  split
  · exact wpI_throw
  refine wpI_bind (wpI_mapError (wpI_fromExcept fun values hvalues => ?_))
  refine wpI_bind (wpI_mapError (wpI_fromExcept fun touched htouched => ?_))
  refine wpI_bind (wpI_mapError (query_safe K (fun w b => b = listing (w.parts .hgUnsafe table))
    (fun a w => ⟨_, rfl, by rw [htable]⟩) ?_))
  rintro w₁ before hr₁ hJ₁ hbefore
  have hlist₁ : Listed w₁ table before := hbefore ▸ listed_listing (hJ w₁ hJ₁) table
  dsimp only
  split
  · exact wpI_throw
  rw [htable] at htouched ⊢
  set flat := req.envelope.statementID.flat with hflat
  set rows := statementRows r table flat values with hrowsdef
  set rec : IntakeRecord := ⟨flat, .preparing, req.envelope, encoding, revision, touched,
    preWriteInventory (r.schemas table) before touched, rows.length, none, none, none, ""⟩ with hrecdef
  have hrows : rows.map (·.rowID) = rec.derived r := statementRows_ids r table flat values
  have hdecoded : rec.Decoded r := by
    obtain ⟨hlength, hhash⟩ := validatePayloadBinding_ok hbound
    exact ⟨payload, values, hlength, hhash, hvalues, by simp [hrecdef, hrowsdef, statementRows]⟩
  refine wpI_bind (wpI_mapError (saveRecord_safe K hid fun w₂ hr₂ hJ₂ _ => ⟨?_, ?_⟩))
  · refine .preparing rfl rfl hdecoded (fun old hlook => hold old ?_) (fun pid => ?_) rfl rfl
    · rw [← hid, ← hr₁.journal, ← hr₂.journal]
      exact hlook
    · exact (hlist₁.rely hr₂).inventory pid
  have hlist₂ := hlist₁.rely hr₂
  refine wpI_bind (wpI_mapError (query_safe K (fun _ _ => True) (fun a w => ⟨_, rfl, trivial⟩) ?_))
  intro w₃ _ hr₃ hJ₃ _
  have hlist₃ : Listed w₃ table before :=
    Listed.rely (w := { w₂ with journal := w₂.journal.insert rec.statementID rec })
      ⟨hlist₂.active, hlist₂.born⟩ hr₃
  have hrec₃ : w₃.HasRecord rec := .of_journal (GoMap.lookup_insert_self ..) hr₃.journal
  refine (wpI_mapError (insertRows_safe K rec hid rfl hrows
    (touchedPartitions_ok htouched) hrec₃ hlist₃ (hlist₃.quiet rfl rfl))).bind ?_
  rintro _ w₄ _ ⟨ps, hat⟩
  refine (assembleAfterWrite_safe K hJ hid hat).bind ?_
  rintro ⟨result, rc⟩ w₅ _ ⟨ps', hat', hcand, hrc, hname, hstmt⟩
  refine wpI_bind (wpI_mapError (saveRecord_safe K hid fun w₆ hr₆ _ _ => ⟨?_, ?_⟩))
  · exact (hat'.rely hr₆).recordStep hcand hrc hname hstmt
  · have hat₆ := hat'.rely hr₆
    exact wpI_pure ⟨_, ps', hid, GoMap.lookup_insert_self .., rfl, rfl, hcand, hat₆.active,
      hat₆.suspects, hat₆.ids⟩

end Handlers

end ArbiterCore
