-- SUMMARY: The entry points of the intake meet their contract.
import ArbiterCore.SNode.IntakeConverge

/-!
# The entry points of the intake

Every call meets the contract of the intake lock. A result that a call returns
is the result of a durable record.
-/

namespace ArbiterCore

open Conc

variable [HouseGate]

/-- The result is the one of a prepared record of the statement. -/
def Returned (w : World) (id : String) (result : PreparedLocalResult) : Prop :=
  ∃ rec, w.journal.lookup id = some rec ∧
    (rec.lifecycle = .unsafeWritten ∨ rec.lifecycle = .rcBound) ∧ rec.result = some result

section Handlers

variable {r : Role} {faults : Faults} {permit : Permit} {id : String} {J : World → Prop}
  (K : (intakeContract r faults permit id).Keeps J) (hJ : ∀ w, J w → IntakeBase r w)
  {w w' : World} {rec : IntakeRecord}

omit [HouseGate] in
theorem validateIntakeRecord_written (hvalid : validateIntakeRecord rec = .ok ())
    (hlife : rec.lifecycle = .unsafeWritten ∨ rec.lifecycle = .rcBound) :
    (∃ result, rec.result = some result) ∧ ∃ rc, rec.rc = some rc := by
  have hboth : ¬ (rec.result = none ∨ rec.rc = none) := by
    intro hnone
    unfold validateIntakeRecord at hvalid
    rcases hlife with hlife | hlife <;> simp only [hlife, hnone, if_true] at hvalid <;>
      split at hvalid <;> cases hvalid
  rw [not_or] at hboth
  exact ⟨Option.ne_none_iff_exists'.mp hboth.1, Option.ne_none_iff_exists'.mp hboth.2⟩

include K

theorem resolveEnvelopeSchema_safe {env : StatementEnvelope} {Q : TableSchema → World → Prop}
    (h : ∀ w₁, IntakeRely r w w₁ → J w₁ → Q (r.schemas env.targetTableID) w₁) :
    intakeSafe r faults permit id J (resolveEnvelopeSchema r env) Q w := by
  unfold resolveEnvelopeSchema
  refine wpI_bind (wpI_mapError (query_safe K (fun _ b => b = r.schemas env.targetTableID)
    (fun a w => ⟨_, rfl, rfl⟩) ?_))
  rintro w₁ _ hr hJ₁ rfl
  dsimp only
  split
  · exact wpI_throw
  · exact wpI_pure (h w₁ hr hJ₁)

include hJ

theorem converged_safe (hid : rec.statementID = id)
    (hlook : w.HasRecord rec)
    (hvalid : validateIntakeRecord rec = .ok ()) :
    intakeSafe r faults permit id J (converged r rec (r.schemas rec.table))
      (fun now w' => Settled w' rec now) w := by
  unfold converged
  split
  · next hlife => exact convergeIntake_safe K hJ hid hlook hlife
  next hlife =>
  refine wpI_pure ⟨hlook, rfl, rfl, ?_⟩
  cases hl : rec.lifecycle with
  | preparing => exact absurd (.inl hl) hlife
  | abortPending => exact absurd (.inr hl) hlife
  | cleaned => exact .inl rfl
  | unsafeWritten => exact .inr ⟨.inl rfl, validateIntakeRecord_written hvalid (.inl hl)⟩
  | rcBound => exact .inr ⟨.inr rfl, validateIntakeRecord_written hvalid (.inr hl)⟩

omit hJ in
omit K [HouseGate] in
theorem Settled.returned {now : IntakeRecord} {flat : String} {result : PreparedLocalResult}
    (h : Settled w rec now) (hlife : now.lifecycle = .unsafeWritten ∨ now.lifecycle = .rcBound)
    (hresult : preparedResult flat now = .ok result) : Returned w rec.statementID result := by
  refine ⟨now, h.lookup, hlife, ?_⟩
  unfold preparedResult at hresult
  split at hresult
  · next hres =>
    cases hresult
    exact hres
  · cases hresult

/-! ## Prepare -/

theorem prepareLocalStatement_safe {req : PrepareRequest} {payload : List UInt8}
    (hid : req.envelope.statementID.flat = id) :
    intakeSafe r faults permit id J (prepareLocalStatement r req payload)
      (fun result w' => Returned w' id result) w := by
  have hfresh : ∀ {encoding revision w}, (∀ old, w.journal.lookup id = some old →
        old.lifecycle = .cleaned ∧ old.envelope = req.envelope) →
      intakeSafe r faults permit id J
        (prepareFresh r req encoding revision (r.schemas req.envelope.targetTableID) payload)
        (fun result w' => Returned w' id result) w := by
    intro encoding revision w hold
    refine wpI.mono (prepareFresh_safe K hJ hid hold) ?_
    rintro result w₁ _ ⟨rec, ps, hrid, hprep⟩
    exact ⟨rec, hrid ▸ hprep.lookup, .inl hprep.life, hprep.hasResult⟩
  have hadmissible : ∀ {Q : Unit → World → Prop} {w : World},
      (∀ w₁, IntakeRely r w w₁ → J w₁ → Q () w₁) → intakeSafe r faults permit id J
        (call (.requireAdmissible req.envelope.targetTableID req.envelope.schemaHash)) Q w := by
    intro Q w h
    exact query_safe K (fun _ _ => True) (fun a w => ⟨_, rfl, trivial⟩)
      fun w₁ _ hr hJ₁ _ => h w₁ hr hJ₁
  unfold prepareLocalStatement
  refine wpI_bind (wpI_fromExcept fun bindings _ => ?_)
  refine wpI_bind (wpI_mapError (loadRecord_safe K fun w₁ hr₁ hJ₁ hvalid => ?_))
  rw [hid]
  cases hl : w₁.journal.lookup id with
  | none =>
    refine wpI_bind (hadmissible fun w₂ hr₂ _ => ?_)
    refine wpI_bind (resolveEnvelopeSchema_safe K fun w₃ hr₃ _ => ?_)
    refine hfresh fun old hold => ?_
    rw [hr₃.journal, hr₂.journal, hl] at hold
    cases hold
  | some rec =>
    have hrid : rec.statementID = id := ((hJ w₁ hJ₁).ids id rec hl).1
    have hrest : ∀ {w}, IntakeRely r w₁ w → intakeSafe r faults permit id J
        (do
          let sch ← resolveEnvelopeSchema r req.envelope
          fromExcept (validateReplayRequest rec req payload)
          let now ← converged r rec sch
          if now.lifecycle = .unsafeWritten ∨ now.lifecycle = .rcBound then
            fromExcept (preparedResult id now)
          else prepareFresh r req bindings.1 bindings.2 sch payload)
        (fun result w' => Returned w' id result) w := by
      intro w hr
      refine wpI_bind (resolveEnvelopeSchema_safe K fun w₃ hr₃ _ => ?_)
      refine wpI_bind (wpI_fromExcept fun _ hreplay => ?_)
      have henv : rec.envelope = req.envelope := by
        unfold validateReplayRequest at hreplay
        dsimp only at hreplay
        split at hreplay
        · cases hreplay
        · next h => exact not_not.mp h
      have hlook₃ := ((World.HasRecord.of_id hl hrid).of_journal hr.journal).of_journal hr₃.journal
      rw [← henv]
      refine (converged_safe K hJ hrid hlook₃
        (hvalid rec (hid.symm ▸ hl))).bind ?_
      intro now w₄ _ hset
      split
      · next hlife =>
        refine wpI_fromExcept fun result hresult => ?_
        exact hrid ▸ hset.returned hlife hresult
      next hlife =>
      have hcleaned : now.lifecycle = .cleaned := hset.life.resolve_right fun h => hlife h.1
      rw [henv]
      refine hfresh fun old hold => ?_
      rw [← hrid, hset.lookup] at hold
      cases hold
      exact ⟨hcleaned, hset.envelope.trans henv⟩
    dsimp only
    split
    · exact wpI_bind (hadmissible fun w₂ hr₂ _ => hrest hr₂)
    · exact hrest (.refl w₁)

/-! ## Claim -/

omit hJ

theorem registerClaim_safe (hclaim : permit.claim) (hid : rec.statementID = id) {rc : RCRecord}
    {result : PreparedLocalResult} (hlook : w.HasRecord rec)
    (hlife : rec.lifecycle = .unsafeWritten ∨ rec.lifecycle = .rcBound) (hrc : rec.rc = some rc)
    (hresult : rec.result = some result) :
    intakeSafe r faults permit id J (registerClaim r rec rc result) (fun _ _ => True) w := by
  unfold registerClaim
  refine wpI_bind (query_safe K (fun _ _ => True) (fun a w => ⟨_, rfl, trivial⟩) ?_)
  intro w₁ _ hr₁ _ _
  refine wpI_bind (wpI_ask K fun w₂ hr₂ _ res w₃ ⟨a, ha⟩ => ?_)
  have hlook₂ := (hlook.of_journal hr₁.journal).of_journal hr₂.journal
  have hstep : IntakeStep r faults permit id w₂ { w₂ with claims := w₂.claims ++ [rc] } :=
    .claim (hid ▸ hlook₂) hid hclaim hlife hrc
  rcases Answer.statement_cases ha with ⟨rfl, rfl⟩ | ⟨⟨e, rfl⟩, rfl | rfl⟩
  · refine ⟨hstep, ?_⟩
    dsimp only
    split
    · next hnot =>
      refine wpI_bind (wpI_mapError (saveRecord_safe K hid fun w₄ hr₄ _ _ => ⟨?_, wpI_pure trivial⟩))
      have hmem : rc ∈ w₄.claims := hr₄.claims ▸ List.mem_append_right _ (List.mem_singleton_self rc)
      exact .bound (.of_journal hlook₂ hr₄.journal) (hlife.resolve_right hnot) hresult hrc hmem
    · exact wpI_pure trivial
  · refine ⟨.idle, ?_⟩
    dsimp only
    split <;> exact wpI_pure trivial
  · refine ⟨hstep, ?_⟩
    dsimp only
    split <;> exact wpI_pure trivial

include hJ

theorem registerPreparedClaim_safe (hclaim : permit.claim) :
    intakeSafe r faults permit id J (registerPreparedClaim r id) (fun _ _ => True) w := by
  unfold registerPreparedClaim
  refine wpI_bind (wpI_mapError (loadRecord_safe K fun w₁ hr₁ hJ₁ hvalid => ?_))
  cases hl : w₁.journal.lookup id with
  | none => exact wpI_throw
  | some rec =>
    have hrid : rec.statementID = id := ((hJ w₁ hJ₁).ids id rec hl).1
    dsimp only
    split
    · exact wpI_throw
    refine wpI_bind (wpI_fromExcept fun _ _ => ?_)
    refine wpI_bind (resolveEnvelopeSchema_safe K fun w₂ hr₂ _ => ?_)
    have hlook₂ := (World.HasRecord.of_id hl hrid).of_journal hr₂.journal
    refine (converged_safe K hJ hrid hlook₂ (hvalid rec hl)).bind ?_
    intro now w₃ _ hset
    split
    · exact wpI_throw
    next hlife =>
    have hlife : now.lifecycle = .unsafeWritten ∨ now.lifecycle = .rcBound := by
      by_contra h
      exact hlife (not_or.mp h)
    split
    · next rc result hrc hresult =>
      exact registerClaim_safe K hclaim (hset.same.trans hrid) (.of_id hset.lookup hset.same) hlife
        hrc hresult
    · exact wpI_throw

/-! ## Lookup -/

theorem lookupPreparedStatement_safe :
    intakeSafe r faults permit id J (lookupPreparedStatement r id)
      (fun found w' => ∀ result, found = some result → Returned w' id result) w := by
  unfold lookupPreparedStatement
  refine wpI_bind (wpI_mapError (loadRecord_safe K fun w₁ hr₁ hJ₁ hvalid => ?_))
  cases hl : w₁.journal.lookup id with
  | none => exact wpI_pure nofun
  | some rec =>
    have hrid : rec.statementID = id := ((hJ w₁ hJ₁).ids id rec hl).1
    dsimp only
    split
    · exact wpI_pure nofun
    refine wpI_bind (query_safe K (fun _ _ => True) (fun a w => ⟨_, rfl, trivial⟩) ?_)
    intro w₂ _ hr₂ _ _
    refine wpI_bind (wpI_fromExcept fun _ _ => ?_)
    refine wpI_bind (resolveEnvelopeSchema_safe K fun w₃ hr₃ _ => ?_)
    have hlook₃ := ((World.HasRecord.of_id hl hrid).of_journal hr₂.journal).of_journal hr₃.journal
    refine (converged_safe K hJ hrid hlook₃ (hvalid rec hl)).bind ?_
    intro now w₄ _ hset
    have hfound : (now.lifecycle = .unsafeWritten ∨ now.lifecycle = .rcBound) →
        intakeSafe r faults permit id J
          (do return some (← fromExcept (preparedResult id now)))
          (fun found w' => ∀ result, found = some result → Returned w' id result) w₄ := by
      intro hlife
      refine wpI_bind (wpI_fromExcept fun result hresult => wpI_pure fun result' heq => ?_)
      cases heq
      exact hrid ▸ hset.returned hlife hresult
    cases hlife : now.lifecycle with
    | unsafeWritten => exact hfound (.inl hlife)
    | rcBound => exact hfound (.inr hlife)
    | cleaned => exact wpI_pure nofun
    | preparing => exact wpI_throw
    | abortPending => exact wpI_throw

/-! ## Abort -/

omit hJ K [HouseGate] in
/-- An abort that is let through names exactly the candidate parts. -/
theorem requireExactAbortParts_ok {candidates : List CandidatePart} {requested : List String}
    {u : Unit} (h : requireExactAbortParts candidates requested = .ok u) (n : String) :
    n ∈ sortedUniqueStrings requested ↔ n ∈ candidates.map (·.partName) := by
  unfold requireExactAbortParts at h
  dsimp only at h
  split at h
  · cases h
  split at h
  · cases h
  · next heq =>
    rw [← not_not.mp heq]
    rw [sortedUniqueStrings, List.mem_insertionSort, List.mem_dedup]

omit hJ

theorem abortRecord_safe (hmay : ∀ w, J w → permit.abort w.claims id) (hid : rec.statementID = id)
    (hlook : w.HasRecord rec)
    (hlife : rec.lifecycle = .unsafeWritten ∨ rec.lifecycle = .rcBound)
    {result : PreparedLocalResult} (hresult : rec.result = some result) (names : List String)
    (reason : String) :
    intakeSafe r faults permit id J (abortRecord rec (r.schemas rec.table) names reason)
      (fun _ _ => True) w := by
  have hparts : abortParts rec names = sortedUniqueStrings names := by
    unfold abortParts
    rcases hlife with h | h <;> rw [h]
  unfold abortRecord
  refine wpI_bind (wpI_mapError (wpI_fromExcept fun _ hown => ?_))
  have hexact : requireExactAbortParts result.candidateParts names = .ok () := by
    rw [requireOwnParts, hresult] at hown
    exact hown
  refine wpI_bind (wpI_mapError (saveRecord_safe K hid fun w₁ hr hJ₁ hvalid => ⟨?_, ?_⟩))
  · have hlook₁ := hlook.of_journal hr.journal
    -- the journal refuses the transition from RCBound
    have hwritten : rec.lifecycle = .unsafeWritten := by
      refine hlife.resolve_right fun hbound => ?_
      have := hvalid rec hlook₁
      rw [hbound] at this
      cases this
    refine .aborting hlook₁ hwritten hresult (fun n => ?_) (hid ▸ hmay w₁ hJ₁)
    rw [hparts]
    exact requireExactAbortParts_ok hexact n
  · refine wpI.bind (runAbort_safe K hid (GoMap.lookup_insert_self ..) rfl) ?_
    exact fun _ _ _ _ => wpI_pure trivial

include hJ

theorem abortPreparedStatement_safe (hmay : ∀ w, J w → permit.abort w.claims id)
    (names : List String) (reason : String) :
    intakeSafe r faults permit id J (abortPreparedStatement r id names reason)
      (fun _ _ => True) w := by
  unfold abortPreparedStatement
  refine wpI_bind (wpI_mapError (loadRecord_safe K fun w₁ hr₁ hJ₁ hvalid => ?_))
  cases hl : w₁.journal.lookup id with
  | none =>
    dsimp only
    split
    · exact wpI_pure trivial
    · exact wpI_throw
  | some rec =>
    have hrid : rec.statementID = id := ((hJ w₁ hJ₁).ids id rec hl).1
    dsimp only
    split
    · exact wpI_pure trivial
    refine wpI_bind (wpI_fromExcept fun _ _ => ?_)
    refine wpI_bind (resolveEnvelopeSchema_safe K fun w₂ hr₂ _ => ?_)
    have hlook₂ := (World.HasRecord.of_id hl hrid).of_journal hr₂.journal
    refine (converged_safe K hJ hrid hlook₂ (hvalid rec hl)).bind ?_
    intro now w₃ _ hset
    split
    · exact wpI_pure trivial
    next hlife =>
    obtain ⟨hlife, ⟨result, hresult⟩, -⟩ := hset.life.resolve_left hlife
    have htable : now.table = rec.table := congrArg (·.targetTableID) hset.envelope
    have := abortRecord_safe K hmay (hset.same.trans hrid) (hset.same.symm ▸ hset.lookup) hlife
      hresult names reason
    rwa [htable] at this

end Handlers

/-! ## Startup -/

/-- The contract of the intake lock: a step of some call. -/
def intakeSlot (r : Role) (faults : Faults) (permit : Permit) : Contract World :=
  ⟨IntakeRely r, fun w w' => ∃ id, IntakeStep r faults permit id w w'⟩

section Slot

variable {r : Role} {faults : Faults} {permit : Permit} {J : World → Prop}
  (K : ∀ id, (intakeContract r faults permit id).Keeps J) (hJ : ∀ w, J w → IntakeBase r w)
  {w : World}

theorem intakeSafe.slot {id : String} {α : Type} {p : Handler α} {Q : α → World → Prop}
    (h : intakeSafe r faults permit id J p Q w) :
    wpI (machine r faults) (intakeSlot r faults permit) J p Q w :=
  wpI.weaken h (fun _ _ h => h) fun _ _ hs => ⟨id, hs⟩

include K

/-- A call keeps the records of all other statements. -/
theorem intakeContract_keeps_others (id : String) (w₀ : World) :
    (intakeContract r faults permit id).Keeps fun w =>
      J w ∧ ∀ id' ≠ id, w.journal.lookup id' = w₀.journal.lookup id' where
  rely w w' hr h := ⟨(K id).rely w w' hr h.1, fun id' hne => by rw [hr.journal, h.2 id' hne]⟩
  guar w w' hg h := ⟨(K id).guar w w' hg h.1, fun id' hne => by
    rw [IntakeStep.lookup_of_ne hg hne, h.2 id' hne]⟩

include hJ

theorem convergeRecord_safe {rec : IntakeRecord}
    (hlook : w.HasRecord rec)
    (hlife : rec.lifecycle = .preparing ∨ rec.lifecycle = .abortPending) :
    intakeSafe r faults permit rec.statementID J (convergeRecord r rec)
      (fun _ w' => ∀ id' ≠ rec.statementID, w'.journal.lookup id' = w.journal.lookup id') w := by
  have K' := intakeContract_keeps_others K rec.statementID w
  have hsafe : intakeSafe r faults permit rec.statementID
      (fun w' => J w' ∧ ∀ id' ≠ rec.statementID, w'.journal.lookup id' = w.journal.lookup id')
      (convergeRecord r rec) (fun _ _ => True) w := by
    unfold convergeRecord
    refine wpI_bind (wpI_mapError (wpI_fromExcept fun _ _ => ?_))
    refine wpI_bind (wpI_mapError (resolveEnvelopeSchema_safe K' fun w₁ hr₁ _ => ?_))
    refine wpI_bind (wpI_attempt (wpI.mono (convergeIntake_safe K' (fun w h => hJ w h.1) rfl
      (hlook.of_journal hr₁.journal) hlife) fun now w₂ _ _ => wpI_pure trivial) fun e w₂ _ => ?_)
    dsimp only
    split
    · exact wpI_pure trivial
    · exact wpI_throw
  exact wpI.mono (wpI.and hsafe fun _ _ => rfl) fun _ w' _ h => h.2

theorem convergeRecords_safe {recs : List IntakeRecord}
    (hlook : ∀ rec ∈ recs, w.HasRecord rec)
    (hnodup : (recs.map (·.statementID)).Nodup) :
    wpI (machine r faults) (intakeSlot r faults permit) J (convergeRecords r recs)
      (fun _ _ => True) w := by
  induction recs generalizing w with
  | nil => exact wpI_pure trivial
  | cons rec recs ih =>
    rw [List.map_cons, List.nodup_cons] at hnodup
    have hrest : ∀ {w' : World},
        (∀ id' ≠ rec.statementID, w'.journal.lookup id' = w.journal.lookup id') →
        wpI (machine r faults) (intakeSlot r faults permit) J (convergeRecords r recs)
          (fun _ _ => True) w' := by
      intro w' hsame
      refine ih (fun rec' hrec' => ?_) hnodup.2
      have hne : rec'.statementID ≠ rec.statementID := fun h =>
        hnodup.1 (h ▸ List.mem_map_of_mem hrec')
      exact (hsame _ hne).trans (hlook rec' (List.mem_cons_of_mem _ hrec'))
    unfold convergeRecords
    split
    · next hlife =>
      refine (convergeRecord_safe K hJ (hlook rec List.mem_cons_self) hlife).slot.bind ?_
      exact fun _ w' _ hsame => hrest hsame
    · exact hrest fun _ _ => rfl

omit hJ K in
theorem validateRecords_safe {C : Contract World} {recs : List IntakeRecord}
    {Q : Unit → World → Prop} (h : Q () w) :
    wpI (machine r faults) C J (recs.forM fun rec => do let _ ← validateDecoded rec; pure ()) Q w := by
  induction recs with
  | nil => exact wpI_pure h
  | cons rec recs ih => exact wpI_bind (wpI_bind (validateDecoded_safe fun _ => wpI_pure ih))

theorem convergeStartup_safe :
    wpI (machine r faults) (intakeSlot r faults permit) J (convergeStartup r) (fun _ _ => True) w := by
  unfold convergeStartup listRecords
  refine wpI_bind (wpI_mapError (wpI_bind ?_))
  refine (query_safe (K "") (fun w b => b = w.journal.toList.map (·.2)) (fun a w => ⟨_, rfl, rfl⟩)
    ?_ : intakeSafe r faults permit "" J _ _ w).slot
  rintro w₁ _ hr₁ hJ₁ rfl
  have hids := (hJ w₁ hJ₁).ids
  refine wpI_bind (validateRecords_safe ?_)
  refine wpI_pure (convergeRecords_safe K hJ ?_ ?_)
  · intro rec hrec
    obtain ⟨⟨id, rec'⟩, hmem, rfl⟩ := List.mem_map.mp hrec
    have hlook := GoMap.mem_toList.mp hmem
    exact .of_id hlook (hids id rec' hlook).1
  · have hkeys := w₁.journal.toList_keys_nodup
    rwa [List.map_map, List.map_congr_left fun e he => (hids e.1 e.2 (GoMap.mem_toList.mp he)).1]

/-! ## All calls -/

omit [HouseGate] in
/-- A reply with a result tells the result of a prepared record. -/
def IntakeReply.Sound (w : World) : IntakeReply → Prop
  | .prepared result => ∃ id, Returned w id result
  | .found (some result) => ∃ id, Returned w id result
  | _ => True

omit [HouseGate] in
omit hJ K in
theorem IntakeReply.Sound.frame {w' : World} {reply : IntakeReply} (h : reply.Sound w)
    (hjournal : w'.journal = w.journal) : reply.Sound w' := by
  have hreturned : ∀ {id result}, Returned w id result → Returned w' id result := by
    intro id result h
    unfold Returned
    rwa [hjournal]
  unfold IntakeReply.Sound at h ⊢
  split at h
  · obtain ⟨id, h⟩ := h
    exact ⟨id, hreturned h⟩
  · obtain ⟨id, h⟩ := h
    exact ⟨id, hreturned h⟩
  · trivial

/-- Every call meets the contract of the intake lock. -/
theorem IntakeCall.handler_safe (hclaim : permit.claim) (c : IntakeCall)
    (hmay : ∀ id names reason, c = .abort id names reason → permit.abort w.claims id) :
    wpI (machine r faults) (intakeSlot r faults permit) J (c.handler r)
      (fun reply w' => reply.Sound w') w := by
  cases c with
  | prepare req payload =>
    refine (prepareLocalStatement_safe (K _) hJ rfl).slot.bind ?_
    exact fun result w' _ h => wpI_pure ⟨_, h⟩
  | register id =>
    refine (registerPreparedClaim_safe (K id) hJ hclaim).slot.bind ?_
    exact fun _ _ _ _ => wpI_pure trivial
  | lookup id =>
    refine (lookupPreparedStatement_safe (K id) hJ).slot.bind ?_
    intro found w' _ h
    refine wpI_pure ?_
    cases found with
    | none => trivial
    | some result => exact ⟨id, h result rfl⟩
  | abort id names reason =>
    -- an abort registers no claim, so the claims stay as they were at its start
    let quiet : Permit := ⟨False, permit.abort⟩
    have hsub : ∀ w w', IntakeStep r faults quiet id w w' → IntakeStep r faults permit id w w' :=
      fun w w' hs => hs.mono False.elim fun _ _ h => h
    have K' : (intakeContract r faults quiet id).Keeps fun w' => J w' ∧ w'.claims = w.claims :=
      ⟨fun v v' hr h => ⟨(K id).rely v v' hr h.1, hr.claims.trans h.2⟩,
        fun v v' hg h => ⟨(K id).guar v v' (hsub v v' hg) h.1, (hg.claims fun h => h).trans h.2⟩⟩
    have hsafe := abortPreparedStatement_safe (w := w) K' (fun w h => hJ w h.1)
      (fun w' h => h.2 ▸ hmay id names reason rfl) names reason
    refine wpI.bind (wpI.weaken (wpI.and hsafe rfl) (fun _ _ h => h)
      fun v v' hs => ⟨id, hsub v v' hs⟩) ?_
    exact fun _ _ _ _ => wpI_pure trivial
  | startup =>
    refine (convergeStartup_safe K hJ).bind ?_
    exact fun _ _ _ _ => wpI_pure trivial

end Slot

end ArbiterCore
