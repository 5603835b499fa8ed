-- SUMMARY: What a fresh prepare attributes to its statement, when failed INSERTs may land late.
import ArbiterCore.SNode.IntakeConverge

/-!
# Attribution on the fresh path

A fresh prepare takes every part that is new between its two listings of
hg_unsafe for its own, and never looks at row ids. An INSERT that returned an
error may still land later. When that happens between the two listings of another
prepare, the part is attributed to the wrong statement; when it happens at any
other time, the fresh path attributes exactly what `convergeIntake` would accept.
-/

namespace ArbiterCore

open Conc

variable [HouseGate]

/-! ## The system -/

/-- Where a prepare stands: whether it is between two listings of hg_unsafe, and
    whether it has spooled a payload, which only the fresh path does. -/
structure Watch where
  listed : Bool := false
  spooled : Bool := false

omit [HouseGate] in
/-- What an operation and its answer say about where the prepare stands. -/
def Watch.see : {β : Type} → Op β → β → Watch → Watch
  | _, .activeParts .hgUnsafe _, .ok _, m => { m with listed := !m.listed }
  -- a convergence that aborts does not list again before the fresh path
  | _, .journalWrite rec, _, m => { m with listed := m.listed && decide (rec.lifecycle = .preparing) }
  | _, .putPayload _ _, _, m => { m with spooled := true }
  | _, _, _, m => m

/-- Rows of an INSERT that failed land in hg_unsafe after all. -/
inductive LateLanding (r : Role) (w : World) : World → Prop where
  | land {done rest : List FailedInsert} {f : FailedInsert} {landed : List StoredPart} {w' : World}
      (hfailed : w.failed = done ++ f :: rest)
      (hland : landable (r.schemas f.table) f.rows w.born landed)
      (hins : w.inserted (r.schemas f.table) landed = some w') :
      LateLanding r w { w' with
        failed := done ++ ⟨f.table, f.rows.diff (landed.flatMap (·.content))⟩ :: rest }

/-- The prepares of a node. Failed INSERTs land late where `may` allows it. -/
def lateSystem (r : Role) (faults : Faults) (may : Watch → Prop) :
    System Op (World × Watch) Unit (Except GoError PreparedLocalResult) where
  machine := (machine r faults).watch Watch.see
  start _ s p := s.2 = {} ∧ ∃ req payload, p = (prepareLocalStatement r req payload).run
  env s s' := may s.2 ∧ LateLanding r s.1 s'.1 ∧ s'.2 = s.2
  crash s := (s.1.crash, {})
  leave _ s := (s.1, {})

omit [HouseGate] in
/-- No prepare is running. -/
def Unwatched (s : World × Watch) : Prop := s.2 = {}

omit [HouseGate] in
/-- No prepare is between its listings. -/
def Watch.Closed (m : Watch) : Prop := m.listed = false

/-- The checks of `convergeIntake` on the parts it attributes to a record. -/
def convergeAccepts (r : Role) (rec : IntakeRecord) (ps : List StoredPart) : Bool :=
  let expected := derivedRowIDs r rec.table rec.statementID rec.expectedRowCount
  ps.all (fun p => suspect rec (r.schemas rec.table) p.info) &&
    (rowIDs ps).all (· ∈ expected) &&
    (rowIDs ps).length = rec.expectedRowCount &&
    expected.all fun id => (rowIDs ps).count id = 1

/-- A result whose candidates are active parts that convergence would accept for
    its record. -/
structure Accepted (r : Role) (w : World) (result : PreparedLocalResult) (rec : IntakeRecord)
    (ps : List StoredPart) : Prop where
  lookup : w.journal.lookup result.statementID = some rec
  hasResult : rec.result = some result
  candidates : result.candidateParts = ps.map (candidatePart r rec.table)
  active : ∀ p ∈ ps, p ∈ w.parts .hgUnsafe rec.table
  accepts : convergeAccepts r rec ps = true

variable {r : Role} {faults : Faults} {rec : IntakeRecord} {ps : List StoredPart} {α β : Type}

theorem convergeAccepts_of_perm (hs : ∀ p ∈ ps, Suspect r rec p)
    (hids : (rowIDs ps).Perm (rec.derived r)) : convergeAccepts r rec ps = true := by
  have hmem : ∀ x ∈ rowIDs ps, x ∈ rec.derived r := fun x hx => hids.mem_iff.mp hx
  have hlen : (rowIDs ps).length = rec.expectedRowCount := by
    simpa [IntakeRecord.derived, derivedRowIDs] using hids.length_eq
  have honce : ∀ x ∈ rec.derived r, (rowIDs ps).count x = 1 := by
    intro x hx
    have hnodup : (rec.derived r).Nodup := derivedRowIDs_nodup ..
    exact (hids.count_eq x).trans (List.count_eq_one_of_mem hnodup hx)
  simp only [convergeAccepts, Bool.and_eq_true, List.all_eq_true, decide_eq_true_eq]
  exact ⟨⟨⟨hs, hmem⟩, hlen⟩, honce⟩

/-! ## A prepare among late landings -/

omit [HouseGate] in
/-- What late landings do to a prepare: parts appear, but none between its listings. -/
structure LateRely (s s' : World × Watch) : Prop where
  watch : s'.2 = s.2
  journal : s'.1.journal = s.1.journal
  parts : ∀ t, s.1.parts .hgUnsafe t ⊆ s'.1.parts .hgUnsafe t
  listed : s.2.listed = true → ∀ t, s'.1.parts .hgUnsafe t = s.1.parts .hgUnsafe t

variable {s s' s'' : World × Watch}

omit [HouseGate] in
theorem LateRely.refl (s : World × Watch) : LateRely s s :=
  ⟨rfl, rfl, fun _ _ h => h, fun _ _ => rfl⟩

omit [HouseGate] in
theorem LateRely.trans (h : LateRely s s') (h' : LateRely s' s'') : LateRely s s'' where
  watch := h'.watch.trans h.watch
  journal := h'.journal.trans h.journal
  parts t _ hp := h'.parts t (h.parts t hp)
  listed hl t := (h'.listed (h.watch ▸ hl) t).trans (h.listed hl t)

theorem LateLanding.rely (h : LateLanding r s.1 s'.1) (hclosed : s.2.Closed) (hw : s'.2 = s.2) :
    LateRely s s' := by
  obtain ⟨w, m⟩ := s
  obtain ⟨w', m'⟩ := s'
  cases h with
  | land hfailed hland hins =>
    refine ⟨hw, (World.inserted_frame hins).2.1, fun t p hp => ?_, fun hl => ?_⟩
    · exact (World.inserted_parts hins t).symm ▸ List.mem_append_left _ hp
    · exact nomatch hclosed.symm.trans hl

theorem Accepted.rely {result : PreparedLocalResult} (h : Accepted r s.1 result rec ps)
    (hr : LateRely s s') : Accepted r s'.1 result rec ps :=
  { h with
    lookup := hr.journal ▸ h.lookup
    active := fun p hp => hr.parts _ (h.active p hp) }

omit [HouseGate] in
def lateContract : Contract (World × Watch) := ⟨LateRely, fun _ _ => True⟩

/-- A program that runs among late landings and ends in `Q`, or with an error. -/
def lateSafe (r : Role) (faults : Faults) (p : Handler α) (Q : α → World × Watch → Prop)
    (s : World × Watch) : Prop :=
  wpE ((machine r faults).watch Watch.see) lateContract p Q (fun _ _ => True) s

section Rules

variable {Q : α → World × Watch → Prop} {p : Handler α}

theorem lateSafe_bind {f : α → Handler β} {Q : β → World × Watch → Prop}
    (h : lateSafe r faults p (fun a => lateSafe r faults (f a) Q) s) :
    lateSafe r faults (p >>= f) Q s :=
  wpE_bind.mpr h

theorem lateSafe_mapError {f : GoError → GoError} (h : lateSafe r faults p Q s) :
    lateSafe r faults (mapError f p) Q s :=
  wpE_mapError.mpr h

theorem lateSafe_throw {e : GoError} : lateSafe r faults (throw e : Handler α) Q s := trivial

theorem lateSafe_fromExcept {x : Except GoError α} (h : ∀ a, x = .ok a → Q a s) :
    lateSafe r faults (fromExcept x) Q s := by
  cases x with
  | ok a => exact h a rfl
  | error e => trivial

theorem lateSafe.mono {Q' : α → World × Watch → Prop} (h : lateSafe r faults p Q s)
    (hQ : ∀ a s, Q a s → Q' a s) : lateSafe r faults p Q' s :=
  wpE.mono h hQ fun _ _ h => h

theorem lateSafe_call {op : Op (Except GoError α)}
    (h : ∀ s₁, LateRely s s₁ → ∀ a b w, Op.run r faults op a s₁.1 = some (.ok b, w) →
      Q b (w, Watch.see op (.ok b) s₁.2)) :
    lateSafe r faults (call op) Q s := by
  rintro s₁ hr res ⟨w₂, _⟩ hop
  obtain ⟨⟨a, hrun⟩, rfl⟩ := Machine.watch_sem.mp hop
  refine ⟨trivial, ?_⟩
  cases res with
  | error e => trivial
  | ok b => exact h s₁ hr a b w₂ hrun

/-- A query changes nothing but the watch. -/
theorem lateSafe_query {op : Op (Except GoError α)} (answer : World → α → Prop)
    (hrun : ∀ a w, ∃ b, Op.run r faults op a w = a.query w b ∧ answer w b)
    (h : ∀ s₁ b, LateRely s s₁ → answer s₁.1 b → Q b (s₁.1, Watch.see op (.ok b) s₁.2)) :
    lateSafe r faults (call op) Q s := by
  refine lateSafe_call fun s₁ hr a b w hop => ?_
  obtain ⟨b', hq, hans⟩ := hrun a s₁.1
  obtain ⟨rfl, hb | ⟨e, he⟩⟩ := Answer.query_cases (hq.symm.trans hop)
  · cases hb
    exact h s₁ _ hr hans
  · cases he

/-- A program whose operations keep an assertion about the watch. -/
theorem lateSafe_of_uses {P : (δ : Type) → Op δ → Prop} {I : Watch → Prop} (huses : Uses P p)
    (hsee : ∀ {δ : Type} (op : Op δ) b m, P δ op → I m → I (Watch.see op b m)) (h : I s.2) :
    lateSafe r faults p (fun _ s => I s.2) s := by
  refine wp.mono (wp_of_all huses (Q := fun s => I s.2) ?_ ?_ h) fun res s hI => ?_
  · exact fun s s' hr hI => hr.watch ▸ hI
  · intro δ op s b s' hP hop hI
    obtain ⟨-, hwatch⟩ := Machine.watch_sem.mp hop
    exact ⟨trivial, hwatch ▸ hsee op b s.2 hP hI⟩
  · cases res with
    | ok a => exact hI
    | error e => trivial

/-- Whatever a program does, what follows has to be safe from where it ends. -/
theorem lateSafe_then {f : α → Handler β} {Q : β → World × Watch → Prop}
    (h : ∀ a s, lateSafe r faults (f a) Q s) : lateSafe r faults (p >>= f) Q s := by
  have hall : ∀ {γ : Type} (q : Prog Op γ), q.All fun _ _ => True := by
    intro γ q
    induction q with
    | ret a => trivial
    | exec op k ih => exact ⟨trivial, ih⟩
  have hany : lateSafe r faults p (fun _ _ => True) s :=
    lateSafe_of_uses (I := fun _ => True) (hall p.run) (fun _ _ _ _ h => h) trivial
  exact lateSafe_bind (hany.mono fun a s _ => h a s)

end Rules

/-! ## Where a prepare stands -/

omit [HouseGate] in
/-- The operation spools no payload. -/
def Op.unspooled : {β : Type} → Op β → Bool
  | _, .putPayload _ _ => false
  | _, _ => true

omit [HouseGate] in
theorem Watch.see_spooled {δ : Type} (op : Op δ) (b : δ) (m : Watch) (h : op.unspooled = true)
    (hm : m.spooled = false) : (Watch.see op b m).spooled = false := by
  cases op with
  | putPayload ref payload => cases h
  | activeParts db table => cases db <;> cases b <;> exact hm
  | _ => exact hm

omit [HouseGate] in
/-- No operation of the program spools a payload. -/
def Unspooled (p : Handler α) : Prop := Uses (fun _ op => op.unspooled = true) p

section Uses

variable {sch : TableSchema}

omit [HouseGate]

theorem loadRecord_uses {P : (δ : Type) → Op δ → Prop} {flat : String}
    (h : P _ (.journalLoad flat)) : Uses P (loadRecord flat) := by
  refine uses_step h fun found => ?_
  cases found with
  | none => exact uses_pure
  | some rec =>
    refine uses_bind (uses_bind (uses_mapError uses_fromExcept) fun _ => ?_) fun _ => ?_
    · exact uses_pure
    · exact uses_pure

theorem saveRecord_unspooled (rec : IntakeRecord) : Unspooled (saveRecord rec) := by
  refine uses_bind uses_fromExcept fun _ => ?_
  refine uses_bind (uses_mapError (loadRecord_uses rfl)) fun previous => ?_
  cases previous <;> dsimp only <;> split <;> first | exact uses_call rfl | exact uses_throw

theorem persistConvergenceFailure_unspooled (detail name : String) :
    Unspooled (persistConvergenceFailure rec detail name : Handler α) := by
  refine uses_bind (uses_mapError (saveRecord_unspooled _)) fun _ => ?_
  split <;> exact uses_throw

theorem dropAbortParts_unspooled (names : List String) : Unspooled (dropAbortParts rec sch names) := by
  refine uses_forM fun name _ => ?_
  refine uses_bind uses_fromExcept fun _ => uses_bind ?_ fun _ => ?_
  · refine uses_bind (uses_ask rfl) fun res => ?_
    cases res with
    | ok _ => exact uses_pure
    | error e => dsimp only; split <;> first | exact uses_pure | exact uses_throw
  · refine uses_mapError ?_
    unfold excludeAbortedPart
    split
    · exact uses_pure
    · split <;> first | exact uses_pure | exact uses_call rfl

theorem runAbort_unspooled : Unspooled (runAbort rec sch) := by
  unfold runAbort
  split
  · exact uses_throw
  · refine uses_bind (dropAbortParts_unspooled _) fun _ => ?_
    exact uses_bind (uses_mapError (saveRecord_unspooled _)) fun _ => uses_pure

theorem attributeParts_unspooled (expected : List String) (parts : List Part) :
    Unspooled (attributeParts rec sch expected parts) := by
  induction parts with
  | nil => exact uses_pure
  | cons part parts ih =>
    unfold attributeParts
    split
    · refine uses_mapStep rfl fun ids => ?_
      split
      · exact uses_bind ih fun _ => uses_pure
      · exact persistConvergenceFailure_unspooled ..
    · exact ih

variable [HouseGate]

theorem addCandidates_unspooled (env : StatementEnvelope) (newParts : List Part)
    (scans : List PartScanResult) : Unspooled (addCandidates env sch newParts scans) := by
  induction scans with
  | nil => exact uses_pure
  | cons scan scans ih =>
    unfold addCandidates
    split
    · exact uses_throw
    · refine uses_bind uses_fromExcept fun _ => uses_step rfl fun _ => ?_
      exact uses_bind ih fun _ => uses_pure

theorem assembleAfterWrite_unspooled (env : StatementEnvelope) (before : List Part) :
    Unspooled (assembleAfterWrite r env sch before rec) := by
  refine uses_mapStep rfl fun after => ?_
  dsimp only
  split
  · exact uses_throw
  refine uses_bind ?_ fun _ => uses_bind ?_ fun _ => uses_pure
  · unfold hashNewParts
    split
    · exact uses_pure
    · exact uses_mapError (uses_call rfl)
  · refine uses_bind (addCandidates_unspooled ..) fun _ => ?_
    exact uses_step rfl fun _ => uses_pure

theorem convergeIntake_unspooled : Unspooled (convergeIntake r rec sch) := by
  unfold convergeIntake
  split
  · exact uses_throw
  split
  · exact runAbort_unspooled
  · refine uses_mapStep rfl fun current => ?_
    refine uses_bind (attributeParts_unspooled ..) fun ⟨attributed, seen⟩ => ?_
    dsimp only
    split
    · split
      · refine uses_bind (uses_mapError (assembleAfterWrite_unspooled ..)) fun _ => ?_
        exact uses_bind (uses_mapError (saveRecord_unspooled _)) fun _ => uses_pure
      · exact persistConvergenceFailure_unspooled ..
    · split
      · exact persistConvergenceFailure_unspooled ..
      · exact uses_bind (uses_mapError (saveRecord_unspooled _)) fun _ => runAbort_unspooled
  · exact uses_pure

end Uses

/-! ## The fresh path -/

theorem loadRecord_late (flat : String) :
    lateSafe r faults (loadRecord flat) (fun _ s' => LateRely s s') s := by
  refine lateSafe_bind (lateSafe_query (fun _ _ => True) (fun a w => ⟨_, rfl, trivial⟩) ?_)
  intro s₁ found hr _
  cases found with
  | none => exact hr
  | some rec => exact lateSafe_bind (lateSafe_bind (lateSafe_mapError (lateSafe_fromExcept fun _ _ => hr)))

theorem saveRecord_late {Q : Unit → World × Watch → Prop}
    (h : ∀ s₁, LateRely s s₁ →
      Q () ({ s₁.1 with journal := s₁.1.journal.insert rec.statementID rec },
        { s₁.2 with listed := s₁.2.listed && decide (rec.lifecycle = .preparing) })) :
    lateSafe r faults (saveRecord rec) Q s := by
  have hwrite : ∀ s₀, LateRely s s₀ → lateSafe r faults (call (.journalWrite rec)) Q s₀ := by
    intro s₀ hr₀
    refine lateSafe_call fun s₁ hr a b w hrun => ?_
    rcases Answer.statement_cases hrun with ⟨-, rfl⟩ | ⟨⟨e, he⟩, -⟩
    · exact h s₁ (hr₀.trans hr)
    · cases he
  refine lateSafe_bind (lateSafe_fromExcept fun _ _ => ?_)
  refine lateSafe_bind (lateSafe_mapError ((loadRecord_late _).mono fun previous s₀ hr => ?_))
  cases previous <;> dsimp only <;> split <;> first | exact hwrite s₀ hr | exact lateSafe_throw

/-- An INSERT between the listings adds exactly its rows. -/
theorem insertRows_late {table : String} {rows : List Row} {old : List StoredPart}
    (hlisted : s.2.listed = true) (hparts : s.1.parts .hgUnsafe table = old) :
    lateSafe r faults (insertRows (r.schemas table) rows)
      (fun _ s' => s'.2.listed = true ∧ ∃ landed, s'.1.parts .hgUnsafe table = old ++ landed ∧
        (landed.flatMap (·.content)).Perm rows ∧ ∀ p ∈ landed, p.content ≠ [] ∧
          ∀ row ∈ p.content, HouseGate.partitionIDForRow (r.schemas table) row.values =
            .ok (p.partition (r.schemas table))) s := by
  unfold insertRows
  split
  · next hnil =>
    subst hnil
    exact ⟨hlisted, [], by simpa using hparts, List.Perm.refl _, nofun⟩
  refine lateSafe_call fun s₁ hr a _ w hrun => ?_
  obtain ⟨hland, w', hins, ⟨-, hall, rfl⟩ | ⟨⟨e, he⟩, -⟩⟩ := runInsert_cases hrun
  · refine ⟨(congrArg Watch.listed hr.watch).trans hlisted, a.landed, ?_, hall, fun p hp => ?_⟩
    · have hnew := World.inserted_parts hins table
      rwa [if_pos (r.schemas_tableID table).symm, hr.listed hlisted, hparts] at hnew
    · exact ⟨(hland.1 p hp).1, (hland.1 p hp).2.2.2⟩
  · cases he

theorem addCandidates_late {qs : List StoredPart} (hqs : ∀ p ∈ qs, p ∈ ps)
    (hact : ∀ p ∈ ps, p ∈ s.1.parts .hgUnsafe rec.table) :
    lateSafe r faults (addCandidates rec.envelope (r.schemas rec.table) (ps.map (·.info))
        (qs.map (partScan (r.schemas rec.table))))
      (fun cands s' => cands = qs.map (candidatePart r rec.table) ∧
        ∀ p ∈ ps, p ∈ s'.1.parts .hgUnsafe rec.table) s := by
  induction qs generalizing s with
  | nil => exact ⟨rfl, hact⟩
  | cons p qs ih =>
    have hfind := find_info (t := s.1.tables .hgUnsafe rec.table) hact (hqs p List.mem_cons_self)
    simp only [List.map_cons, addCandidates, partScan, hfind]
    refine lateSafe_bind (lateSafe_fromExcept fun _ _ => ?_)
    refine lateSafe_bind (lateSafe_call fun s₁ hr a _ w hrun => ?_)
    obtain ⟨-, heq⟩ := Option.ite_none_right_eq_some.mp hrun
    obtain rfl := (Prod.mk.inj (Option.some.inj heq)).2
    refine lateSafe_bind ((ih (fun q hq => hqs q (List.mem_cons_of_mem _ hq)) ?_).mono ?_)
    · exact fun q hq => hr.parts _ (hact q hq)
    · rintro _ s₂ ⟨rfl, hact₂⟩
      exact ⟨rfl, hact₂⟩

/-- Between the listings nothing else lands, so the new parts are those of the INSERT. -/
theorem assembleAfterWrite_late (rec : IntakeRecord) {old landed : List StoredPart} (hlisted : s.2.listed = true)
    (hparts : s.1.parts .hgUnsafe rec.table = old ++ landed) (hne : ∀ p ∈ landed, p.content ≠ []) :
    lateSafe r faults (assembleAfterWrite r rec.envelope (r.schemas rec.table) (listing old) rec)
      (fun res s' => res.1.statementID = rec.statementID ∧ ∃ ps : List StoredPart, ps.Perm landed ∧
        res.1.candidateParts = ps.map (candidatePart r rec.table) ∧
        ∀ p ∈ ps, p ∈ s'.1.parts .hgUnsafe rec.table) s := by
  have htable := r.schemas_tableID rec.table
  refine lateSafe_bind (lateSafe_mapError (lateSafe_query
    (fun w b => b = listing (w.parts .hgUnsafe rec.table)) (fun a w => ⟨_, rfl, by rw [htable]⟩) ?_))
  intro s₁ after hr hafter
  have hparts₁ := (hr.listed hlisted rec.table).trans hparts
  have hnodup : (old ++ landed).Nodup := hparts₁ ▸ s₁.1.parts_nodup .hgUnsafe rec.table
  have hnames : ((old ++ landed).map (·.name)).Nodup :=
    hparts₁ ▸ (s₁.1.tables .hgUnsafe rec.table).nodup
  have hbefore : ∀ n, n ∈ (listing old).map (·.name) ↔ n ∈ old.map (·.name) := by
    intro n
    have := ((listing_perm old).map (·.name)).mem_iff (a := n)
    rwa [List.map_map] at this
  obtain ⟨ps, hperm, hdiff⟩ : ∃ ps : List StoredPart, ps.Perm landed ∧
      diffParts (listing old) (listing (old ++ landed)) = ps.map (·.info) := by
    refine diffParts_listing hnodup (hnodup.sublist (List.sublist_append_right ..)) ?_ ?_
    · refine fun p hp => ⟨List.mem_append_right _ hp, hne p hp, fun hn => ?_⟩
      rw [List.map_append] at hnames
      exact (List.nodup_append.mp hnames).2.2 _ ((hbefore _).mp hn) _ (List.mem_map_of_mem hp) rfl
    · intro p hp hnot
      have hold := (List.mem_append.mp hp).resolve_right hnot
      exact (hbefore _).mpr (List.mem_map_of_mem hold)
  have hact₁ : ∀ p ∈ ps, p ∈ s₁.1.parts .hgUnsafe rec.table := fun p hp =>
    hparts₁ ▸ List.mem_append_right _ (hperm.mem_iff.mp hp)
  simp only [hafter, hparts₁, hdiff]
  split
  · exact lateSafe_throw
  have hscan : lateSafe r faults (hashNewParts (r.schemas rec.table) (ps.map (·.info)))
      (fun scans s' => scans = ps.map (partScan (r.schemas rec.table)) ∧
        ∀ p ∈ ps, p ∈ s'.1.parts .hgUnsafe rec.table)
      (s₁.1, Watch.see (.activeParts .hgUnsafe (r.schemas rec.table).tableID) (.ok after) s₁.2) := by
    unfold hashNewParts
    split
    · next hnil =>
      have : ps = [] := List.map_eq_nil_iff.mp hnil
      subst this
      exact ⟨rfl, nofun⟩
    · refine lateSafe_mapError (lateSafe_query (fun w b => b = scanned (r.schemas rec.table)
        (w.parts .hgUnsafe rec.table) ((ps.map (·.info)).map (·.name)))
        (fun a w => ⟨_, rfl, by rw [htable]⟩) ?_)
      intro s₂ scans hr₂ hscans
      have hact₂ : ∀ p ∈ ps, p ∈ s₂.1.parts .hgUnsafe rec.table := fun p hp =>
        hr₂.parts _ (hact₁ p hp)
      refine ⟨?_, hact₂⟩
      rw [hscans, List.map_map]
      exact scanned_active (t := s₂.1.tables .hgUnsafe rec.table) fun p hp =>
        ⟨hact₂ p hp, hne p (hperm.mem_iff.mp hp)⟩
  refine lateSafe_bind (hscan.mono fun scans s₂ ⟨hscans, hact₂⟩ => ?_)
  subst hscans
  refine lateSafe_bind (lateSafe_bind ((addCandidates_late (fun p hp => hp) hact₂).mono ?_))
  intro cands s₃ ⟨hcands, hact₃⟩
  refine lateSafe_bind (lateSafe_query (fun _ _ => True) (fun a w => ⟨_, rfl, trivial⟩) ?_)
  intro s₄ root hr₄ _
  exact ⟨rfl, ps, hperm, hcands, fun p hp => hr₄.parts _ (hact₃ p hp)⟩

/-- Convergence would accept what an INSERT of all rows wrote since the inventory. -/
theorem convergeAccepts_landed {rows : List Row} {old landed : List StoredPart}
    (hrows : rows.map (·.rowID) = rec.derived r)
    (htouched : touchedPartitions (r.schemas rec.table) rows = .ok rec.touchedPartitions)
    (hinv : rec.preWriteInventory =
      preWriteInventory (r.schemas rec.table) (listing old) rec.touchedPartitions)
    (hnames : ((old ++ landed).map (·.name)).Nodup)
    (hall : (landed.flatMap (·.content)).Perm rows)
    (hlanded : ∀ p ∈ landed, p.content ≠ [] ∧ ∀ row ∈ p.content,
      HouseGate.partitionIDForRow (r.schemas rec.table) row.values =
        .ok (p.partition (r.schemas rec.table)))
    (hperm : ps.Perm landed) : convergeAccepts r rec ps = true := by
  refine convergeAccepts_of_perm (fun p hp => suspect_iff.mpr ?_) ?_
  · have hp := hperm.mem_iff.mp hp
    obtain ⟨hne, hpid⟩ := hlanded p hp
    refine ⟨hne, ?_, fun hn => ?_⟩
    · -- the part's partition is that of any of its rows
      obtain ⟨row, hrow⟩ := List.exists_mem_of_ne_nil _ hne
      have hmem : row ∈ rows := hall.mem_iff.mp (List.mem_flatMap.mpr ⟨p, hp, hrow⟩)
      obtain ⟨pid, htouch, hok⟩ := touchedPartitions_ok htouched row hmem
      cases hok.symm.trans (hpid row hrow)
      exact htouch
    · -- the inventory names older parts only
      rw [hinv, preWriteInventory_getD] at hn
      split at hn
      · obtain ⟨b, hb, hbn⟩ := List.mem_map.mp hn
        have hb := (listing_perm old).mem_iff.mp (List.mem_of_mem_filter hb)
        obtain ⟨q, hq, rfl⟩ := List.mem_map.mp hb
        rw [List.map_append] at hnames
        exact (List.nodup_append.mp hnames).2.2 _ (List.mem_map_of_mem hq) _
          (List.mem_map_of_mem hp) hbn
      · cases hn
  · have hids := hall.map (·.rowID)
    rw [List.map_flatMap, hrows] at hids
    exact (hperm.flatMap_right _).trans hids

theorem prepareFresh_late {req : PrepareRequest} {encoding : String} {revision : Int}
    {payload : List UInt8} (hclosed : s.2.listed = false) :
    lateSafe r faults
      (prepareFresh r req encoding revision (r.schemas req.envelope.targetTableID) payload)
      (fun result s' => ∃ rec ps, Accepted r s'.1 result rec ps) s := by
  set table := req.envelope.targetTableID
  have htable := r.schemas_tableID table
  unfold prepareFresh
  refine lateSafe_bind (lateSafe_mapError (lateSafe_fromExcept fun _ _ => ?_))
  split
  · exact lateSafe_throw
  refine lateSafe_bind (lateSafe_mapError (lateSafe_fromExcept fun values _ => ?_))
  refine lateSafe_bind (lateSafe_mapError (lateSafe_fromExcept fun touched htouched => ?_))
  refine lateSafe_bind (lateSafe_mapError (lateSafe_query
    (fun w b => b = listing (w.parts .hgUnsafe table)) (fun a w => ⟨_, rfl, by rw [htable]⟩) ?_))
  intro s₁ before hr₁ hbefore
  subst hbefore
  set old := s₁.1.parts .hgUnsafe table
  -- the first listing opens the window
  have hopen : (!s₁.2.listed) = true := by simp [hr₁.watch, hclosed]
  dsimp only
  split
  · exact lateSafe_throw
  rw [htable] at htouched ⊢
  set rows := statementRows r table req.envelope.statementID.flat values with hrowsdef
  set rec : IntakeRecord := ⟨req.envelope.statementID.flat, .preparing, req.envelope, encoding,
    revision, touched, preWriteInventory (r.schemas table) (listing old) touched, rows.length, none,
    none, none, ""⟩ with hrecdef
  refine lateSafe_bind (lateSafe_mapError (saveRecord_late fun s₂ hr₂ => ?_))
  have hopen₂ : s₂.2.listed = true := (congrArg Watch.listed hr₂.watch).trans hopen
  have hparts₂ : s₂.1.parts .hgUnsafe table = old := hr₂.listed hopen table
  refine lateSafe_bind (lateSafe_mapError (lateSafe_query (fun _ _ => True)
    (fun a w => ⟨_, rfl, trivial⟩) fun s₃ _ hr₃ _ => ?_))
  have hopen₃ : s₃.2.listed = true := by
    simpa [hopen₂, hrecdef] using congrArg Watch.listed hr₃.watch
  have hparts₃ : s₃.1.parts .hgUnsafe table = old :=
    (hr₃.listed (by simpa [hrecdef] using hopen₂) table).trans hparts₂
  refine lateSafe_bind (lateSafe_mapError ((insertRows_late
    (s := (s₃.1, { s₃.2 with spooled := true })) hopen₃ hparts₃).mono ?_))
  intro _ s₄ ⟨hopen₄, landed, hparts₄, hall, hlanded⟩
  have hnames : ((old ++ landed).map (·.name)).Nodup :=
    hparts₄ ▸ (s₄.1.tables .hgUnsafe table).nodup
  refine lateSafe_bind ((assembleAfterWrite_late rec hopen₄ hparts₄
    fun p hp => (hlanded p hp).1).mono ?_)
  intro ⟨result, rc⟩ s₅ ⟨hname, ps, hperm, hcand, hact⟩
  refine lateSafe_bind (lateSafe_mapError (saveRecord_late fun s₆ hr₆ => ?_))
  refine ⟨{ rec with lifecycle := .unsafeWritten, result := some result, rc := some rc }, ps, ?_, rfl,
    hcand, fun p hp => hr₆.parts _ (hact p hp), ?_⟩
  · rw [hname]
    exact GoMap.lookup_insert_self ..
  · exact convergeAccepts_landed (statementRows_ids r table _ values) htouched rfl hnames hall hlanded hperm

/-! ## Every prepare -/

theorem runAbort_closed {sch : TableSchema} :
    lateSafe r faults (runAbort rec sch) (fun _ s' => s'.2.listed = false) s := by
  unfold runAbort
  split
  · exact lateSafe_throw
  · refine lateSafe_then fun _ s₁ => lateSafe_bind (lateSafe_mapError (saveRecord_late ?_))
    exact fun s₂ _ => Bool.and_false _

/-- A convergence that leaves no result is no longer between listings. -/
theorem convergeIntake_closed {sch : TableSchema}
    (hlife : rec.lifecycle = .preparing ∨ rec.lifecycle = .abortPending) :
    lateSafe r faults (convergeIntake r rec sch)
      (fun now s' => now.lifecycle ≠ .unsafeWritten → s'.2.listed = false) s := by
  have habort : ∀ rec s, lateSafe r faults (runAbort rec sch)
      (fun now s' => now.lifecycle ≠ .unsafeWritten → s'.2.listed = false) s :=
    fun rec s => runAbort_closed.mono fun _ _ h _ => h
  unfold convergeIntake
  split
  · exact lateSafe_throw
  split
  · exact habort rec s
  · refine lateSafe_then fun current s₁ => lateSafe_then fun ⟨attributed, seen⟩ s₂ => ?_
    dsimp only
    split
    · split
      · refine lateSafe_then fun ⟨result, rc⟩ s₃ => lateSafe_then fun _ s₄ => ?_
        exact fun hne => absurd rfl hne
      · refine lateSafe_then fun _ s₃ => ?_
        split <;> exact lateSafe_throw
    · split
      · refine lateSafe_then fun _ s₃ => ?_
        split <;> exact lateSafe_throw
      · exact lateSafe_then fun _ s₃ => habort _ s₃
  · next hpending hpreparing => exact absurd hlife (not_or.mpr ⟨hpreparing, hpending⟩)

theorem converged_late {sch : TableSchema} (hstart : s.2 = {}) :
    lateSafe r faults (converged r rec sch)
      (fun now s' => s'.2.spooled = false ∧
        (now.lifecycle ≠ .unsafeWritten → s'.2.listed = false)) s := by
  unfold converged
  split
  · next hlife =>
    have hspooled : lateSafe r faults (convergeIntake r rec sch)
        (fun _ s' => s'.2.spooled = false) s :=
      lateSafe_of_uses (I := fun m => m.spooled = false) convergeIntake_unspooled
        Watch.see_spooled (by rw [hstart])
    refine wp.mono (hspooled.and (convergeIntake_closed hlife)) fun res s' h => ?_
    cases res with
    | ok now => exact h
    | error e => trivial
  · exact ⟨by rw [hstart], fun _ => by rw [hstart]⟩

theorem resolveEnvelopeSchema_late (env : StatementEnvelope) :
    lateSafe r faults (resolveEnvelopeSchema r env)
      (fun sch s' => sch = r.schemas env.targetTableID ∧ s'.2 = s.2) s := by
  refine lateSafe_bind (lateSafe_mapError (lateSafe_query (fun _ b => b = r.schemas env.targetTableID)
    (fun a w => ⟨_, rfl, rfl⟩) fun s₁ sch hr hsch => ?_))
  dsimp only
  split
  · exact lateSafe_throw
  · exact ⟨hsch, hr.watch⟩

theorem prepareLocalStatement_late {req : PrepareRequest} {payload : List UInt8} (hstart : s.2 = {}) :
    lateSafe r faults (prepareLocalStatement r req payload)
      (fun result s' => s'.2.spooled = true → ∃ rec ps, Accepted r s'.1 result rec ps) s := by
  have hfresh : ∀ {encoding revision} {s₁ : World × Watch}, s₁.2.listed = false →
      lateSafe r faults
        (prepareFresh r req encoding revision (r.schemas req.envelope.targetTableID) payload)
        (fun result s' => s'.2.spooled = true → ∃ rec ps, Accepted r s'.1 result rec ps) s₁ :=
    fun hclosed => (prepareFresh_late hclosed).mono fun _ _ h _ => h
  have hadmitted : ∀ {s₁ : World × Watch}, s₁.2 = {} → lateSafe r faults
      (call (.requireAdmissible req.envelope.targetTableID req.envelope.schemaHash))
      (fun _ s' => s'.2 = {}) s₁ := fun h =>
    lateSafe_query (fun _ _ => True) (fun a w => ⟨_, rfl, trivial⟩) fun s₂ _ hr _ => hr.watch.trans h
  refine lateSafe_bind (lateSafe_fromExcept fun ⟨encoding, revision⟩ _ => ?_)
  refine lateSafe_bind (lateSafe_mapError ((loadRecord_late _).mono fun found s₁ hr₁ => ?_))
  have h₁ := hr₁.watch.trans hstart
  cases found with
  | none =>
    refine lateSafe_bind ((hadmitted h₁).mono fun _ s₂ h₂ => ?_)
    refine lateSafe_bind ((resolveEnvelopeSchema_late _).mono fun sch s₃ ⟨hsch, h₃⟩ => ?_)
    subst hsch
    exact hfresh (by rw [h₃, h₂])
  | some rec =>
    have hrest : ∀ s₂ : World × Watch, s₂.2 = {} → lateSafe r faults (do
        let sch ← resolveEnvelopeSchema r req.envelope
        fromExcept (validateReplayRequest rec req payload)
        let now ← converged r rec sch
        if now.lifecycle = .unsafeWritten ∨ now.lifecycle = .rcBound then
          fromExcept (preparedResult req.envelope.statementID.flat now)
        else prepareFresh r req encoding revision sch payload)
        (fun result s' => s'.2.spooled = true → ∃ rec ps, Accepted r s'.1 result rec ps) s₂ := by
      intro s₂ h₂
      refine lateSafe_bind ((resolveEnvelopeSchema_late _).mono fun sch s₃ ⟨hsch, h₃⟩ => ?_)
      subst hsch
      refine lateSafe_bind (lateSafe_fromExcept fun _ _ => ?_)
      refine lateSafe_bind ((converged_late (h₃.trans h₂)).mono fun now s₄ ⟨hspooled, hclosed⟩ => ?_)
      split
      · exact lateSafe_fromExcept fun _ _ hspool => nomatch hspooled.symm.trans hspool
      · next hlife => exact hfresh (hclosed fun h => hlife (.inl h))
    dsimp only
    split
    · exact lateSafe_bind ((hadmitted h₁).mono fun _ s₂ h₂ => hrest s₂ h₂)
    · exact hrest s₁ h₁

/-- The prepares of a node whose failed INSERTs land outside the listings. -/
def lateOutline (r : Role) (faults : Faults) :
    Outline (lateSystem r faults Watch.Closed) where
  contract _ := lateContract
  post _ := onResult
    (fun result s => s.2.spooled = true → ∃ rec ps, Accepted r s.1 result rec ps) fun _ _ => True
  inv _ := True
  rely_refl _ := LateRely.refl
  rely_trans _ _ _ _ := LateRely.trans
  post_stable _ res s s' hr h := by
    cases res with
    | error e => trivial
    | ok result =>
      intro hspooled
      obtain ⟨rec, ps, hacc⟩ := h (hr.watch ▸ hspooled)
      exact ⟨rec, ps, hacc.rely hr⟩
  start_wp _ s p _ hstart := by
    obtain ⟨hidle, req, payload, rfl⟩ := hstart
    exact prepareLocalStatement_late hidle
  guar_rely i j hne := absurd (Subsingleton.elim i j).symm hne
  env_rely _ _ _ _ henv := henv.2.1.rely henv.1 henv.2.2
  guar_inv _ _ _ _ _ := trivial
  env_inv _ _ _ _ := trivial
  crash_inv _ _ := trivial
  leave_rely i j hne := absurd (Subsingleton.elim i j).symm hne
  leave_inv _ _ _ := trivial

/-- In every run of prepares in which failed INSERTs land only while no prepare is
    between its listings: a prepare that takes the fresh path and succeeds returns
    candidates that `convergeIntake` would accept. -/
theorem fresh_prepare_accepted (r : Role) (faults : Faults)
    {c : Config Op (World × Watch) Unit (Except GoError PreparedLocalResult)}
    (h : Reach (lateSystem r faults Watch.Closed) Unwatched c) {result : PreparedLocalResult}
    (hret : c.thread () = some (.ret (.ok result))) (hfresh : c.world.2.spooled = true) :
    ∃ rec ps, Accepted r c.world.1 result rec ps :=
  (h.outlined (lateOutline r faults) fun _ _ => trivial).meets () _ hret hfresh

namespace SmallNode

/-- The outcomes of a prepare whose INSERT fails. -/
def failedAnswers : List Answer := List.replicate 7 .ok ++ [{ err := some (errorf "timeout") }]

/-- The world after a prepare whose INSERT failed. -/
def interrupted : World :=
  letI := gate
  match (machine role atomicWrites).replay
      (prepareLocalStatement role (request "a") payload).run failedAnswers (world .empty) with
  | some (_, w) => w
  | none => world .empty

/-- The world in which the next prepare has listed hg_unsafe once. -/
def listedOnce : World :=
  letI := gate
  match (machine role atomicWrites).replay
      (prepareLocalStatement role (request "b") payload).run (List.replicate 7 .ok) interrupted with
  | some (_, w) => w
  | none => interrupted

/-- The world after its rows have landed late. -/
def landedLate (w : World) : World :=
  letI := gate
  match w.inserted (role.schemas "t") [landedPart "u1" "a"] with
  | some w' => { w' with failed := [⟨"t", []⟩] }
  | none => w

omit [HouseGate] in
/-- The rows may land in a world without other parts. -/
theorem lateLanding_landedLate {w : World} (hfailed : w.failed = [⟨"t", (landedPart "u1" "a").content⟩])
    (hborn : w.born = []) (hparts : w.tables .hgUnsafe "t" = .empty) : letI := gate
    LateLanding role w (landedLate w) := by
  let _ := gate
  have hland : landable (role.schemas "t") (landedPart "u1" "a").content w.born
      [landedPart "u1" "a"] := hborn ▸ by decide
  obtain ⟨w', hins⟩ : ∃ w', w.inserted (role.schemas "t") [landedPart "u1" "a"] = some w' := by
    simp only [World.inserted, role, hparts]
    exact ⟨_, rfl⟩
  have hstep := LateLanding.land (r := role)
    (show w.failed = [] ++ ⟨"t", (landedPart "u1" "a").content⟩ :: [] from hfailed) hland hins
  simp only [landedLate, hins]
  exact hstep

end SmallNode

omit [HouseGate] in
open SmallNode in
/-- The INSERT of one statement fails, and its rows land between two prepares: the
    second prepare returns its own part only. -/
theorem fresh_prepare_accepted_landedBefore : letI := gate
    ∃ c, Reach (lateSystem role atomicWrites Watch.Closed) Unwatched c ∧
      c.world.1.born.length = 2 ∧ ∃ result, c.thread () = some (.ret (.ok result)) ∧
        ∃ rec ps, Accepted role c.world.1 result rec ps := by
  have hinit : Reach (lateSystem role atomicWrites Watch.Closed) Unwatched (.idle (world .empty, {})) :=
    .init _ rfl
  obtain ⟨a, m, hfail⟩ : ∃ a m, (lateSystem role atomicWrites Watch.Closed).machine.replay
      (prepareLocalStatement role (request "a") payload).run failedAnswers (world .empty, {}) =
        some (.ret a, interrupted, m) := ⟨_, _, rfl⟩
  have hidle := hinit.runs (i := ()) ⟨rfl, _, _, rfl⟩ hfail
  have hland := lateLanding_landedLate (w := interrupted) rfl rfl rfl
  have hlanded := hidle.step (.env (landedLate interrupted, {}) ⟨rfl, hland, rfl⟩)
  obtain ⟨result, w, hrun, hborn⟩ : ∃ result w, (lateSystem role atomicWrites Watch.Closed).machine.replay
      (prepareLocalStatement role (request "b") payload).run (prepareAnswers [landedPart "u2" "b"])
        (landedLate interrupted, {}) = some (.ret (.ok result), w, ⟨false, true⟩) ∧
          w.born.length = 2 := ⟨_, _, rfl, rfl⟩
  have hstart := hlanded.step (.start () _ rfl ⟨rfl, request "b", payload, rfl⟩)
  have hreach := hstart.replay (Config.setThread_self _ () _) hrun
  refine ⟨_, hreach, hborn, result, by simp, ?_⟩
  exact fresh_prepare_accepted role atomicWrites hreach (by simp) rfl

omit [HouseGate] in
open SmallNode in
/-- The rows land between the listings of the second prepare instead: it returns the
    part of the first statement among its candidates. -/
theorem fresh_prepare_takes_foreign_part : letI := gate
    ∃ c, Reach (lateSystem role atomicWrites fun _ => True) Unwatched c ∧
      ∃ result, c.thread () = some (.ret (.ok result)) ∧ c.world.2.spooled = true ∧
        ∃ rec, c.world.1.journal.lookup result.statementID = some rec ∧
          ∃ cand ∈ result.candidateParts, ∃ p ∈ c.world.1.parts .hgUnsafe rec.table,
            p.name = cand.partName ∧ ∃ row ∈ p.content, row.rowID ∉ rec.derived role := by
  have hinit : Reach (lateSystem role atomicWrites fun _ => True) Unwatched
      (.idle (world .empty, {})) := .init _ rfl
  obtain ⟨a, m, hfail⟩ : ∃ a m, (lateSystem role atomicWrites fun _ => True).machine.replay
      (prepareLocalStatement role (request "a") payload).run failedAnswers (world .empty, {}) =
        some (.ret a, interrupted, m) := ⟨_, _, rfl⟩
  have hidle := hinit.runs (i := ()) ⟨rfl, _, _, rfl⟩ hfail
  have hstart := hidle.step (.start () _ rfl ⟨rfl, request "b", payload, rfl⟩)
  -- the second prepare has listed hg_unsafe and is about to INSERT
  obtain ⟨q, hopen, result, w, hrun, rec, hlook, hforeign⟩ : ∃ q,
      (lateSystem role atomicWrites fun _ => True).machine.replay
        (prepareLocalStatement role (request "b") payload).run (List.replicate 7 .ok)
          (interrupted, {}) = some (q, listedOnce, ⟨true, true⟩) ∧ ∃ result w,
      (lateSystem role atomicWrites fun _ => True).machine.replay q
        ({ landed := [landedPart "u2" "b"] } :: List.replicate 7 .ok)
          (landedLate listedOnce, ⟨true, true⟩) = some (.ret (.ok result), w, ⟨false, true⟩) ∧
      ∃ rec, w.journal.lookup result.statementID = some rec ∧
        (result.candidateParts.map (·.partName), w.parts .hgUnsafe rec.table, rec.derived role) =
          (["u1", "u2"], [landedPart "u1" "a", landedPart "u2" "b"],
            (landedPart "u2" "b").content.map (·.rowID)) :=
    ⟨_, rfl, _, _, rfl, _, rfl, rfl⟩
  obtain ⟨hnames, hparts, hderived⟩ : result.candidateParts.map (·.partName) = ["u1", "u2"] ∧
      w.parts .hgUnsafe rec.table = [landedPart "u1" "a", landedPart "u2" "b"] ∧
      rec.derived role = (landedPart "u2" "b").content.map (·.rowID) := by
    simpa only [Prod.mk.injEq] using hforeign
  have hmid := hstart.replay (Config.setThread_self _ () _) hopen
  have hland := lateLanding_landedLate (w := listedOnce) rfl rfl rfl
  have hlanded := hmid.step (.env (landedLate listedOnce, ⟨true, true⟩) ⟨trivial, hland, rfl⟩)
  have hreach := hlanded.replay (i := ()) (p := q) (by simp) hrun
  obtain ⟨cand, hcand, hname⟩ : ∃ cand ∈ result.candidateParts, cand.partName = "u1" :=
    List.mem_map.mp (hnames ▸ List.mem_cons_self)
  refine ⟨_, hreach, result, by simp, rfl, rec, hlook, cand, hcand, landedPart "u1" "a", ?_, hname.symm,
    _, List.mem_cons_self, ?_⟩
  · exact hparts ▸ List.mem_cons_self
  · rw [hderived]
    decide

end ArbiterCore
