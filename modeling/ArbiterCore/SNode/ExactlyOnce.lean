-- SUMMARY: Every prepared statement is in hg_unsafe exactly once, whatever fails on the way.
import ArbiterCore.SNode.IntakeCalls
import Mathlib.Data.List.Flatten

/-!
# Intake exactly once

The intake calls run one at a time, with a failure possible at every operation
and a crash at any moment; promotions and cleanups run beside them. The journal
then tells the truth about hg_unsafe: a prepared record has every row of its
statement exactly once, and a cleaned one has none.
-/

namespace ArbiterCore

open Conc

variable [HouseGate]

/-! ## The system -/

omit [HouseGate] in
/-- What promotions, cleanups and the arbiter do beside the intake: hg_unsafe loses
    parts of accepted claims, to cleanups that name them. -/
structure BesideIntake (w w' : World) : Prop where
  journal : w'.journal = w.journal
  born : w'.born = w.born
  claims : w'.claims = w.claims
  aborted : w'.aborted = w.aborted
  dropped : w.dropped ⊆ w'.dropped
  parts : ∀ t, ∃ keep : StoredPart → Bool,
    w'.parts .hgUnsafe t = (w.parts .hgUnsafe t).filter keep ∧
      ∀ p ∈ w.parts .hgUnsafe t, keep p = false → w.Claimed t p.name ∧ w'.CleanedUp t p.name

omit [HouseGate] in
/-- A node that has taken in nothing yet. -/
structure IntakeFresh (w : World) : Prop where
  journal : w.journal = .empty
  parts : ∀ t, w.parts .hgUnsafe t = []
  born : w.born = []
  claims : w.claims = []
  aborted : w.aborted = []

/-- The intake of a node. -/
def intakeSystem (r : Role) (faults : Faults) :
    System Op World Unit (Except GoError IntakeReply) where
  machine := machine r faults
  start _ _ p := ∃ c : IntakeCall, p = (c.handler r).run
  env := BesideIntake
  crash := World.crash

variable {r : Role} {faults : Faults} {w w' : World}

/-- A claimed part does not belong to a statement that is being prepared. -/
theorem BesideIntake.rely (h : IntakeInv r w) (hb : BesideIntake w w') : IntakeRely r w w' := by
  refine { hb with parts := fun t => ?_ }
  obtain ⟨keep, hparts, hkeep⟩ := hb.parts t
  refine ⟨keep, hparts, fun p hp hk => ?_⟩
  obtain ⟨hclaimed, hup⟩ := hkeep p hp hk
  refine ⟨hclaimed, hup, fun id rec hlook hlife hpart => ?_⟩
  obtain ⟨rec', hlook', htable⟩ := h.known t p id (h.active t p hp) hpart
  cases Option.some.inj (hlook.symm.trans hlook')
  have hown : p ∈ w.ownOf r rec := by
    rw [World.ownOf, htable, (h.ids id rec hlook).1]
    exact World.mem_own.mpr ⟨hp, hpart⟩
  exact ((recordInv_preparing hlife).mp (h.records id rec hlook)).unclaimed p hown (htable ▸ hclaimed)

/-- Any call may register claims and abort. -/
def anyCall : Permit := ⟨True, fun _ _ => True⟩

theorem IntakeInv.of_fresh (h : IntakeFresh w) : IntakeInv r w where
  active t p hp := by simp [h.parts t] at hp
  names := by simp [h.born]
  nonempty := by simp [h.born]
  pure := by simp [h.born]
  ids := by simp [h.journal]
  decoded := by simp [h.journal]
  rcs := by simp [h.journal]
  claims := by simp [h.claims]
  records := by simp [h.journal]
  known := by simp [h.born]
  claimed := by simp [h.claims]
  aborted := by simp [h.aborted]

def intakeOutline (r : Role) (faults : Faults) : Outline (intakeSystem r faults) where
  contract _ := intakeSlot r faults anyCall
  post _ := onResult (fun reply w => reply.Sound w) (fun _ _ => True)
  inv := IntakeInv r
  rely_refl _ := IntakeRely.refl
  rely_trans _ _ _ _ := IntakeRely.trans
  post_stable _ res w w' hr h := by
    cases res with
    | error e => trivial
    | ok reply => exact IntakeReply.Sound.frame h hr.journal
  start_wp _ w p hinv hstart := by
    obtain ⟨c, rfl⟩ := hstart
    have hsafe : wpI (machine r faults) (intakeSlot r faults anyCall) (IntakeInv r) (c.handler r)
        (fun reply w' => reply.Sound w') w :=
      IntakeCall.handler_safe (fun _ => ⟨fun _ _ hr h => h.rely hr, fun _ _ hg h => hg.inv h⟩)
        (fun _ h => h.toIntakeBase) trivial c fun _ _ _ _ => trivial
    refine wp.mono (hsafe hinv) fun res w' h => ?_
    cases res with
    | ok reply => exact h.2
    | error e => trivial
  guar_rely i j hne := absurd (Subsingleton.elim i j).symm hne
  env_rely _ _ _ hinv henv := henv.rely hinv
  guar_inv _ _ _ hinv hg := by
    obtain ⟨id, hs⟩ := hg
    exact hs.inv hinv
  env_inv _ _ hinv henv := hinv.rely (henv.rely hinv)
  crash_inv _ hinv := hinv.frame
  leave_rely _ _ _ _ _ := .refl _
  leave_inv _ _ hinv := hinv

/-! ## What the journal tells -/

/-- The rows of a prepared statement are in hg_unsafe exactly once, in the
    candidate parts of its result, until a cleanup drops them. -/
structure ExactlyOnce (r : Role) (w : World) (rec : IntakeRecord) (result : PreparedLocalResult) :
    Prop where
  once : ∀ x ∈ rec.derived r, (rowIDs (w.parts .hgUnsafe rec.table)).count x = 1 ∨
    (rowIDs (w.parts .hgUnsafe rec.table)).count x = 0 ∧
      ∃ p, candidatePart r rec.table p ∈ result.candidateParts ∧ x ∈ p.content.map (·.rowID) ∧
        w.CleanedUp rec.table p.name
  holders : ∀ p ∈ w.parts .hgUnsafe rec.table,
    (∃ row ∈ p.content, row.rowID ∈ rec.derived r) ↔ p.name ∈ result.candidateParts.map (·.partName)
  present : ∀ c ∈ result.candidateParts,
    (∃ p ∈ w.parts .hgUnsafe rec.table, c = candidatePart r rec.table p) ∨
      w.CleanedUp rec.table c.partName

variable {rec : IntakeRecord} {result : PreparedLocalResult} {rc : RCRecord} {ps : List StoredPart}

/-- A part with a row of a statement is a part of the statement. -/
theorem IntakeBase.partOf (h : IntakeBase r w) {t t' id : String} {p : StoredPart}
    (hp : p ∈ w.parts .hgUnsafe t) {row : Row} (hrow : row ∈ p.content) (hof : RowOf r t' id row) :
    t = t' ∧ PartOf r t id p := by
  obtain ⟨id', hpart⟩ := h.pure t p (h.active t p hp)
  obtain ⟨rfl, rfl⟩ := (hpart row hrow).unique hof
  exact ⟨rfl, hpart⟩

theorem rowOf_of_derived {row : Row} (h : row.rowID ∈ rec.derived r) :
    RowOf r rec.table rec.statementID row := by
  obtain ⟨i, -, hi⟩ := List.mem_map.mp h
  exact ⟨i, hi.symm⟩

/-- A derived row id occurs in the statement's own parts only. -/
theorem count_rowIDs_own (h : IntakeBase r w) {x : String} (hx : x ∈ rec.derived r) :
    (rowIDs (w.parts .hgUnsafe rec.table)).count x = (rowIDs (w.ownOf r rec)).count x := by
  classical
  let mine : StoredPart → Bool := fun p => PartOf r rec.table rec.statementID p
  have hperm := List.filter_append_perm mine (w.parts .hgUnsafe rec.table)
  have hcount := (hperm.flatMap_right fun p => p.content.map (·.rowID)).count_eq x
  rw [List.flatMap_append, List.count_append] at hcount
  have hrest : (rowIDs ((w.parts .hgUnsafe rec.table).filter (! mine ·))).count x = 0 := by
    refine List.count_eq_zero.mpr fun hmem => ?_
    obtain ⟨p, hp, hxp⟩ := List.mem_flatMap.mp hmem
    obtain ⟨hact, hnot⟩ := List.mem_filter.mp hp
    obtain ⟨row, hrow, rfl⟩ := List.mem_map.mp hxp
    have hpart := (h.partOf hact hrow (rowOf_of_derived hx)).2
    simp [mine, hpart] at hnot
  have hown : rowIDs (w.ownOf r rec) = rowIDs ((w.parts .hgUnsafe rec.table).filter mine) := by
    unfold World.ownOf World.own
    congr!
  rw [hown]
  unfold rowIDs at hrest ⊢
  omega

theorem Written.exactlyOnce (h : IntakeBase r w) (hw : Written r w rec result rc ps) :
    ExactlyOnce r w rec result where
  once x hx := by
    rw [count_rowIDs_own h hx]
    have hnodup : (w.ownOf r rec).Nodup :=
      (w.parts_nodup .hgUnsafe rec.table).filter _
    obtain ⟨l, hperm, hsub⟩ := hnodup.subperm hw.own
    have hle : (rowIDs (w.ownOf r rec)).count x ≤ 1 := calc
      (rowIDs (w.ownOf r rec)).count x = (rowIDs l).count x :=
        ((hperm.flatMap_right _).count_eq x).symm
      _ ≤ (rowIDs ps).count x := (hsub.flatMap _).count_le x
      _ = (rec.derived r).count x := hw.ids.count_eq x
      _ ≤ 1 := List.nodup_iff_count_le_one.mp (derivedRowIDs_nodup ..) x
    rcases Nat.le_one_iff_eq_zero_or_eq_one.mp hle with hzero | hone
    · refine .inr ⟨hzero, ?_⟩
      obtain ⟨p, hp, hxp⟩ := List.mem_flatMap.mp (hw.ids.mem_iff.mpr hx)
      refine ⟨p, hw.candidates ▸ List.mem_map_of_mem hp, hxp, ?_⟩
      refine (hw.active p hp).resolve_left fun hown => ?_
      exact List.count_eq_zero.mp hzero (List.mem_flatMap.mpr ⟨p, hown, hxp⟩)
    · exact .inl hone
  holders p hp := by
    rw [hw.candidates, List.map_map, List.mem_map]
    constructor
    · rintro ⟨row, hrow, hx⟩
      have hpart := (h.partOf hp hrow (rowOf_of_derived hx)).2
      exact ⟨p, hw.own p (World.mem_own.mpr ⟨hp, hpart⟩), rfl⟩
    · rintro ⟨q, hq, hname⟩
      obtain rfl := h.names _ p q (h.active _ p hp) (hw.born q hq) hname.symm
      obtain ⟨row, hrow⟩ := List.exists_mem_of_ne_nil _ (h.nonempty _ p (hw.born p hq))
      refine ⟨row, hrow, hw.ids.mem_iff.mp ?_⟩
      exact List.mem_flatMap.mpr ⟨p, hq, List.mem_map_of_mem hrow⟩
  present c hc := by
    rw [hw.candidates] at hc
    obtain ⟨p, hp, rfl⟩ := List.mem_map.mp hc
    refine (hw.active p hp).imp (fun hown => ?_) fun hup => hup
    exact ⟨p, (World.mem_own.mp hown).1, rfl⟩

/-- The intake call that is running is about to return the result. -/
def Returns (c : Config Op World Unit (Except GoError IntakeReply)) (result : PreparedLocalResult) :
    Prop :=
  c.thread () = some (.ret (.ok (.prepared result))) ∨
    c.thread () = some (.ret (.ok (.found (some result))))

/-- In every run of the intake, whatever fails or crashes: a prepared record and a
    returned result have every row of the statement in hg_unsafe exactly once, in
    the candidate parts; a cleaned record has none; an abort drops only parts of
    its own statement; and a bound record stays as it is for ever. The rows of a record
    are counted in a payload that has the length and the digest that its envelope signs. -/
theorem intake_exactly_once (r : Role) (faults : Faults)
    {c : Config Op World Unit (Except GoError IntakeReply)}
    (h : Reach (intakeSystem r faults) IntakeFresh c) :
    (∀ id rec, c.world.journal.lookup id = some rec → rec.Decoded r) ∧
    (∀ id rec, c.world.journal.lookup id = some rec →
      rec.lifecycle = .unsafeWritten ∨ rec.lifecycle = .rcBound →
        ∃ result, rec.result = some result ∧ ExactlyOnce r c.world rec result) ∧
    (∀ result, Returns c result → ∃ rec, c.world.journal.lookup result.statementID = some rec ∧
      rec.result = some result ∧ ExactlyOnce r c.world rec result) ∧
    (∀ id rec, c.world.journal.lookup id = some rec → rec.lifecycle = .cleaned →
      ∀ t, ∀ p ∈ c.world.parts .hgUnsafe t, ∀ row ∈ p.content, ¬ RowOf r rec.table id row) ∧
    (∀ d ∈ c.world.aborted, PartOf r d.table d.statementID d.part) ∧
    (∀ c', Relation.ReflTransGen (Step (intakeSystem r faults)) c c' → ∀ id rec,
      c.world.journal.lookup id = some rec → rec.lifecycle = .rcBound →
        c'.world.journal.lookup id = some rec) := by
  have hout := h.outlined (intakeOutline r faults) fun _ => IntakeInv.of_fresh
  have hinv : IntakeInv r c.world := hout.inv
  have hwritten : ∀ id rec, c.world.journal.lookup id = some rec →
      rec.lifecycle = .unsafeWritten ∨ rec.lifecycle = .rcBound →
        ∃ result, rec.result = some result ∧ result.statementID = id ∧
          ExactlyOnce r c.world rec result := by
    intro id rec hlook hlife
    obtain ⟨result, rc, ps, hw⟩ := (recordInv_written hlife).mp (hinv.records id rec hlook)
    exact ⟨result, hw.hasResult, hw.named.trans (hinv.ids id rec hlook).1,
      hw.exactlyOnce hinv.toIntakeBase⟩
  refine ⟨hinv.decoded, ?_, ?_, ?_, hinv.aborted, ?_⟩
  · intro id rec hlook hlife
    obtain ⟨result, hres, -, honce⟩ := hwritten id rec hlook hlife
    exact ⟨result, hres, honce⟩
  · intro result hret
    have hsound : ∃ id, Returned c.world id result := by
      rcases hret with hret | hret <;> exact hout.meets () _ hret
    obtain ⟨id, rec, hlook, hlife, hres⟩ := hsound
    obtain ⟨result', hres', rfl, honce⟩ := hwritten id rec hlook hlife
    cases Option.some.inj (hres.symm.trans hres')
    exact ⟨rec, hlook, hres, honce⟩
  · intro id rec hlook hlife t p hp row hrow hof
    obtain ⟨rfl, hpart⟩ := hinv.partOf hp hrow hof
    have hnil := (recordInv_cleaned hlife).mp (hinv.records id rec hlook)
    rw [World.ownOf, (hinv.ids id rec hlook).1] at hnil
    exact List.not_mem_nil (hnil ▸ World.mem_own.mpr ⟨hp, hpart⟩)
  · intro c' hrun id rec hlook hbound
    refine (hout.keeps (P := fun w => w.journal.lookup id = some rec) ?_ ?_ ?_ ?_ hrun hlook).2
    · rintro _ w w' _ ⟨_, hs⟩ hlook
      exact hs.rcBound hlook hbound
    · exact fun w w' _ henv hlook => henv.journal ▸ hlook
    · exact fun w hlook => hlook
    · exact fun _ w hlook => hlook

omit [HouseGate] in
open SmallNode in
/-- The prepare of one row ends with the row in hg_unsafe. -/
theorem intake_exactly_once_prepareOne : letI := gate
    ∃ c, Reach (intakeSystem role atomicWrites) IntakeFresh c ∧ ∃ rec result,
      c.world.journal.lookup "a:1:n" = some rec ∧ rec.lifecycle = .unsafeWritten ∧
        rec.result = some result ∧ rec.expectedRowCount = 1 ∧ rec.Decoded role ∧
          ExactlyOnce role c.world rec result := by
  have hinit : Reach (intakeSystem role atomicWrites) IntakeFresh (.idle (world .empty)) :=
    .init _ ⟨rfl, fun t => by simp [World.parts, world, Table.empty], rfl, rfl, rfl⟩
  obtain ⟨a, w, hrun, rec, hlook, hlife, hcount⟩ : ∃ a w, (intakeSystem role atomicWrites).machine.replay
      ((IntakeCall.prepare (request "a") payload).handler role).run
        (prepareAnswers [landedPart "u1" "a"]) (world .empty) = some (.ret a, w) ∧
      ∃ rec, w.journal.lookup "a:1:n" = some rec ∧ rec.lifecycle = .unsafeWritten ∧
        rec.expectedRowCount = 1 :=
    ⟨_, _, rfl, _, rfl, rfl, rfl⟩
  have hreach := hinit.runs (i := ()) ⟨_, rfl⟩ hrun
  obtain ⟨hdecoded, hwritten, -⟩ := intake_exactly_once role atomicWrites hreach
  obtain ⟨result, hresult, honce⟩ := hwritten "a:1:n" rec hlook (.inl hlife)
  exact ⟨_, hreach, rec, result, hlook, hlife, hresult, hcount, hdecoded "a:1:n" rec hlook, honce⟩

end ArbiterCore
