-- SUMMARY: The reconciler drops no replica that an unresolved block names.
import ArbiterCore.Consensus.UnsafeReconciler

/-!
# Drops of hg_member_unsafe replicas

A pass reads the ledger file once and drops later. Between the two the main process
may observe a block that names a replica which the pass is about to drop. The
result is for runs in which this does not happen; what a pass has found quiet then
stays quiet to its end.
-/

namespace ArbiterCore.Unsafe

open Conc Quiescence Registry

/-- The replica is one that a pass with this view may drop. -/
def unwanted (cfg : ReconcilerConfig) (snap : Snapshot) (t : QuiescentTable) : Bool :=
  snap.incarnations.any fun inc =>
    inc.key = t.tableID && inc.seq = t.incarnationSeq && !wanted cfg snap inc

/-- An observation that adds nothing finds its tables in the file; and none names a
    replica that a pass does not want which has read the file. -/
def cautious (cfg : ReconcilerConfig) (w : MemberWorld) (q : Quiescence.Ledger) (blockSeq : Nat)
    (tables : List QuiescentTable) : Bool :=
  onFile w.ledger q blockSeq tables &&
    tables.all fun t => w.pass.all fun snap => !unwanted cfg snap t

/-- What holds when a DROP is issued. -/
structure DropOK (cfg : ReconcilerConfig) (w : MemberWorld) (d : Drop) : Prop where
  /-- No unresolved block names the incarnation. -/
  quiet : ∀ blockSeq, ¬ Due blockSeq ⟨d.inc.key, d.inc.seq⟩ w.ledger.history
  known : d.inc ∈ d.view.incarnations
  name : d.name = chTableName d.inc.key
  /-- The table under that name is the replica of the incarnation. -/
  table : ∀ t ∈ w.tables, t.name = d.name →
    t.comment = incarnationComment d.inc.seq ∧ atPath cfg d.inc t = true
  unwanted : wanted cfg d.view d.inc = false

/-! ## Contracts -/

/-- Nothing that the running pass may drop became due. -/
def NoNewDue (cfg : ReconcilerConfig) (w w' : MemberWorld) : Prop :=
  ∀ snap, w.pass = some snap → ∀ t, unwanted cfg snap t = true →
    (∀ blockSeq, ¬ Due blockSeq t w.ledger.history) → ∀ blockSeq, ¬ Due blockSeq t w'.ledger.history

/-- A step of the main process. -/
structure MainStep (cfg : ReconcilerConfig) (call : Option Nat) (w w' : MemberWorld) : Prop where
  ledger : Quiescence.LedgerStep call w.ledger w'.ledger
  due : NoNewDue cfg w w'
  tables : w'.tables = w.tables
  pass : w'.pass = w.pass
  drops : w'.drops = w.drops

/-- A step of the reconciler. -/
structure ReconcilerStep (cfg : ReconcilerConfig) (w w' : MemberWorld) : Prop where
  ledger : w'.ledger = w.ledger
  names : (w.tables.map (·.name)).Nodup → (w'.tables.map (·.name)).Nodup
  drops : w'.drops = w.drops ∨ ∃ d, w'.drops = w.drops ++ [d] ∧ DropOK cfg w d

/-- What the main process leaves to the reconciler. -/
structure MainLeaves (cfg : ReconcilerConfig) (w w' : MemberWorld) : Prop where
  ledger : LedgerInv w.ledger → LedgerInv w'.ledger
  due : NoNewDue cfg w w'
  tables : w'.tables = w.tables
  pass : w'.pass = w.pass

variable {w w' : MemberWorld}

theorem MainStep.leaves {cfg : ReconcilerConfig} {call : Option Nat} (h : MainStep cfg call w w') :
    MainLeaves cfg w w' :=
  ⟨h.ledger.inv, h.due, h.tables, h.pass⟩

theorem MainLeaves.refl (cfg : ReconcilerConfig) (w : MemberWorld) : MainLeaves cfg w w :=
  ⟨fun h => h, fun _ _ _ _ h => h, rfl, rfl⟩

theorem MainLeaves.trans {cfg : ReconcilerConfig} {w'' : MemberWorld} (h : MainLeaves cfg w w')
    (h' : MainLeaves cfg w' w'') : MainLeaves cfg w w'' where
  ledger hi := h'.ledger (h.ledger hi)
  due snap hp t hu hq := h'.due snap (h.pass.trans hp) t hu (h.due snap hp t hu hq)
  tables := h'.tables.trans h.tables
  pass := h'.pass.trans h.pass

def reconcilerContract (cfg : ReconcilerConfig) : Contract MemberWorld :=
  ⟨MainLeaves cfg, ReconcilerStep cfg⟩

/-! ## Operations of the main process -/

section Main

variable {cfg : ReconcilerConfig} {α : Type}

/-- A ledger operation under a stricter condition is one under a weaker. -/
theorem LedgerOp.run_mono {may may' : LedgerWorld → Quiescence.Ledger → Nat → List QuiescentTable → Bool}
    {β : Type} {op : LedgerOp β} {a : LedgerAnswer} {w : LedgerWorld} {r : β × LedgerWorld}
    (h : ∀ q blockSeq tables, may w q blockSeq tables = true → may' w q blockSeq tables = true)
    (hrun : op.run may a w = some r) : op.run may' a w = some r := by
  cases op with
  | observe blockSeq tables =>
    cases a with
    | write o =>
      simp only [LedgerOp.run] at hrun ⊢
      split at hrun
      · split at hrun
        · next hmay => rwa [if_pos (h _ _ _ hmay)]
        · cases hrun
      · cases hrun
    | _ => cases hrun
  | getBlockVerification call blockSeq nodeID =>
    cases a with
    | verification r => cases r <;> exact hrun
    | _ => cases hrun
  | copy | ctxErr | update => cases a <;> exact hrun

/-- What an operation makes due was named by an observation that it was. -/
theorem LedgerOp.run_due {may : LedgerWorld → Quiescence.Ledger → Nat → List QuiescentTable → Bool}
    {β : Type} {op : LedgerOp β} {a : LedgerAnswer} {w w' : LedgerWorld} {b : β} {seq : Nat}
    {t : QuiescentTable} (hrun : op.run may a w = some (b, w')) (hdue : Due seq t w'.history) :
    Due seq t w.history ∨ ∃ q blockSeq tables, may w q blockSeq tables = true ∧ t ∈ tables := by
  cases op with
  | observe blockSeq tables =>
    cases a with
    | write o =>
      simp only [LedgerOp.run] at hrun
      split at hrun
      · next q hq =>
        split at hrun
        · next hmay =>
          have hw' : (w.observe q blockSeq tables o).2 = w' :=
            congrArg Prod.snd (Option.some.inj hrun)
          rcases w.observe_cases q blockSeq tables o with ⟨e, heq⟩ | ⟨e, heq⟩ | heq | ⟨-, heq⟩
          all_goals
            rw [heq] at hw'
            subst hw'
          · exact .inl hdue
          · exact .inl hdue
          · exact hdue.symm.imp_right fun h => ⟨q, blockSeq, tables, hmay, h.2⟩
          · exact hdue.symm.imp_right fun h => ⟨q, blockSeq, tables, hmay, h.2⟩
        · cases hrun
      · cases hrun
    | _ => cases hrun
  | copy call =>
    cases a with
    | here =>
      simp only [LedgerOp.run] at hrun
      split at hrun
      · cases hrun
        exact .inl hdue
      · cases hrun
    | _ => cases hrun
  | ctxErr =>
    cases a with
    | ctx r => cases hrun; exact .inl hdue
    | _ => cases hrun
  | getBlockVerification call blockSeq nodeID =>
    cases a with
    | verification r =>
      cases r with
      | ok bv => cases hrun; exact .inl hdue
      | error e => cases hrun; exact .inl hdue
    | _ => cases hrun
  | update call resolved observed =>
    cases a with
    | write o =>
      simp only [LedgerOp.run] at hrun
      split at hrun
      · cases o with
        | done => cases hrun; exact .inl (due_removals.mp hdue).2
        | failedBefore e => cases hrun; exact .inl hdue
        | failedAfter e => cases hrun; exact .inl (due_removals.mp hdue).2
      · cases hrun
    | _ => cases hrun

/-- A ledger operation of the main process acts on the ledger, and makes nothing
    due that a pass may drop. -/
theorem sem_ledger {β : Type} {op : LedgerOp β} {b : β}
    (hs : (memberMachine (cautious cfg)).sem (.inl op : MemberOp β) w b w') :
    (ledgerMachine onFile).sem op w.ledger b w'.ledger ∧ NoNewDue cfg w w' ∧
      w'.tables = w.tables ∧ w'.pass = w.pass ∧ w'.drops = w.drops := by
  obtain ⟨a, ha⟩ := hs
  cases a with
  | ledger a =>
    obtain ⟨⟨b', l⟩, hrun, heq⟩ := Option.map_eq_some_iff.mp ha
    cases heq
    refine ⟨⟨a, LedgerOp.run_mono (fun q seq tables h => ?_) hrun⟩, ?_, rfl, rfl, rfl⟩
    · exact (Bool.and_eq_true_iff.mp h).1
    intro snap hp t hu hq seq hdue
    rcases LedgerOp.run_due hrun hdue with hdue | ⟨q, blockSeq, tables, hmay, ht⟩
    · exact hq seq hdue
    · have hall := List.all_eq_true.mp (Bool.and_eq_true_iff.mp hmay).2 t ht
      simp [hp, hu] at hall
  | _ => cases ha

/-- The program of the ledger is one of the main process. -/
theorem wp_ledger {call : Option Nat} {R : LedgerWorld → LedgerWorld → Prop}
    {R' : MemberWorld → MemberWorld → Prop} {p : LedgerM α}
    {Q : α → LedgerWorld → Prop} {E : String → LedgerWorld → Prop}
    (hR : ∀ w w', R' w w' → R w.ledger w'.ledger)
    (h : wpE (ledgerMachine onFile) ⟨R, Quiescence.LedgerStep call⟩ p Q E w.ledger) :
    wp (memberMachine (cautious cfg)) ⟨R', MainStep cfg call⟩ (embed .inl p : MemberM α).run
      (fun a w => onResult Q E a w.ledger) w :=
  wp_embed MemberWorld.ledger hR (fun op w b w' hs => by
    obtain ⟨hop, hdue, htables, hpass, hdrops⟩ := sem_ledger hs
    exact ⟨hop, fun hg => ⟨hg, hdue, htables, hpass, hdrops⟩⟩) h

theorem MainStep.idle {call : Option Nat} : MainStep cfg call w w :=
  ⟨.idle, fun _ _ _ _ h => h, rfl, rfl, rfl⟩

/-- A program of the verify role takes steps of the main process only. -/
def VerifySafe (cfg : ReconcilerConfig) {α : Type} (p : MemberM α) : Prop :=
  ∀ w, wpE (memberMachine (cautious cfg)) ⟨fun _ _ => True, MainStep cfg none⟩ p
    (fun _ _ => True) (fun _ _ => True) w

theorem VerifySafe.bind {α β : Type} {p : MemberM α} {f : α → MemberM β} (hp : VerifySafe cfg p)
    (hf : ∀ a, VerifySafe cfg (f a)) : VerifySafe cfg (p >>= f) :=
  fun w => wpE_bind.mpr ((hp w).mono (fun a w _ => hf a w) fun _ _ h => h)

theorem verifySafe_pure {a : α} : VerifySafe cfg (pure a) := fun _ => wpE_pure.mpr trivial

theorem verifySafe_throw {e : String} : VerifySafe cfg (throw e : MemberM α) :=
  fun _ => wpE_throw.mpr trivial

theorem verifySafe_fromExcept {r : Except String α} :
    VerifySafe cfg (fromExcept r : MemberM α) := fun _ => by cases r <;> trivial

theorem verifySafe_view : VerifySafe cfg (ask (.inr .view)) := by
  refine fun w => wpE_ask.mpr fun w₁ _ snap w₂ ⟨a, ha⟩ => ?_
  cases a with
  | view s => cases ha; exact ⟨.idle, trivial⟩
  | _ => cases ha

theorem verifySafe_evidence (what : Evidence) : VerifySafe cfg (call (.inr (.evidence what))) := by
  refine fun w => wpE_call.mpr fun w₁ _ r w₂ ⟨a, ha⟩ => ?_
  cases a with
  | evidence r' => cases ha; exact ⟨.idle, by cases r <;> trivial⟩
  | _ => cases ha

theorem verifySafe_observe (blockSeq : Nat) (tables : List QuiescentTable) :
    VerifySafe cfg (embed .inl (observe blockSeq tables)) := by
  intro w
  have hledger : wpE (ledgerMachine onFile) ⟨fun _ _ => True, Quiescence.LedgerStep none⟩
      (observe blockSeq tables) (fun _ _ => True) (fun _ _ => True) w.ledger := observe_safe
  refine (wp_ledger (fun _ _ _ => trivial) hledger).mono fun r w' h => ?_
  cases r <;> trivial

theorem handleReplayJob_safe (job : ReplayJob) : VerifySafe cfg (handleReplayJob job) := by
  have honTables : ∀ p : List QuiescentTable → MemberM Unit, (∀ tables, VerifySafe cfg (p tables)) →
      VerifySafe cfg (onJobTables job p) := by
    intro p hp
    unfold onJobTables
    dsimp only
    split
    · exact verifySafe_pure
    refine verifySafe_view.bind fun snap => ?_
    cases snap with
    | none => exact verifySafe_throw
    | some snap => exact verifySafe_fromExcept.bind hp
  have hready : VerifySafe cfg (tablesReady job) := by
    apply honTables
    intro tables
    induction tables with
    | nil => exact verifySafe_pure
    | cons t rest ih => exact (verifySafe_evidence _).bind fun _ => ih
  exact (honTables _ (verifySafe_observe _)).bind fun _ => hready.bind fun _ =>
    (verifySafe_evidence _).bind fun _ => verifySafe_evidence _

theorem handleScanRequest_safe : VerifySafe cfg handleScanRequest :=
  (verifySafe_evidence _).bind fun _ => verifySafe_evidence _

end Main

/-! ## A pass -/

/-- What a pass knows after it has read the ledger file and gone through the
    incarnations `visited`. -/
structure InPass (cfg : ReconcilerConfig) (snap : Snapshot)
    (ledger : Except String (List QuiescenceBlock)) (visited : List TableIncarnation)
    (byName : GoMap String LocalReplica) (w : MemberWorld) : Prop where
  pass : w.pass = some snap
  /-- What was quiet in the file is still. -/
  quiet : ∀ blocks, ledger = .ok blocks → ∀ t, unwanted cfg snap t = true →
    quiet blocks t.tableID t.incarnationSeq = true → ∀ blockSeq, ¬ Due blockSeq t w.ledger.history
  /-- A replica is as it was listed, or the pass has created it. -/
  tables : ∀ name l, byName.lookup name = some l →
    (∀ t ∈ w.tables, t.name = name → t = l) ∨
      ∃ inc ∈ visited, l.comment = incarnationComment inc.seq

section Pass

variable {cfg : ReconcilerConfig} {inc : TableIncarnation} {snap : Snapshot}
  {ledger : Except String (List QuiescenceBlock)}
  {visited : List TableIncarnation} {byName : GoMap String LocalReplica} {w w' : MemberWorld}

theorem InPass.leaves (h : InPass cfg snap ledger visited byName w) (hr : MainLeaves cfg w w') :
    InPass cfg snap ledger visited byName w' where
  pass := hr.pass.trans h.pass
  quiet blocks hb t hu hq := hr.due snap h.pass t hu (h.quiet blocks hb t hu hq)
  tables name l hl := by
    rw [hr.tables]
    exact h.tables name l hl

theorem InPass.visit (h : InPass cfg snap ledger visited byName w) (inc : TableIncarnation) :
    InPass cfg snap ledger (visited ++ [inc]) byName w where
  pass := h.pass
  quiet := h.quiet
  tables name l hl := (h.tables name l hl).imp_right fun ⟨inc', hinc', hc⟩ =>
    ⟨inc', List.mem_append_left _ hinc', hc⟩

variable {l : LocalReplica}

/-- A CREATE concerns its own name only. -/
theorem InPass.create (h : InPass cfg snap ledger visited byName w)
    (hnone : byName.lookup l.name = none) :
    InPass cfg snap ledger visited byName (w.createTable l) := by
  unfold MemberWorld.createTable
  split
  · exact h
  refine ⟨h.pass, h.quiet, fun name l' hl' => (h.tables name l' hl').imp_left fun hlisted t ht hn => ?_⟩
  rcases List.mem_append.mp ht with ht | ht
  · exact hlisted t ht hn
  · cases List.mem_singleton.mp ht
    rw [hn, hl'] at hnone
    cases hnone

/-- A DROP concerns its own name only. -/
theorem InPass.drop (h : InPass cfg snap ledger visited byName w) (name : String) :
    InPass cfg snap ledger visited byName (w.dropTable name) where
  pass := h.pass
  quiet := h.quiet
  tables name' l hl := (h.tables name' l hl).imp_left fun hlisted t ht =>
    hlisted t (List.mem_of_mem_filter ht)

theorem InPass.insert (h : InPass cfg snap ledger visited byName w)
    (hinc : inc ∈ visited) {name : String} (hl : l.comment = incarnationComment inc.seq) :
    InPass cfg snap ledger visited (byName.insert name l) w where
  pass := h.pass
  quiet := h.quiet
  tables name' l' hl' := by
    rw [GoMap.lookup_insert] at hl'
    split at hl'
    · cases hl'
      exact .inr ⟨inc, hinc, hl⟩
    · exact h.tables name' l' hl'

theorem InPass.erase (h : InPass cfg snap ledger visited byName w) (name : String) :
    InPass cfg snap ledger visited (byName.erase name) w where
  pass := h.pass
  quiet := h.quiet
  tables name' l' hl' := by
    rw [GoMap.lookup_erase] at hl'
    split at hl'
    · cases hl'
    · exact h.tables name' l' hl'

/-- Recording a DROP changes nothing that a pass knows. -/
theorem InPass.record (h : InPass cfg snap ledger visited byName w) (drops : List Drop) :
    InPass cfg snap ledger visited byName { w with drops := drops } :=
  ⟨h.pass, h.quiet, h.tables⟩

theorem names_createTable (w : MemberWorld) (l : LocalReplica)
    (h : (w.tables.map (·.name)).Nodup) : ((w.createTable l).tables.map (·.name)).Nodup := by
  unfold MemberWorld.createTable
  split
  · exact h
  · next hnew =>
    have hnot : l.name ∉ w.tables.map (·.name) := by simpa using hnew
    simpa [List.nodup_append] using ⟨h, fun t ht hn => hnot (List.mem_map.mpr ⟨t, ht, hn⟩)⟩

/-- The replica that a pass drops is that of the incarnation. -/
theorem InPass.dropOK (h : InPass cfg snap ledger visited byName w)
    (hinc : inc ∈ snap.incarnations) (hnew : inc ∉ visited) (hsub : visited ⊆ snap.incarnations)
    {blocks : List QuiescenceBlock} (hl : byName.lookup (chTableName inc.key) = some l)
    (hcomment : parseIncarnationComment l.comment = some inc.seq)
    (hpath : atPath cfg inc l = true) (hwanted : wanted cfg snap inc = false)
    (hledger : ledger = .ok blocks) (hquiet : Quiescence.quiet blocks inc.key inc.seq = true) :
    DropOK cfg w ⟨chTableName inc.key, inc, snap⟩ := by
  obtain ⟨hmark, -⟩ := parseIncarnationComment_eq_some.mp hcomment
  refine ⟨?_, hinc, rfl, ?_, hwanted⟩
  · apply h.quiet blocks hledger ⟨inc.key, inc.seq⟩ _ hquiet
    simp only [unwanted, List.any_eq_true]
    exact ⟨inc, hinc, by simp [hwanted]⟩
  intro t ht hname
  rcases h.tables _ l hl with hlisted | ⟨inc', hinc', hmark'⟩
  · rw [hlisted t ht hname]
    exact ⟨hmark, hpath⟩
  · -- the pass has not visited this incarnation before
    have hseq : inc'.seq = inc.seq := incarnationComment_inj (hmark'.symm.trans hmark)
    exact absurd (Snapshot.eq_of_seq (hsub hinc') hinc hseq ▸ hinc') hnew

/-- A step that drops nothing. -/
theorem reconcilerStep_quiet (hledger : w'.ledger = w.ledger) (hdrops : w'.drops = w.drops)
    (hnames : (w.tables.map (·.name)).Nodup → (w'.tables.map (·.name)).Nodup) :
    ReconcilerStep cfg w w' :=
  ⟨hledger, hnames, .inl hdrops⟩

theorem ReconcilerStep.refl (w : MemberWorld) : ReconcilerStep cfg w w := reconcilerStep_quiet rfl rfl id

theorem createTable_ledger (w : MemberWorld) (l : LocalReplica) :
    (w.createTable l).ledger = w.ledger ∧ (w.createTable l).drops = w.drops := by
  unfold MemberWorld.createTable
  split <;> exact ⟨rfl, rfl⟩

/-- A DROP, with what the pass knows after it. -/
theorem ReconcilerStep.dropped {d : Drop} (hok : DropOK cfg w d) :
    ReconcilerStep cfg w { w.dropTable d.name with drops := w.drops ++ [d] } :=
  ⟨rfl, fun h => h.sublist (List.Sublist.map _ List.filter_sublist), .inr ⟨d, rfl, hok⟩⟩

theorem InPass.dropped (h : InPass cfg snap ledger visited byName w) (d : Drop) :
    InPass cfg snap ledger visited byName { w.dropTable d.name with drops := w.drops ++ [d] } :=
  (h.drop d.name).record _

theorem reconcileOne_safe {createOK : Bool}
    (h : InPass cfg snap ledger visited byName w) (hinc : inc ∈ snap.incarnations)
    (hnew : inc ∉ visited) (hsub : visited ⊆ snap.incarnations) :
    wpE (memberMachine (cautious cfg)) (reconcilerContract cfg)
      (reconcileOne cfg snap createOK ledger inc byName)
      (fun res w' => InPass cfg snap ledger (visited ++ [inc]) res.1 w') (fun _ _ => True) w := by
  unfold reconcileOne
  dsimp only
  split
  · next hnone =>
    split
    · exact wpE_pure.mpr (h.visit inc)
    refine wpE_bind.mpr (wpE_ask.mpr fun w₁ hr stopped w₂ ⟨a, ha⟩ => ?_)
    have h₁ := h.leaves hr
    cases a with
    | here =>
      cases ha
      refine ⟨.refl _, ?_⟩
      split
      · exact wpE_pure.mpr (h₁.visit inc)
      refine wpE_bind.mpr (wpE_attempt.mpr (wpE_call.mpr fun w₃ hr₃ r w₄ ⟨a, ha⟩ => ?_))
      have h₃ := h₁.leaves hr₃
      have h₄ := h₃.create (l := replicaOf cfg inc) hnone
      have hcreate : ReconcilerStep cfg w₃ (w₃.createTable (replicaOf cfg inc)) :=
        reconcilerStep_quiet (createTable_ledger ..).1 (createTable_ledger ..).2
          (names_createTable w₃ _)
      cases a with
      | executed =>
        cases ha
        refine ⟨hcreate, wpE_pure.mpr ?_⟩
        exact (h₄.visit inc).insert (List.mem_append_right _ List.mem_cons_self) rfl
      | failed applied e =>
        cases applied with
        | false =>
          cases ha
          exact ⟨.refl _, wpE_pure.mpr (h₃.visit inc)⟩
        | true =>
          cases ha
          exact ⟨hcreate, wpE_pure.mpr (h₄.visit inc)⟩
      | replicaExists e =>
        cases ha
        have hsame := h₃.visit inc
        exact ⟨reconcilerStep_quiet rfl rfl id,
          wpE_pure.mpr ⟨hsame.pass, hsame.quiet, hsame.tables⟩⟩
      | _ => cases ha
    | _ => cases ha
  · next l hl =>
    by_cases hcomment : parseIncarnationComment l.comment = some inc.seq
    case neg =>
      rw [if_pos hcomment]
      exact wpE_pure.mpr (h.visit inc)
    by_cases hpath : atPath cfg inc l = true
    case neg =>
      rw [if_neg (not_not.mpr hcomment), if_pos hpath]
      exact wpE_pure.mpr (h.visit inc)
    by_cases hwanted : wanted cfg snap inc = true
    case pos =>
      rw [if_neg (not_not.mpr hcomment), if_neg (not_not.mpr hpath), if_pos hwanted]
      exact wpE_pure.mpr (h.visit inc)
    rw [if_neg (not_not.mpr hcomment), if_neg (not_not.mpr hpath), if_neg hwanted]
    cases ledger with
    | error e => exact wpE_pure.mpr (h.visit inc)
    | ok blocks =>
    by_cases hquiet : Quiescence.quiet blocks inc.key inc.seq = true
    case neg =>
      dsimp only
      rw [if_pos hquiet]
      exact wpE_pure.mpr (h.visit inc)
    dsimp only
    rw [if_neg (not_not.mpr hquiet)]
    refine wpE_bind.mpr (wpE_attempt.mpr (wpE_call.mpr fun w₁ hr r w₂ ⟨a, ha⟩ => ?_))
    have h₁ := h.leaves hr
    have hok : DropOK cfg w₁ ⟨chTableName inc.key, inc, snap⟩ :=
      h₁.dropOK hinc hnew hsub hl hcomment hpath (by simpa using hwanted) rfl hquiet
    cases a with
    | executed =>
      cases ha
      refine ⟨.dropped hok, wpE_pure.mpr ?_⟩
      exact ((h₁.dropped _).erase _).visit inc
    | failed applied e =>
      cases applied with
      | false =>
        cases ha
        exact ⟨⟨rfl, fun h => h, .inr ⟨_, rfl, hok⟩⟩, wpE_pure.mpr ((h₁.record _).visit inc)⟩
      | true =>
        cases ha
        refine ⟨.dropped hok, wpE_pure.mpr ?_⟩
        exact (h₁.dropped _).visit inc
    | _ => cases ha

/-- The loop over the incarnations keeps what the pass knows. -/
theorem reconcileAll_safe {createOK : Bool} (rest : List TableIncarnation) {errs : List String}
    (h : InPass cfg snap ledger visited byName w) (hall : snap.incarnations = visited ++ rest) :
    wpE (memberMachine (cautious cfg)) (reconcilerContract cfg)
      (reconcileAll cfg snap createOK ledger rest byName errs) (fun _ _ => True) (fun _ _ => True) w := by
  induction rest generalizing visited byName errs w with
  | nil => exact wpE_pure.mpr trivial
  | cons inc rest ih =>
    have hnodup : (visited ++ inc :: rest).Nodup := hall ▸ List.Nodup.of_map _ snap.seq_nodup
    have hinc : inc ∈ snap.incarnations := by simp [hall]
    have hnew : inc ∉ visited := fun hmem =>
      (List.nodup_append.mp hnodup).2.2 inc hmem inc List.mem_cons_self rfl
    have hsub : visited ⊆ snap.incarnations := by simp [hall]
    unfold reconcileAll
    refine wpE_bind.mpr ((reconcileOne_safe h hinc hnew hsub).mono (fun res w' h' => ?_) fun _ _ h => h)
    exact ih h' (by simp [hall])

/-- What is listed is what is there. -/
theorem lookup_byNameOf {found : List LocalReplica} {name : String}
    (h : (byNameOf found).lookup name = some l) : l ∈ found ∧ l.name = name := by
  unfold byNameOf at h
  have hfold : ∀ (ls : List LocalReplica) (m : GoMap String LocalReplica),
      (ls.foldl (fun m l => m.insert l.name l) m).lookup name = some l →
        (l ∈ ls ∧ l.name = name) ∨ m.lookup name = some l := by
    intro ls
    induction ls with
    | nil => exact fun m h => .inr h
    | cons l' ls ih =>
      intro m h
      rcases ih _ h with ⟨hmem, hname⟩ | hlook
      · exact .inl ⟨List.mem_cons_of_mem _ hmem, hname⟩
      rw [GoMap.lookup_insert] at hlook
      split at hlook
      · next hname =>
        cases hlook
        exact .inl ⟨List.mem_cons_self, hname.symm⟩
      · exact .inr hlook
  exact (hfold found .empty h).resolve_right (by simp)

/-- The names of the replicas are distinct, so the listed replica is the only one. -/
theorem listed_tables (hnames : (w.tables.map (·.name)).Nodup) {name : String}
    (h : (byNameOf w.tables).lookup name = some l) : ∀ t ∈ w.tables, t.name = name → t = l := by
  obtain ⟨hmem, hname⟩ := lookup_byNameOf h
  exact fun t ht hn => List.inj_on_of_nodup_map hnames ht hmem (hn.trans hname.symm)

/-- What the ledger file does not list is not due. -/
theorem not_due_of_quiet {l : LedgerWorld} (hinv : LedgerInv l) {blocks : List QuiescenceBlock}
    (hread : readQuiescence l.file = .ok blocks) {t : QuiescentTable}
    (hq : Quiescence.quiet blocks t.tableID t.incarnationSeq = true) (blockSeq : Nat) :
    ¬ Due blockSeq t l.history := by
  intro hdue
  obtain ⟨b, hb, -, ht⟩ := hinv.file blockSeq t hdue
  rw [← readQuiescence_ok hread] at hb
  have := List.all_eq_true.mp hq b hb
  simp [ht] at this

theorem createAllowed_safe {P : MemberWorld → Prop} (hP : ∀ w w', MainLeaves cfg w w' → P w → P w')
    (h : P w) :
    wpE (memberMachine (cautious cfg)) (reconcilerContract cfg) (createAllowed cfg snap)
      (fun _ w' => P w') (fun _ _ => True) w := by
  unfold createAllowed
  split
  · refine wpE_bind.mpr (wpE_mapError.mpr (wpE_call.mpr fun w₁ hr r w₂ ⟨a, ha⟩ => ?_))
    cases a with
    | nodes r' =>
      cases ha
      refine ⟨.refl _, ?_⟩
      cases r with
      | ok nodes => exact wpE_pure.mpr (hP w w₁ hr h)
      | error e => trivial
    | _ => cases ha
  · exact wpE_pure.mpr h

theorem reconcile_safe (hinv : LedgerInv w.ledger) (hnames : (w.tables.map (·.name)).Nodup) :
    wpE (memberMachine (cautious cfg)) (reconcilerContract cfg) (reconcile cfg) (fun _ _ => True)
      (fun _ _ => True) w := by
  unfold reconcile
  refine wpE_bind.mpr (wpE_ask.mpr fun w₁ hr snap w₂ ⟨a, ha⟩ => ?_)
  cases a with
  | view s =>
    cases ha
    refine ⟨.refl _, ?_⟩
    cases snap with
    | none => exact wpE_pure.mpr trivial
    | some snap =>
      refine wpE_bind.mpr (wpE_call.mpr fun w₃ hr₃ r w₄ ⟨a, ha⟩ => ?_)
      have hleaves := hr.trans hr₃
      cases a with
      | listed failure =>
        cases ha
        refine ⟨.refl _, ?_⟩
        cases failure with
        | some e => trivial
        | none =>
          -- the pass knows its listing, and the invariant of the ledger
          let P := fun w' : MemberWorld => LedgerInv w'.ledger ∧ w'.tables = w₃.tables
          have hP : P w₃ := ⟨hleaves.ledger hinv, rfl⟩
          refine wpE_bind.mpr ((createAllowed_safe (P := P) (fun w w' hr h =>
            ⟨hr.ledger h.1, hr.tables.trans h.2⟩) hP).mono (fun createOK w₅ h₅ => ?_) fun _ _ h => h)
          refine wpE_bind.mpr (wpE_ask.mpr fun w₆ hr₆ ledger w₇ ⟨a, ha⟩ => ?_)
          cases a with
          | file failure =>
            cases ha
            refine ⟨reconcilerStep_quiet rfl rfl id, ?_⟩
            have hin : InPass cfg snap (orFail (readQuiescence w₆.ledger.file) failure) []
                (byNameOf w₃.tables) { w₆ with pass := some snap } := {
              pass := rfl
              quiet := by
                intro blocks hread t _ hq
                cases failure with
                | some e => cases hread
                | none => exact not_due_of_quiet (hr₆.ledger h₅.1) hread hq
              tables := by
                intro name l hl
                left
                have hsame : w₆.tables = w₃.tables := hr₆.tables.trans h₅.2
                have hnames₃ : (w₃.tables.map (·.name)).Nodup := hleaves.tables ▸ hnames
                simpa only [hsame] using listed_tables hnames₃ hl }
            refine wpE_bind.mpr ((reconcileAll_safe _ hin rfl).mono (fun errs w₈ _ => ?_) fun _ _ h => h)
            split
            · exact wpE_pure.mpr trivial
            · exact wpE_throw.mpr trivial
          | _ => cases ha
      | _ => cases ha
  | _ => cases ha

end Pass

/-! ## Whole runs -/

structure MemberInv (w : MemberWorld) : Prop where
  ledger : LedgerInv w.ledger
  names : (w.tables.map (·.name)).Nodup

def MemberSlot.call : MemberSlot → Option Nat
  | .resolve n => some n
  | _ => none

/-- The contract of a slot. -/
def memberContract (cfg : ReconcilerConfig) : MemberSlot → Contract MemberWorld
  | .reconciler => reconcilerContract cfg
  | i => ⟨fun w w' => ∀ n ∈ i.call, LedgerRely n w.ledger w'.ledger, MainStep cfg i.call⟩

theorem MemberInv.guar {cfg : ReconcilerConfig} {i : MemberSlot} (h : MemberInv w)
    (hg : (memberContract cfg i).guar w w') : MemberInv w' := by
  cases i with
  | reconciler => exact ⟨hg.ledger ▸ h.ledger, hg.names h.names⟩
  | verify n => exact ⟨hg.ledger.inv h.ledger, hg.tables ▸ h.names⟩
  | resolve n => exact ⟨hg.ledger.inv h.ledger, hg.tables ▸ h.names⟩

/-- A step of one slot is one that the others rely on. -/
theorem guar_rely {cfg : ReconcilerConfig} {i j : MemberSlot} (hij : j ≠ i)
    (hg : (memberContract cfg i).guar w w') : (memberContract cfg j).rely w w' := by
  cases i with
  | reconciler =>
    cases j with
    | reconciler => exact absurd rfl hij
    | verify m => exact nofun
    | resolve m => exact fun n _ => hg.ledger ▸ .refl n w.ledger
  | verify m =>
    cases j with
    | reconciler => exact hg.leaves
    | verify k => exact nofun
    | resolve k => exact fun n _ => hg.ledger.rely nofun
  | resolve m =>
    cases j with
    | reconciler => exact hg.leaves
    | verify k => exact nofun
    | resolve k =>
      rintro n ⟨rfl⟩
      apply hg.ledger.rely
      rintro ⟨rfl⟩
      exact hij rfl

def memberOutline (cfg : ReconcilerConfig) : Outline (memberSystem cfg (cautious cfg)) where
  contract := memberContract cfg
  post _ _ _ := True
  inv := MemberInv
  rely_refl i w := by
    cases i with
    | reconciler => exact .refl cfg w
    | verify m => exact nofun
    | resolve m => exact fun n _ => .refl n w.ledger
  rely_trans i w w' w'' h h' := by
    cases i with
    | reconciler => exact MainLeaves.trans h h'
    | verify m => exact nofun
    | resolve m => exact fun n hn => (h n hn).trans (h' n hn)
  post_stable _ _ _ _ _ _ := trivial
  start_wp i w p hinv hp := by
    cases i with
    | verify n =>
      have hsafe : ∀ q : MemberM Unit, VerifySafe cfg q → wp (memberMachine (cautious cfg))
          (memberContract cfg (.verify n)) q.run (fun _ _ => True) w := fun q hq =>
        wp.mono (wp.weaken (hq w) (fun _ _ _ => trivial) fun _ _ h => h) fun _ _ _ => trivial
      rcases hp with ⟨job, rfl⟩ | rfl
      · exact hsafe _ (handleReplayJob_safe job)
      · exact hsafe _ handleScanRequest_safe
    | resolve n =>
      cases hp
      have hledger : wpE (ledgerMachine onFile) (resolveContract n) (resolve n cfg.nodeID) _ _ w.ledger :=
        resolve_safe hinv.ledger.given
      exact wp.mono (wp_ledger (fun w w' hr => hr n rfl) hledger) fun _ _ _ => trivial
    | reconciler =>
      cases hp
      exact wp.mono (reconcile_safe hinv.ledger hinv.names) fun _ _ _ => trivial
  guar_rely i j hij w w' _ hg := guar_rely hij hg
  env_rely _ _ _ _ henv := henv.elim
  guar_inv i w w' hinv hg := hinv.guar hg
  env_inv _ _ _ henv := henv.elim
  crash_inv w hinv := ⟨hinv.ledger.restart, hinv.names⟩
  leave_rely i j hij w _ := by
    cases j with
    | reconciler =>
      cases i with
      | reconciler => exact absurd rfl hij
      | verify m => exact .refl cfg w
      | resolve m => exact .refl cfg w
    | verify m => exact nofun
    | resolve m =>
      intro n _
      cases i <;> exact .refl n w.ledger
  leave_inv i w hinv := by
    cases i <;> exact ⟨hinv.ledger, hinv.names⟩

/-- In a run without an observation that names a replica which a pass in progress
    does not want, every DROP is of the replica of a known incarnation that is not
    wanted and that no unresolved block names. -/
theorem drops_are_quiet (cfg : ReconcilerConfig)
    {c c' : Config MemberOp MemberWorld MemberSlot (Except String Unit)}
    (hc : Reach (memberSystem cfg (cautious cfg)) MemberStart c)
    (hs : Step (memberSystem cfg (cautious cfg)) c c') {d : Drop}
    (hd : c'.world.drops = c.world.drops ++ [d]) : DropOK cfg c.world d := by
  have ho := hc.outlined (memberOutline cfg) fun w h => ⟨ledgerInv_fresh h.1, h.2.1⟩
  have hsame : ¬ c'.world.drops = c.world.drops := by simp [hd]
  rcases ho.moves hs with heq | ⟨i, hg⟩ | henv | heq | ⟨i, heq⟩
  · exact absurd (congrArg MemberWorld.drops heq) hsame
  · cases i with
    | reconciler =>
      rcases hg.drops with hdrops | ⟨d', hdrops, hok⟩
      · exact absurd hdrops hsame
      · have hdd : d = d' := by simpa using hd.symm.trans hdrops
        exact hdd ▸ hok
    | verify n => exact absurd hg.drops hsame
    | resolve n => exact absurd hg.drops hsame
  · exact henv.elim
  · exact absurd (congrArg MemberWorld.drops heq) hsame
  · refine absurd ((congrArg MemberWorld.drops heq).trans ?_) hsame
    cases i <;> rfl

/-! ### Runs -/

namespace Purging

def cfg : ReconcilerConfig := ⟨"m", 1, false⟩

/-- The table db.t is being purged. -/
def inc : TableIncarnation := ⟨1, "db", "t", .chain, .purging, [], none, false⟩

def view : Snapshot := ⟨0, [inc], [], [], none, rfl⟩

def start : MemberWorld := ⟨⟨none, some ⟨[], .empty⟩, 0, []⟩, [replicaOf cfg inc], [], none, []⟩

/-- The pass has read the ledger file, and is about to drop. -/
def listed : MemberWorld := { start with pass := some view }

/-- Block 7 was observed. -/
def observed : MemberWorld :=
  { listed with
    ledger := ⟨some (fileOf [⟨7, [⟨"db.t", 1⟩]⟩]), some ⟨[⟨7, [⟨"db.t", 1⟩]⟩], GoMap.empty.insert 7 0⟩, 1,
      [.observed 7 [⟨"db.t", 1⟩], .attempted 7 [⟨"db.t", 1⟩]]⟩ }

def drop : Drop := ⟨"db__t", inc, view⟩

def job : ReplayJob := ⟨7, ["db.t"], []⟩

variable (may : MemberWorld → Quiescence.Ledger → Nat → List QuiescentTable → Bool)

/-- A pass reaches its DROP. -/
theorem pass_reaches_drop : ∃ k, (memberMachine may).replay (reconcile cfg).run
    [.view (some view), .listed none, .file none] start = some (.exec (.inr (.drop drop)) k, listed) :=
  ⟨_, rfl⟩

theorem reach_drop : ∃ c k, Reach (memberSystem cfg may) MemberStart c ∧ c.world = listed ∧
    c.thread .reconciler = some (.exec (.inr (.drop drop)) k) ∧ c.thread (.verify 0) = none := by
  obtain ⟨k, hk⟩ := pass_reaches_drop may
  have hinit : Reach (memberSystem cfg may) MemberStart (.idle start) :=
    .init start ⟨rfl, by simp [start], rfl, rfl⟩
  have hpass : (memberSystem cfg may).start .reconciler start (reconcile cfg).run := rfl
  have hstart := hinit.step (.start .reconciler _ rfl hpass)
  exact ⟨_, k, hstart.replay (Config.setThread_self ..) hk, rfl, Config.setThread_self .., rfl⟩

end Purging

open Purging in
/-- The DROP of a pass that found its replica quiet. -/
theorem drops_are_quiet_purging : ∃ c, Reach (memberSystem cfg (cautious cfg)) MemberStart c ∧
    DropOK cfg c.world drop := by
  obtain ⟨c, k, hc, hw, hthread, -⟩ := reach_drop (cautious cfg)
  refine ⟨c, hc, drops_are_quiet cfg hc (.exec .reconciler _ k (.ok ()) _ hthread ⟨.executed, rfl⟩) rfl⟩

open Purging in
/-- An observation after the pass has read the ledger file does not stop its DROP. -/
theorem drop_of_observed_replica :
    ∃ c c', Reach (memberSystem cfg fun _ _ _ _ => true) MemberStart c ∧
      Step (memberSystem cfg fun _ _ _ _ => true) c c' ∧ c'.world.drops = c.world.drops ++ [drop] ∧
        Due 7 ⟨drop.inc.key, drop.inc.seq⟩ c.world.ledger.history := by
  obtain ⟨c, k, hc, hw, hthread, hfree⟩ := reach_drop fun _ _ _ _ => true
  have hstart : (memberSystem cfg fun _ _ _ _ => true).start (.verify 0) c.world
      (handleReplayJob job).run := .inl ⟨job, rfl⟩
  have hjob := hc.step (.start (.verify 0) _ hfree hstart)
  obtain ⟨p, hp⟩ : ∃ p, (memberMachine fun _ _ _ _ => true).replay (handleReplayJob job).run
      [.view (some view), .ledger (.write .done)] listed = some (p, observed) := ⟨_, rfl⟩
  have hobserved := hjob.replay (Config.setThread_self ..) (hw ▸ hp)
  refine ⟨_, _, hobserved, .exec .reconciler (.inr (.drop drop)) k (.ok ()) _ ?_ ⟨.executed, rfl⟩, rfl, .inl ⟨rfl, ?_⟩⟩
  · simp [Config.setThread, Function.update_of_ne, hthread]
  · exact List.mem_cons_self

end ArbiterCore.Unsafe
