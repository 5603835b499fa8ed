-- SUMMARY: A pass of the table-set reconciler drops tables of retired incarnations only.
import ArbiterCore.Dataplane.TableSet

/-!
# What a pass drops

A DROP goes by the physical name and takes all three tables of it, whatever their
comments say. The result is for nodes on which no name that the pass may drop holds
a table of a live incarnation, or one that the registry does not know.
-/

namespace ArbiterCore.TableSet

open Conc Registry

/-! ## The world of a pass -/

/-- No code reads the history of dropped tables. -/
structure TablesWorld where
  tables : List LocalTable
  dropped : List LocalTable

/-- A statement that fails may have been executed (`applied`). -/
inductive TableSetAnswer where
  | flag (b : Bool)
  | executed
  | failed (applied : Bool) (e : ReconcileError)
  | listed (failure : Option ReconcileError)
  | result (r : Except ReconcileError Unit)
  | names (r : Except ReconcileError (List String))
  | roots (r : Except ReconcileError KeeperRoots)
  | quiet (r : Except ReconcileError Bool)

namespace TablesWorld

/-- DROP TABLE IF EXISTS. -/
def drop (w : TablesWorld) (db : ProtocolDB) (name : String) : TablesWorld :=
  let hit (t : LocalTable) : Bool := t.database = db ∧ t.table = name
  ⟨w.tables.filter (¬ hit ·), w.dropped ++ w.tables.filter hit⟩

/-- CREATE TABLE IF NOT EXISTS. -/
def create (w : TablesWorld) (t : LocalTable) : TablesWorld :=
  if w.tables.any fun t' => t'.database = t.database ∧ t'.table = t.table then w
  else { w with tables := w.tables ++ [t] }

end TablesWorld

def TableSetOp.run : {β : Type} → TableSetOp β → TableSetAnswer → TablesWorld → Option (β × TablesWorld)
  | _, .due _, .flag b, w => some (b, w)
  | _, .schema _, .result r, w => some (r, w)
  | _, .listProtocolTables, .listed none, w => some (.ok w.tables, w)
  | _, .listProtocolTables, .listed (some e), w => some (.error e, w)
  | _, .dropTable db name, .executed, w => some (.ok (), w.drop db name)
  | _, .dropTable db name, .failed applied e, w => some (.error e, if applied then w.drop db name else w)
  | _, .ensureDatabases, .result r, w => some (r, w)
  | _, .createTable db name comment, .executed, w => some (.ok (), w.create ⟨db, name, comment⟩)
  | _, .createTable db name comment, .failed applied e, w =>
    some (.error e, if applied then w.create ⟨db, name, comment⟩ else w)
  | _, .dropStaleReplica _ _, .result r, w => some (r, w)
  | _, .verifyTable _ _ _, .result r, w => some (r, w)
  | _, .keeperReplicas _ _, .names r, w => some (r, w)
  | _, .dropReplica _ _ _, .result r, w => some (r, w)
  | _, .listKeeperRoots, .roots r, w => some (r, w)
  | _, .purgeNodeSet, .names r, w => some (r, w)
  | _, .isOwed _, .flag b, w => some (b, w)
  | _, .notifyDropped _, .result r, w => some (r, w)
  | _, .quiescent _, .quiet r, w => some (r, w)
  | _, .submitTablePurged _, .result r, w => some (r, w)
  | _, _, _, _ => none

def tableSetMachine : Machine TableSetOp TablesWorld := ⟨TableSetAnswer, TableSetOp.run⟩

/-! ## Safe drops -/

/-- Purging, Purged, Refused or Legacy. -/
def isGone (inc : TableIncarnation) : Bool := ¬ isWanted inc

/-- The comment attributes the table to the incarnation. -/
def Attributes (t : LocalTable) (inc : TableIncarnation) : Prop :=
  t.comment = incarnationComment inc.seq ∨
    t.comment = "" ∧ inc.origin = .genesis ∧ physicalName inc = t.table

instance (t : LocalTable) (inc : TableIncarnation) : Decidable (Attributes t inc) :=
  inferInstanceAs (Decidable (_ ∨ _))

/-- The table belongs to an incarnation of its name that is gone, and to none that is
    Pending, Active or Retiring. -/
def DropSafe (snap : Snapshot) (t : LocalTable) : Prop :=
  (∃ inc ∈ snap.incarnations, Attributes t inc ∧ physicalName inc = t.table ∧ isGone inc = true) ∧
    ∀ inc ∈ snap.incarnations, Attributes t inc → isGone inc = true

instance (snap : Snapshot) (t : LocalTable) : Decidable (DropSafe snap t) :=
  inferInstanceAs (Decidable (_ ∧ _))

/-- All tables of the name may be dropped. -/
def AllGone (snap : Snapshot) (tables : List LocalTable) (name : String) : Prop :=
  ∀ t ∈ tables, t.table = name → DropSafe snap t

instance (snap : Snapshot) (tables : List LocalTable) (name : String) :
    Decidable (AllGone snap tables name) := inferInstanceAs (Decidable (∀ t ∈ tables, _ → _))

/-- The tables of a wanted chain incarnation are replaced: some are leftovers, and
    all the others carry its own comment. -/
def Replaces (snap : Snapshot) (tables : List LocalTable) (inc : TableIncarnation) : Prop :=
  (∃ comment ∈ commentsOf tables (physicalName inc), comment ≠ incarnationComment inc.seq) ∧
    ∀ comment ∈ commentsOf tables (physicalName inc),
      comment = incarnationComment inc.seq ∨ retiredLeftover snap inc.key comment inc.seq = true

instance (snap : Snapshot) (tables : List LocalTable) (inc : TableIncarnation) :
    Decidable (Replaces snap tables inc) := inferInstanceAs (Decidable (_ ∧ _))

/-- The names that are wanted or purged. -/
def desiredNames (cfg : TableSetConfig) (snap : Snapshot) : List String :=
  wantedNames (lives cfg snap) ++ (purgingOf (lives cfg snap)).keys

/-- A genesis incarnation that always has a target. -/
def configured (cfg : TableSetConfig) (inc : TableIncarnation) : Bool :=
  inc.origin = .genesis && inc.key ∈ cfg.genesis

/-- The incarnations whose target may be that of their name: of several with one name the
    last one counts that has a target. -/
def mayWin (cfg : TableSetConfig) : List TableIncarnation → List TableIncarnation
  | [] => []
  | inc :: rest =>
    if ∃ later ∈ rest, physicalName later = physicalName inc ∧ configured cfg later then mayWin cfg rest
    else inc :: mayWin cfg rest

/-- No name whose tables the pass may drop holds a table that must stay: not where
    leftovers are replaced, not where a Purging incarnation is purged, and not where
    the tables of a retired key are attributable. -/
def NamesSeparate (cfg : TableSetConfig) (snap : Snapshot) (tables : List LocalTable) : Prop :=
  (∀ inc ∈ mayWin cfg ((lives cfg snap).filter isWanted), inc.origin ≠ .genesis →
    Replaces snap tables inc → AllGone snap tables (physicalName inc)) ∧
  (∀ e ∈ (purgingOf (lives cfg snap)).toList, cfg.nodeID ∉ e.2.purgedBy →
    e.1 ∉ wantedNames (lives cfg snap) → AllGone snap tables e.1) ∧
  (∀ e ∈ (historyOf (lives cfg snap)).toList, e.1 ∉ desiredNames cfg snap →
    attributable snap e.2 (commentsOf tables e.1) = true → AllGone snap tables e.1)

instance (cfg : TableSetConfig) (snap : Snapshot) (tables : List LocalTable) :
    Decidable (NamesSeparate cfg snap tables) := inferInstanceAs (Decidable (_ ∧ _ ∧ _))

/-! ## What an operation may do -/

section Safety

variable {snap : Snapshot} {cfg : TableSetConfig} {tables : List LocalTable} {w : TablesWorld}

/-- Nobody else acts; every table that is dropped may be dropped. -/
def dropContract (snap : Snapshot) : Contract TablesWorld :=
  ⟨fun w w' => w' = w, fun w w' => ∀ t ∈ w'.dropped, t ∈ w.dropped ∨ DropSafe snap t⟩

/-- The tables are those that were found, and new ones under the names `N`. -/
def Within (tables : List LocalTable) (N : String → Prop) (w : TablesWorld) : Prop :=
  ∀ t ∈ w.tables, t ∈ tables ∨ N t.table

/-- Drops under the names `D` only, and creates under the names `K` only. -/
def Acts (D K : String → Prop) : (δ : Type) → TableSetOp δ → Prop
  | _, .dropTable _ name => D name
  | _, .createTable _ name _ => K name
  | _, _ => True

variable {N : String → Prop} {name : String}

theorem drop_safe {db : ProtocolDB} (hN : ¬ N name) (hgone : AllGone snap tables name)
    (h : Within tables N w) :
    (dropContract snap).guar w (w.drop db name) ∧ Within tables N (w.drop db name) := by
  constructor
  · intro t ht
    rcases List.mem_append.mp ht with hold | hhit
    · exact .inl hold
    · obtain ⟨hmem, hname⟩ := List.mem_filter.mp hhit
      have hname : t.database = db ∧ t.table = name := by simpa using hname
      rcases h t hmem with hfound | hnew
      · exact .inr (hgone t hfound hname.2)
      · exact absurd (hname.2 ▸ hnew) hN
  · exact fun t ht => h t (List.mem_of_mem_filter ht)

theorem create_safe {t : LocalTable} (hN : N t.table) (h : Within tables N w) :
    (dropContract snap).guar w (w.create t) ∧ Within tables N (w.create t) := by
  unfold TablesWorld.create
  split
  · exact ⟨fun _ ht => .inl ht, h⟩
  refine ⟨fun _ ht => .inl ht, fun t' ht' => ?_⟩
  rcases List.mem_append.mp ht' with hold | hnew
  · exact h t' hold
  · rw [List.mem_singleton.mp hnew]
    exact .inr hN

theorem acts_safe {D K : String → Prop} {δ : Type} {op : TableSetOp δ} {b : δ} {w' : TablesWorld}
    (hD : ∀ name, D name → ¬ N name ∧ AllGone snap tables name) (hK : ∀ name, K name → N name)
    (hop : Acts D K δ op) (hs : tableSetMachine.sem op w b w') (h : Within tables N w) :
    (dropContract snap).guar w w' ∧ Within tables N w' := by
  have hidle : (dropContract snap).guar w w ∧ Within tables N w := ⟨fun _ ht => .inl ht, h⟩
  obtain ⟨a, ha⟩ := hs
  cases op with
  | dropTable db name =>
    have hdrop : (dropContract snap).guar w (w.drop db name) ∧ Within tables N (w.drop db name) :=
      drop_safe (hD name hop).1 (hD name hop).2 h
    cases a with
    | executed =>
      cases ha
      exact hdrop
    | failed applied e =>
      cases ha
      cases applied with
      | true => exact hdrop
      | false => exact hidle
    | _ => cases ha
  | createTable db name comment =>
    have hcreate : (dropContract snap).guar w (w.create ⟨db, name, comment⟩) ∧
        Within tables N (w.create ⟨db, name, comment⟩) := create_safe (hK name hop) h
    cases a with
    | executed =>
      cases ha
      exact hcreate
    | failed applied e =>
      cases ha
      cases applied with
      | true => exact hcreate
      | false => exact hidle
    | _ => cases ha
  | listProtocolTables =>
    cases a with
    | listed failure =>
      cases failure <;> cases ha <;> exact hidle
    | _ => cases ha
  | _ =>
    cases a with
    | _ =>
      cases ha
      try exact hidle

/-- A program that acts under its names only keeps the contract. -/
theorem uses_safe {α : Type} {D K : String → Prop} {p : TableSetM α}
    (hD : ∀ name, D name → ¬ N name ∧ AllGone snap tables name) (hK : ∀ name, K name → N name)
    (hp : Uses (Acts D K) p) (h : Within tables N w) :
    wpE tableSetMachine (dropContract snap) p (fun _ => Within tables N) (fun _ => Within tables N) w := by
  have hwp : wp tableSetMachine (dropContract snap) p.run (fun _ => Within tables N) w := by
    apply wp_of_all hp
    · rintro w _ rfl h
      exact h
    · intro δ op w b w' hop hs h
      exact acts_safe hD hK hop hs h
    · exact h
  refine wp.mono hwp fun r w' h => ?_
  cases r <;> exact h

/-! ## The functions of a pass -/

variable {inc : TableIncarnation} {t : Target}

section Uses

variable {D K : String → Prop} {key : String} {scope : KeeperScope}

theorem uses_runIf {c : Prop} [Decidable c] {p : TableSetM Unit} (h : c → Uses (Acts D K) p) :
    Uses (Acts D K) (runIf c p) := by
  unfold runIf
  split
  · next hc => exact h hc
  · exact uses_pure

theorem uses_dropTableFor (h : D (chTableName key)) : Uses (Acts D K) (dropTableFor cfg key scope) := by
  apply uses_bind (uses_forM fun _ _ => uses_call h)
  intro _
  apply uses_step trivial
  intro replicas
  exact uses_runIf fun _ => uses_call trivial

theorem uses_dropTables (h : D (chTableName key)) (scopes : List KeeperScope) :
    Uses (Acts D K) (dropTables cfg key scopes) := uses_forM fun _ _ => uses_dropTableFor h

theorem uses_dropOthers (nodes replicas : List String) :
    Uses (Acts D K) (dropOthers cfg key scope nodes replicas) :=
  uses_forM fun _ _ => uses_runIf fun _ => uses_call trivial

theorem uses_sweep : Uses (Acts D K) (sweep cfg key scope) := by
  apply uses_step trivial
  intro replicas
  split
  · exact uses_pure
  · exact uses_step trivial fun nodes => uses_dropOthers nodes replicas

theorem uses_clearDecommissioned : Uses (Acts D K) (clearDecommissioned cfg key scope) := by
  apply uses_step trivial
  intro replicas
  dsimp only
  split
  · exact uses_pure
  apply uses_step trivial
  intro nodes
  split
  · exact uses_dropOthers ..
  · split
    · exact uses_pure
    · exact uses_throw

theorem uses_sweepRetiredPath : Uses (Acts D K) (sweepRetiredPath cfg key scope) := by
  apply uses_step trivial
  intro replicas
  exact uses_bind (uses_runIf fun _ => uses_call trivial) fun _ => uses_sweep

theorem uses_dropLeftovers (leftovers : List String) (h : leftovers ≠ [] → D (chTableName key)) :
    Uses (Acts D K) (dropLeftovers cfg snap key leftovers) := by
  unfold dropLeftovers
  split
  · apply uses_bind (uses_ask trivial)
    intro owed
    split
    · exact uses_call trivial
    · exact uses_pure
  · next hne => exact uses_bind (uses_dropTables (h hne) _) fun _ => uses_call trivial

theorem uses_createOne {comment : String} {db : ProtocolDB} (h : K name) :
    Uses (Acts D K) (createOne t name comment db) := by
  apply uses_bind (uses_attempt (uses_call h))
  intro r
  cases r with
  | ok _ => exact uses_pure
  | error e =>
    dsimp only
    split
    · exact uses_step trivial fun _ => uses_call h
    · exact uses_throw

theorem uses_joinErrors (errs : List ReconcileError) : Uses (Acts D K) (joinErrors errs) := by
  unfold joinErrors
  split
  · exact uses_pure
  · exact uses_throw

theorem uses_createAll {comment : String} (h : K name) :
    Uses (Acts D K) (createAll t name comment) := by
  unfold createAll
  cases t.mode with
  | createAndVerify => exact uses_step trivial fun _ => uses_forM fun _ _ => uses_createOne h
  | off => exact uses_pure
  | verifyOnly => exact uses_pure

theorem uses_ensureTableFor (h : K (physicalName t.inc)) : Uses (Acts D K) (ensureTableFor t) := by
  unfold ensureTableFor
  split
  · exact uses_pure
  · apply uses_bind (uses_createAll h)
    intro _
    exact uses_bind (uses_mapM' (fun _ => uses_attempt (uses_call trivial)) _) fun _ => uses_joinErrors _

theorem uses_purge (h : cfg.nodeID ∉ inc.purgedBy → D (chTableName inc.key)) :
    Uses (Acts D K) (purge cfg inc) := by
  unfold purge
  split
  · exact uses_pure
  next hnot =>
  apply uses_bind (uses_ask trivial)
  intro due
  split
  · apply uses_step trivial
    intro quiet
    split
    · apply uses_bind (uses_dropTableFor (h hnot))
      intro _
      apply uses_step trivial
      intro _
      exact uses_bind (uses_runIf fun _ => uses_sweep) fun _ => uses_call trivial
    · exact uses_pure
  · exact uses_pure

theorem uses_sweepShared {onOwnPath : GoMap String String} :
    Uses (Acts D K) (sweepShared cfg onOwnPath name) := by
  unfold sweepShared
  split
  · exact uses_sweepRetiredPath
  · exact uses_pure

theorem uses_sweepOwn {path : String × Nat} : Uses (Acts D K) (sweepOwn cfg snap path) := by
  unfold sweepOwn
  split
  · exact uses_pure
  · split
    · exact uses_sweepRetiredPath
    · exact uses_pure

end Uses

/-! ## The maps of a pass -/

theorem physicalName_purgingOf {l : List TableIncarnation} (h : (purgingOf l).lookup name = some inc) :
    physicalName inc = name := by
  rcases GoMap.lookup_foldl_insert h with hempty | ⟨inc', -, hname, rfl⟩
  · simp at hempty
  · exact hname

theorem mayWin_subset {l : List TableIncarnation} : mayWin cfg l ⊆ l := by
  induction l with
  | nil => exact List.Subset.refl _
  | cons inc l ih =>
    unfold mayWin
    split
    · exact List.subset_cons_of_subset _ ih
    · exact List.cons_subset_cons _ ih

/-- The keys of the history of a name have that name, and there is one. -/
theorem historyOf_some {l : List TableIncarnation} {keys : List String}
    (h : (historyOf l).lookup name = some keys) : chTableName (keys.headD "") = name := by
  -- every list of the map starts with a key of the name
  have hfold : ∀ (l : List TableIncarnation) (m : GoMap String (List String)),
      (∀ n ks, m.lookup n = some ks → ∃ k rest, ks = k :: rest ∧ chTableName k = n) →
      ∀ n ks, (l.foldl (fun m inc => m.insert (physicalName inc)
        (m.getD (physicalName inc) [] ++ [inc.key])) m).lookup n = some ks →
        ∃ k rest, ks = k :: rest ∧ chTableName k = n := by
    intro l
    induction l with
    | nil => exact fun m hm => hm
    | cons inc l ih =>
      intro m hm
      apply ih
      intro n ks hks
      rw [GoMap.lookup_insert] at hks
      split at hks
      · next hn =>
        cases hks
        cases hold : m.lookup (physicalName inc) with
        | none => exact ⟨inc.key, [], by simp [GoMap.getD, hold], hn.symm⟩
        | some old =>
          obtain ⟨k, rest, rfl, hk⟩ := hm _ _ hold
          exact ⟨k, rest ++ [inc.key], by simp [GoMap.getD, hold], hk.trans hn.symm⟩
      · exact hm n ks hks
  obtain ⟨k, rest, rfl, hk⟩ := hfold _ _ (by simp) name keys h
  exact hk

/-! ## Creating tables -/

/-- The target is that of one of the incarnations, with this name. -/
structure TargetOf (cfg : TableSetConfig) (incs : List TableIncarnation) (name : String) (t : Target) :
    Prop where
  mayWin : t.inc ∈ mayWin cfg incs
  name : physicalName t.inc = name
  marker : t.marker = 0 ∨ t.marker = t.inc.seq ∧ t.inc.origin ≠ .genesis

theorem leftoversOf_ok {comments leftovers : List String}
    (h : leftoversOf snap t comments = .ok leftovers) :
    (∀ comment ∈ comments, comment = expectedComment t.marker ∨
      retiredLeftover snap t.inc.key comment t.inc.seq = true) ∧
    (leftovers ≠ [] → t.marker ≠ 0 ∧ ∃ comment ∈ comments, comment ≠ expectedComment t.marker) ∨
      t.marker = 0 ∧ leftovers = [] := by
  induction comments generalizing leftovers with
  | nil =>
    cases h
    exact .inl ⟨nofun, fun hne => absurd rfl hne⟩
  | cons comment rest ih =>
    unfold leftoversOf at h
    split at h
    · next heq =>
      rcases ih h with ⟨hall, hsome⟩ | hzero
      · refine .inl ⟨fun c hc => ?_, fun hne => ?_⟩
        · rcases List.mem_cons.mp hc with rfl | hc
          · exact .inl heq
          · exact hall c hc
        · obtain ⟨hm, c, hc, hne⟩ := hsome hne
          exact ⟨hm, c, List.mem_cons_of_mem _ hc, hne⟩
      · exact .inr hzero
    · next hne =>
      split at h
      · cases h
      · next hleft =>
        simp only [not_or, not_not] at hleft
        cases hrest : leftoversOf snap t rest with
        | error e => rw [hrest] at h; cases h
        | ok more =>
          rcases ih hrest with ⟨hall, -⟩ | ⟨hzero, -⟩
          · refine .inl ⟨fun c hc => ?_, fun _ => ⟨hleft.1, comment, List.mem_cons_self, hne⟩⟩
            rcases List.mem_cons.mp hc with rfl | hc
            · exact .inr hleft.2
            · exact hall c hc
          · exact absurd hzero hleft.1

/-- Where leftovers are dropped, the whole name may be dropped. -/
theorem TargetOf.allGone {leftovers : List String} (ht : TargetOf cfg ((lives cfg snap).filter isWanted) name t)
    (hsep : NamesSeparate cfg snap tables)
    (h : leftoversOf snap t (commentsOf tables name) = .ok leftovers) (hne : leftovers ≠ []) :
    AllGone snap tables name := by
  rcases leftoversOf_ok h with ⟨hall, hsome⟩ | ⟨-, hnil⟩
  · obtain ⟨hmarker, hother⟩ := hsome hne
    obtain ⟨hseq, horigin⟩ := ht.marker.resolve_left hmarker
    have hexp : expectedComment t.marker = incarnationComment t.inc.seq := by
      rw [expectedComment, if_neg hmarker, hseq]
    rw [hexp] at hall hother
    have hrep : Replaces snap tables t.inc := by
      unfold Replaces
      rw [ht.name]
      exact ⟨hother, hall⟩
    exact ht.name ▸ hsep.1 t.inc ht.mayWin horigin hrep
  · exact absurd hnil hne

theorem Within.mono {N' : String → Prop} (h : Within tables N w) (hN : ∀ name, N name → N' name) :
    Within tables N' w :=
  fun t ht => (h t ht).imp_right (hN t.table)

theorem ensurePresent_safe (unsafeLocal : Bool)
    (ht : TargetOf cfg ((lives cfg snap).filter isWanted) name t) (hsep : NamesSeparate cfg snap tables)
    (hN : ¬ N name) (h : Within tables N w) :
    wpE tableSetMachine (dropContract snap)
      (ensurePresent cfg snap t (commentsOf tables name) unsafeLocal)
      (fun _ => Within tables fun n => N n ∨ n = name)
      (fun _ => Within tables fun n => N n ∨ n = name) w := by
  have hgrow : ∀ w', Within tables N w' → Within tables (fun n => N n ∨ n = name) w' :=
    fun w' h' => h'.mono fun _ => .inl
  unfold ensurePresent
  apply wpE_bind.mpr
  apply wpE_fromExcept.mpr
  cases hleft : leftoversOf snap t (commentsOf tables name) with
  | error e => exact hgrow w h
  | ok leftovers =>
    -- first the drops, while the name has only tables that were found
    have hdrop : Uses (Acts (fun n => n = name ∧ AllGone snap tables name) fun _ => False)
        (dropLeftovers cfg snap t.inc.key leftovers) :=
      uses_dropLeftovers leftovers fun hne => ⟨ht.name, ht.allGone hsep hleft hne⟩
    apply wpE_bind.mpr
    apply wpE.mono (uses_safe (N := N) ?_ (fun _ hf => hf.elim) hdrop h) ?_ fun _ => hgrow
    · rintro n ⟨rfl, hgone⟩
      exact ⟨hN, hgone⟩
    -- then the creates
    intro _ w₁ h₁
    have hcreate : Uses (Acts (fun _ => False) (· = name)) (do
        runIf (t.marker ≠ 0 ∧ (leftovers ≠ [] ∨ ¬ unsafeLocal))
          (clearDecommissioned cfg t.inc.key t.scope)
        ensureTableFor t) :=
      uses_bind (uses_runIf fun _ => uses_clearDecommissioned) fun _ => uses_ensureTableFor ht.name
    exact uses_safe (fun _ hf => hf.elim) (fun _ => .inr) hcreate (hgrow w₁ h₁)

theorem ensureAll_safe {present : GoMap String Target} (hsep : NamesSeparate cfg snap tables)
    (hpresent : ∀ name t, present.lookup name = some t →
      TargetOf cfg ((lives cfg snap).filter isWanted) name t)
    {names : List String} (hnodup : names.Nodup) (hN : ∀ name ∈ names, ¬ N name)
    (errs : List ReconcileError × List ReconcileError) (h : Within tables N w) :
    wpE tableSetMachine (dropContract snap) (ensureAll cfg snap tables present names errs)
      (fun _ => Within tables fun n => N n ∨ n ∈ names)
      (fun _ => Within tables fun n => N n ∨ n ∈ names) w := by
  induction names generalizing N errs w with
  | nil => exact wpE_pure.mpr (h.mono fun _ => .inl)
  | cons name rest ih =>
    obtain ⟨hnot, hrest⟩ := List.nodup_cons.mp hnodup
    have hskip : ∀ {N' : String → Prop}, (∀ n, N' n → N n ∨ n = name) →
        ∀ w', Within tables (fun n => N' n ∨ n ∈ rest) w' →
          Within tables (fun n => N n ∨ n ∈ name :: rest) w' := by
      intro N' hN' w' h'
      apply h'.mono
      rintro n (hn | hn)
      · exact (hN' n hn).imp_right fun heq => List.mem_cons.mpr (.inl heq)
      · exact .inr (List.mem_cons_of_mem _ hn)
    unfold ensureAll
    cases hlook : present.lookup name with
    | none =>
      have hih := ih hrest (fun n hn => hN n (List.mem_cons_of_mem _ hn)) errs h
      exact hih.mono (fun _ => hskip fun _ => .inl) fun _ => hskip fun _ => .inl
    | some t =>
      -- after the target its name holds new tables
      have hnext : ∀ errs' w', Within tables (fun n => N n ∨ n = name) w' →
          wpE tableSetMachine (dropContract snap) (ensureAll cfg snap tables present rest errs')
            (fun _ => Within tables fun n => N n ∨ n ∈ name :: rest)
            (fun _ => Within tables fun n => N n ∨ n ∈ name :: rest) w' := by
        intro errs' w' h'
        have hfresh : ∀ n ∈ rest, ¬ (N n ∨ n = name) := by
          rintro n hn (hold | rfl)
          · exact hN n (List.mem_cons_of_mem _ hn) hold
          · exact hnot hn
        exact (ih hrest hfresh errs' h').mono (fun _ => hskip fun _ h => h)
          fun _ => hskip fun _ h => h
      apply wpE_bind.mpr
      apply wpE_attempt.mpr
      have hensure := ensurePresent_safe (hasUnsafe tables name) (hpresent name t hlook) hsep
        (hN name List.mem_cons_self) h
      exact hensure.mono (fun _ w' h' => hnext _ w' h') fun _ w' h' => hnext _ w' h'

theorem targetFor_safe {genesisMode : Mode} :
    wpE tableSetMachine (dropContract snap) (targetFor cfg inc genesisMode)
      (fun t w' => w' = w ∧ t.inc = inc ∧ (t.marker = 0 ∨ t.marker = t.inc.seq ∧ t.inc.origin ≠ .genesis))
      (fun _ w' => w' = w ∧ ¬ configured cfg inc) w := by
  unfold targetFor
  split
  · split
    · exact wpE_pure.mpr ⟨rfl, rfl, .inl rfl⟩
    · next hkey => exact wpE_throw.mpr ⟨rfl, by simp [configured, hkey]⟩
  next horigin =>
  apply wpE_bind.mpr
  apply wpE_call.mpr
  rintro _ rfl r w₂ ⟨a, ha⟩
  cases a with
  | result r' =>
    cases ha
    refine ⟨fun _ ht => .inl ht, ?_⟩
    cases r with
    | ok _ => exact wpE_pure.mpr ⟨rfl, rfl, .inr ⟨rfl, horigin⟩⟩
    | error e => exact ⟨rfl, by simp [configured, horigin]⟩
  | _ => cases ha

theorem isDue_safe :
    wpE tableSetMachine (dropContract snap) (isDue inc)
      (fun due w' => w' = w ∧ (due = false → inc.origin ≠ .genesis)) (fun _ w' => w' = w) w := by
  unfold isDue
  split
  · exact wpE_pure.mpr ⟨rfl, nofun⟩
  next horigin =>
  apply wpE_ask.mpr
  rintro _ rfl b w₂ ⟨a, ha⟩
  cases a with
  | flag b' =>
    cases ha
    exact ⟨fun _ ht => .inl ht, rfl, fun _ => horigin⟩
  | _ => cases ha

theorem TargetOf.cons {incs : List TableIncarnation} (h : TargetOf cfg incs name t)
    (inc : TableIncarnation) : TargetOf cfg (inc :: incs) name t := by
  refine ⟨?_, h.name, h.marker⟩
  unfold TableSet.mayWin
  split
  · exact h.mayWin
  · exact List.mem_cons_of_mem _ h.mayWin

/-- The targets of the incarnations are added to `present`; a configured genesis
    incarnation takes its name from a target that was there. -/
def Adds (cfg : TableSetConfig) (incs : List TableIncarnation) (present acc : GoMap String Target) : Prop :=
  ∀ name t, acc.lookup name = some t → TargetOf cfg incs name t ∨
    present.lookup name = some t ∧ ∀ inc ∈ incs, physicalName inc = name → ¬ configured cfg inc

theorem Adds.skip {incs : List TableIncarnation} {present acc : GoMap String Target}
    (h : Adds cfg incs present acc) (hinc : ¬ configured cfg inc) : Adds cfg (inc :: incs) present acc :=
  fun name t hlook => (h name t hlook).imp (·.cons inc) fun ⟨hold, hnone⟩ =>
    ⟨hold, List.forall_mem_cons.mpr ⟨fun _ => hinc, hnone⟩⟩

theorem Adds.insert {incs : List TableIncarnation} {present acc : GoMap String Target}
    (h : Adds cfg incs (present.insert (physicalName t.inc) t) acc)
    (hmarker : t.marker = 0 ∨ t.marker = t.inc.seq ∧ t.inc.origin ≠ .genesis) :
    Adds cfg (t.inc :: incs) present acc := by
  intro name t' hlook
  rcases h name t' hlook with hlater | ⟨hnow, hnone⟩
  · exact .inl (hlater.cons _)
  rw [GoMap.lookup_insert] at hnow
  split at hnow
  · next hname =>
    cases hnow
    refine .inl ⟨?_, hname.symm, hmarker⟩
    unfold mayWin
    rw [if_neg]
    · exact List.mem_cons_self
    · rintro ⟨later, hmem, heq, hlater⟩
      exact hnone later hmem (heq.trans hname.symm) hlater
  · next hname =>
    exact .inr ⟨hnow, List.forall_mem_cons.mpr ⟨fun heq => absurd heq.symm hname, hnone⟩⟩

theorem targets_safe {genesisMode : Mode} (incs : List TableIncarnation)
    {present : GoMap String Target} {errs : List ReconcileError} :
    wpE tableSetMachine (dropContract snap) (targets cfg genesisMode incs (present, errs))
      (fun acc w' => w' = w ∧ Adds cfg incs present acc.1) (fun _ w' => w' = w) w := by
  induction incs generalizing present errs with
  | nil => exact wpE_pure.mpr ⟨rfl, fun _ _ hlook => .inr ⟨hlook, nofun⟩⟩
  | cons inc rest ih =>
    unfold targets
    apply wpE_bind.mpr
    apply isDue_safe.mono ?_ fun _ _ h => h
    rintro due _ ⟨rfl, hdue⟩
    cases due with
    | false => exact ih.mono (fun _ _ h => ⟨h.1, h.2.skip (by simp [configured, hdue rfl])⟩) fun _ _ h => h
    | true =>
      apply wpE_bind.mpr
      apply wpE_attempt.mpr
      apply targetFor_safe.mono
      · rintro t _ ⟨rfl, rfl, hmarker⟩
        exact ih.mono (fun _ _ h => ⟨h.1, h.2.insert hmarker⟩) fun _ _ h => h
      · rintro e _ ⟨rfl, hinc⟩
        exact ih.mono (fun _ _ h => ⟨h.1, h.2.skip hinc⟩) fun _ _ h => h

/-! ## Dropping tables -/

/-- The names that a pass may drop after it has created tables. -/
def MayDrop (cfg : TableSetConfig) (snap : Snapshot) (tables : List LocalTable) (name : String) : Prop :=
  name ∉ wantedNames (lives cfg snap) ∧ AllGone snap tables name

section

variable (hsep : NamesSeparate cfg snap tables)
include hsep

theorem uses_purgeAll :
    Uses (Acts (MayDrop cfg snap tables) fun _ => False)
      (purgeAll cfg (wantedNames (lives cfg snap)) (purgingOf (lives cfg snap))) := by
  apply uses_forM
  intro name _
  cases hlook : (purgingOf (lives cfg snap)).lookup name with
  | none => exact uses_pure
  | some inc =>
    obtain rfl := physicalName_purgingOf hlook
    apply uses_runIf
    intro hname
    apply uses_ignoreError
    exact uses_purge fun hnode => ⟨hname, hsep.2.1 (_, inc) (GoMap.mem_toList.mpr hlook) hnode hname⟩

/-- A retired name may be dropped when its tables are attributable. -/
theorem mayDrop_retired {keys : List String}
    (hkeys : (historyOf (lives cfg snap)).lookup name = some keys)
    (hdesired : name ∉ desiredNames cfg snap)
    (hattr : attributable snap keys (commentsOf tables name) = true) :
    MayDrop cfg snap tables (chTableName (keys.headD "")) := by
  rw [historyOf_some hkeys]
  exact ⟨fun hw => hdesired (List.mem_append_left _ hw),
    hsep.2.2 (name, keys) (GoMap.mem_toList.mpr hkeys) hdesired hattr⟩

theorem uses_dropRetired (names : List String) :
    Uses (Acts (MayDrop cfg snap tables) fun _ => False)
      (dropRetired cfg snap tables (desiredNames cfg snap) (historyOf (lives cfg snap)) names) := by
  apply uses_forM
  intro name _
  cases hlook : (historyOf (lives cfg snap)).lookup name with
  | none => exact uses_pure
  | some keys =>
    apply uses_runIf
    rintro ⟨hdesired, hattr⟩
    apply uses_ignoreError
    apply uses_bind (uses_dropTables (mayDrop_retired hsep hlook hdesired hattr) _)
    exact fun _ => uses_call trivial

/-- The sweep drops a retired name that it does not skip. -/
theorem uses_sweepLegacy {onOwnPath : GoMap String String} (name : String) :
    Uses (Acts (MayDrop cfg snap tables) fun _ => False)
      (sweepLegacy cfg (historyOf (lives cfg snap)) onOwnPath
        (desiredNames cfg snap ++ skippedNames snap tables (desiredNames cfg snap)
          (historyOf (lives cfg snap)) (GoSlice.sortCompact (tables.map (·.table)))) name) := by
  unfold sweepLegacy
  cases hlook : (historyOf (lives cfg snap)).lookup name with
  | none => exact uses_sweepShared
  | some keys =>
    dsimp only
    split
    · exact uses_sweepShared
    next hskip =>
    rw [List.mem_append, not_or] at hskip
    obtain ⟨hdesired, hskip⟩ := hskip
    have hattr : attributable snap keys (commentsOf tables name) = true := by
      by_contra hnot
      -- then the name has a table, and would have been skipped
      apply hskip
      refine List.mem_filter.mpr ⟨?_, by simp [hlook, hdesired, hnot]⟩
      by_contra hmem
      apply hnot
      have hnone : commentsOf tables name = [] := by
        simp only [GoSlice.mem_sortCompact, List.mem_map, not_exists, not_and] at hmem
        simpa [commentsOf] using hmem
      simp [attributable, hnone]
    exact uses_bind (uses_dropTableFor (mayDrop_retired hsep hlook hdesired hattr)) fun _ => uses_sweep

theorem uses_clean : Uses (Acts (MayDrop cfg snap tables) fun _ => False)
    (clean cfg snap tables (desiredNames cfg snap)) := by
  apply uses_bind (uses_dropRetired hsep _)
  intro _
  apply uses_runIf
  intro _
  apply uses_ignoreError
  apply uses_step trivial
  intro roots
  apply uses_bind (uses_forM fun name _ => uses_ignoreError (uses_sweepLegacy hsep name))
  exact fun _ => uses_forM fun _ _ => uses_ignoreError uses_sweepOwn

/-! ## The pass -/

theorem reconcileRegistry_safe {genesisMode : Mode} (hw : w.tables = tables) :
    wpE tableSetMachine (dropContract snap) (reconcileRegistry cfg snap genesisMode)
      (fun _ _ => True) (fun _ _ => True) w := by
  unfold reconcileRegistry
  apply wpE_bind.mpr
  apply (targets_safe _).mono ?_ fun _ _ _ => trivial
  rintro ⟨present, genesisErrs⟩ _ ⟨rfl, htargets⟩
  have hpresent := fun name t hlook => (htargets name t hlook).resolve_right fun h => by simp at h
  apply wpE_bind.mpr
  apply wpE_call.mpr
  rintro _ rfl r w₂ ⟨a, ha⟩
  cases a with
  | listed failure =>
    cases failure with
    | some e =>
      cases ha
      exact ⟨fun _ ht => .inl ht, trivial⟩
    | none =>
      cases ha
      refine ⟨fun _ ht => .inl ht, ?_⟩
      dsimp only [onResult]
      rw [hw]
      have hstart := fun t ht => (.inl (hw ▸ ht) : t ∈ tables ∨ False)
      have hnodup : (sortedKeys present).Nodup :=
        (List.perm_insertionSort ..).nodup_iff.mpr present.alist.keys_nodup
      apply wpE_bind.mpr
      apply (ensureAll_safe hsep hpresent hnodup (fun _ _ hf => hf) ([], genesisErrs) hstart).mono ?_
        fun _ _ _ => trivial
      intro errs w₃ h₃
      -- the new tables are under wanted names
      have hnames : Within tables (· ∈ wantedNames (lives cfg snap)) w₃ := by
        apply h₃.mono
        rintro name (hf | hname)
        · exact hf.elim
        have hkey : name ∈ present.keys := by simpa [sortedKeys] using hname
        obtain ⟨t, hlook⟩ := GoMap.mem_keys.mp hkey
        have ht := hpresent name t hlook
        exact List.mem_map.mpr ⟨t.inc, mayWin_subset ht.mayWin, ht.name⟩
      refine (uses_safe (D := MayDrop cfg snap tables) (K := fun _ => False) (fun _ hd => hd)
        (fun _ hf => hf.elim) ?_ hnames).mono (fun _ _ _ => trivial) fun _ _ _ => trivial
      apply uses_bind (uses_purgeAll hsep)
      intro _
      apply uses_bind (uses_clean hsep)
      intro _
      exact uses_bind (uses_attempt (uses_call trivial)) fun _ => uses_joinErrors _
  | _ => cases ha

end

/-- On a node where no name that the pass may drop holds another table, whatever
    statements fail and wherever the pass stops, all dropped tables are of
    incarnations that are gone. -/
theorem reconcileRegistry_drops_gone {genesisMode : Mode} (hsep : NamesSeparate cfg snap tables)
    {answers : List TableSetAnswer} {p : Prog TableSetOp (Except ReconcileError Unit)}
    (hrun : tableSetMachine.replay (reconcileRegistry cfg snap genesisMode).run answers ⟨tables, []⟩ =
      some (p, w)) :
    ∀ t ∈ w.dropped, DropSafe snap t := by
  have hsafe : wp tableSetMachine (dropContract snap) (reconcileRegistry cfg snap genesisMode).run _ _ :=
    reconcileRegistry_safe (w := ⟨tables, []⟩) hsep rfl
  have hsteps := hsafe.replay (fun _ => rfl) hrun
  -- every step drops safe tables only
  have hall : ∀ w', Relation.ReflTransGen (dropContract snap).guar ⟨tables, []⟩ w' →
      ∀ t ∈ w'.dropped, DropSafe snap t := by
    intro w' hsteps
    induction hsteps with
    | refl => exact nofun
    | tail _ hstep ih => exact fun t ht => (hstep t ht).elim (ih t) id
  exact hall w hsteps

end Safety

/-! ### A name with tables of two incarnations -/

namespace Recreated

def cfg : TableSetConfig := ⟨none, "n", [], false⟩

/-- The key a.b was purged and created again. -/
def snap : Snapshot where
  siIndexerID := 0
  incarnations := [⟨1, "a", "b", .chain, .purged, [], none, false⟩,
    ⟨2, "a", "b", .chain, .active, [], none, false⟩]
  groups := []
  memberCheckpointSeqs := []
  stage3 := none
  numbered := rfl

/-- A table of the first incarnation. -/
def leftover : LocalTable := ⟨.hgSafe, "a__b", "hg_incarnation=1"⟩

/-- A table of the live incarnation. -/
def current : LocalTable := ⟨.hgUnsafe, "a__b", "hg_incarnation=2"⟩

/-- The pass drops the leftovers of the name, and then stops. -/
def answers : List TableSetAnswer :=
  [.flag true, .result (.ok ()), .listed none, .executed, .executed, .executed]

end Recreated

open Recreated in
/-- The leftovers of the first incarnation are dropped. -/
theorem reconcileRegistry_drops_gone_leftover : NamesSeparate cfg snap [leftover] ∧ ∃ p w,
    tableSetMachine.replay (reconcileRegistry cfg snap .verifyOnly).run answers ⟨[leftover], []⟩ =
      some (p, w) ∧ leftover ∈ w.dropped ∧ DropSafe snap leftover := by
  have hsep : NamesSeparate cfg snap [leftover] := by decide
  have hrun : tableSetMachine.replay (reconcileRegistry cfg snap .verifyOnly).run answers
      ⟨[leftover], []⟩ = some (_, _) := rfl
  exact ⟨hsep, _, _, hrun, by decide, reconcileRegistry_drops_gone hsep hrun leftover (by decide)⟩

open Recreated in
/-- With a leftover beside it, the table of the live incarnation is dropped. -/
theorem reconcileRegistry_drops_live : ∃ p w,
    tableSetMachine.replay (reconcileRegistry cfg snap .verifyOnly).run answers
      ⟨[current, leftover], []⟩ = some (p, w) ∧ current ∈ w.dropped ∧ ¬ DropSafe snap current := by
  refine ⟨_, _, rfl, by decide, by decide⟩

end ArbiterCore.TableSet
