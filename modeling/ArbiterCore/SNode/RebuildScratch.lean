-- SUMMARY: Which tables of hg_promote a rebuild drops.
import ArbiterCore.SNode.Rebuild

/-!
# The scratch tables of a rebuild

A rebuild finds the scratch tables of interrupted runs by their names. It drops no other
table as long as the names of the protocol tables do not look like scratch names.
-/

namespace ArbiterCore.Rebuild

open Conc Registry

/-- The name looks like that of a scratch table. -/
abbrev Marked (name : String) : Prop := Contains name scratchMarker

theorem scratchName_marked (physical : String) (n : Nat) : Marked (scratchName physical n) := by
  refine ⟨physical.toList, (toString n).toList, ?_⟩
  simp [scratchName]

/-- Every table of hg_promote that looks like a scratch table is one. -/
def Separate (w : RebuildWorld) : Prop :=
  ∀ name t, w.table .hgPromote name = some t → Marked name → t.scratch = true

/-- The tables are separate, and every table that was dropped was a scratch table. -/
structure DropsScratch (w : RebuildWorld) : Prop where
  separate : Separate w
  drops : ∀ d ∈ w.dropped, Marked d.1 ∧ d.2.scratch = true

/-- The operation creates no protocol table that looks like a scratch table, and drops only
    tables that do. -/
def KeepsSeparate : (δ : Type) → RebuildOp δ → Prop
  | _, .createTable db name _ => db = .hgPromote → ¬ Marked name
  | _, .dropTable name => Marked name
  | _, _ => True

/-! ## One operation -/

variable {a : RebuildAnswer}

section Steps

variable {w w' : RebuildWorld} {db : Database} {name : String} {t : RebuildTable}

/-- A table that takes the place of one with the same origin, or of none. -/
theorem DropsScratch.setTable (h : DropsScratch w)
    (ht : db = .hgPromote → Marked name → t.scratch = true) : DropsScratch (w.setTable db name t) := by
  refine ⟨fun name' t' hlook hmark => ?_, h.drops⟩
  simp only [RebuildWorld.table, RebuildWorld.setTable, GoMap.lookup_insert, Prod.mk.injEq] at hlook
  split at hlook
  · next heq =>
    cases hlook
    exact ht heq.1.symm (heq.2 ▸ hmark)
  · exact h.separate name' t' hlook hmark

theorem DropsScratch.partsAdded {new : List StoredPart} (h : DropsScratch w)
    (hw : w.partsAdded db name new = some w') : DropsScratch w' := by
  simp only [RebuildWorld.partsAdded, Option.bind_eq_bind, Option.bind_eq_some_iff, Option.pure_def,
    Option.some.injEq] at hw
  obtain ⟨t, ht, data, -, rfl⟩ := hw
  refine h.setTable fun hdb hmark => ?_
  subst hdb
  exact h.separate name t ht hmark

theorem DropsScratch.created {comment : String} (h : DropsScratch w)
    (hname : db = .hgPromote → ¬ Marked name) : DropsScratch (w.created db name comment) := by
  unfold RebuildWorld.created
  split
  · exact h
  · exact h.setTable fun hdb hmark => absurd hmark (hname hdb)

theorem DropsScratch.scratchCreated {safe : String} (h : DropsScratch w)
    (hw : w.scratchCreated name safe = some w') : DropsScratch w' := by
  unfold RebuildWorld.scratchCreated at hw
  split at hw
  · cases hw
    exact h.setTable fun _ _ => rfl
  · cases hw

theorem DropsScratch.restored {new : List StoredPart} (h : DropsScratch w)
    (hw : w.restored name new = some w') : DropsScratch w' := by
  unfold RebuildWorld.restored at hw
  split at hw
  · exact (h.setTable fun _ _ => rfl).partsAdded hw
  · split at hw
    · exact h.partsAdded hw
    · cases hw

theorem DropsScratch.partDropped {part : String} (h : DropsScratch w)
    (hw : w.partDropped name part = some w') : DropsScratch w' := by
  simp only [RebuildWorld.partDropped, Option.bind_eq_bind, Option.bind_eq_some_iff] at hw
  obtain ⟨t, ht, hw⟩ := hw
  split at hw
  · cases hw
    exact h.setTable fun _ hmark => h.separate name t ht hmark
  · cases hw

theorem DropsScratch.tableDropped (h : DropsScratch w) (hname : Marked name) :
    DropsScratch (w.tableDropped name) := by
  unfold RebuildWorld.tableDropped
  split
  · exact h
  next t ht =>
  refine ⟨fun name' t' hlook hmark => ?_, fun d hd => ?_⟩
  · change (w.tables.erase (.hgPromote, name)).lookup (.hgPromote, name') = some t' at hlook
    rw [GoMap.lookup_erase] at hlook
    split at hlook
    · cases hlook
    · exact h.separate name' t' hlook hmark
  · rcases List.mem_append.mp hd with hd | hd
    · exact h.drops d hd
    · cases List.mem_singleton.mp hd
      exact ⟨hname, h.separate name t ht hname⟩

theorem DropsScratch.attachedToSafe {physical pid : String} {sch : TableSchema} {names : List String}
    (h : DropsScratch w) (hw : w.attachedToSafe physical sch pid name names = some w') :
    DropsScratch w' := by
  simp only [RebuildWorld.attachedToSafe, Option.bind_eq_bind, Option.bind_eq_some_iff] at hw
  obtain ⟨_, -, _, -, hw⟩ := hw
  exact h.partsAdded hw

theorem RebuildAnswer.query_world {β : Type} {b : β} {res : Except Failure β}
    (h : a.query w b = some (res, w')) : w' = w := by
  unfold RebuildAnswer.query at h
  split at h <;> cases h <;> rfl

theorem RebuildAnswer.queryOf_world {β : Type} {b : Option β} {res : Except Failure β}
    (h : a.queryOf w b = some (res, w')) : w' = w := by
  unfold RebuildAnswer.queryOf at h
  split at h <;> cases h <;> rfl

/-- A statement leaves the world alone or takes effect. -/
theorem RebuildAnswer.statement_world {next : Option RebuildWorld} {res : Except Failure Unit}
    (h : a.statement w next = some (res, w')) : w' = w ∨ next = some w' := by
  unfold RebuildAnswer.statement at h
  split at h
  · cases h
    exact .inr rfl
  · cases h
  · cases h
    split
    · exact .inr rfl
    · exact .inl rfl
  · cases h
    exact .inl rfl

end Steps

variable [HouseGate]

theorem DropsScratch.step {w w' : RebuildWorld} {δ : Type} {op : RebuildOp δ} {b : δ}
    (h : DropsScratch w) (hop : KeepsSeparate δ op) (hrun : op.run a w = some (b, w')) :
    DropsScratch w' := by
  have hstatement : ∀ {next : Option RebuildWorld} {res : Except Failure Unit},
      a.statement w next = some (res, w') → (∀ w₁, next = some w₁ → DropsScratch w₁) →
        DropsScratch w' := fun hst hnext =>
    (RebuildAnswer.statement_world hst).elim (fun heq => heq ▸ h) (hnext w')
  cases op with
  | checkJournal inventories names =>
    simp only [RebuildOp.run] at hrun
    split at hrun
    · cases hrun
      exact h
    · exact RebuildAnswer.query_world hrun ▸ h
  | recordInventories inventories =>
    simp only [RebuildOp.run] at hrun
    split at hrun
    · cases hrun
      exact h
    · refine hstatement hrun fun w₁ hw₁ => ?_
      cases hw₁
      exact ⟨h.separate, h.drops⟩
  | replicaHost =>
    cases hrun
    exact h
  | scanParts | scanAllParts | verifyTable => exact RebuildAnswer.queryOf_world hrun ▸ h
  | createTable db name comment =>
    refine hstatement hrun fun w₁ hw₁ => ?_
    cases hw₁
    exact h.created hop
  | dropTable name =>
    refine hstatement hrun fun w₁ hw₁ => ?_
    cases hw₁
    exact h.tableDropped hop
  | createScratch name safe => exact hstatement hrun fun w₁ hw₁ => h.scratchCreated hw₁
  | fillFromUnsafe name sch pid physical =>
    obtain ⟨-, hrun⟩ := Option.ite_none_right_eq_some.mp hrun
    exact hstatement hrun fun w₁ hw₁ => h.partsAdded hw₁
  | restorePartitions tableID pid name => exact hstatement hrun fun w₁ hw₁ => h.restored hw₁
  | dropPart name part => exact hstatement hrun fun w₁ hw₁ => h.partDropped hw₁
  | attachToSafe physical sch pid name => exact hstatement hrun fun w₁ hw₁ => h.attachedToSafe hw₁
  | _ => exact RebuildAnswer.query_world hrun ▸ h

/-! ## The parts of the program -/

section Uses

section

omit [HouseGate]

theorem fenceActive_separate (cfg : Config) (tableID path : String) :
    Uses KeepsSeparate (fenceActive cfg tableID path) :=
  uses_bind (uses_ask trivial) fun _ => uses_throw

theorem fenceTable_separate (cfg : Config) (tableID : String) :
    Uses KeepsSeparate (fenceTable cfg tableID) := by
  refine uses_mapStep trivial fun replicas => ?_
  split
  · exact uses_pure
  refine uses_mapStep trivial fun active => ?_
  split
  · exact fenceActive_separate ..
  refine uses_bind (uses_attempt (uses_call trivial)) fun r => ?_
  split
  · exact uses_pure
  · split
    · exact fenceActive_separate ..
    · exact uses_throw

theorem fence_separate (cfg : Config) (tableIDs : List String) :
    Uses KeepsSeparate (fence cfg tableIDs) := by
  refine uses_mapStep trivial fun children => ?_
  split
  · exact uses_throw
  · exact uses_mapM' (fenceTable_separate cfg) _

theorem locallyHeld_separate (cfg : Config) (tables : List OwnedTable) :
    Uses KeepsSeparate (locallyHeld cfg tables) := by
  induction tables with
  | nil => exact uses_pure
  | cons t ts ih =>
    exact uses_mapStep trivial fun _ => uses_bind ih fun _ => uses_pure

theorem ensureTable_separate {cfg : Config} {sch : TableSchema} (marker : Nat)
    (h : ¬ Marked (chTableName sch.tableID)) : Uses KeepsSeparate (ensureTable cfg sch marker) := by
  have hcreate : ∀ db ∈ protocolDatabases, Uses KeepsSeparate
      (createOne cfg (chTableName sch.tableID) (expectedComment marker) db) := by
    intro db _
    refine uses_bind (uses_attempt (uses_call fun _ => h)) fun r => ?_
    split
    · exact uses_pure
    split
    · exact uses_mapStep trivial fun _ =>
        uses_mapError (uses_call fun _ => h)
    · exact uses_throw
  refine uses_step trivial fun _ => uses_step trivial fun _ => ?_
  refine uses_bind (uses_forM hcreate) fun _ => ?_
  refine uses_bind (uses_mapM' (fun _ => uses_attempt (uses_call trivial)) _) fun errs => ?_
  dsimp only
  split
  · exact uses_pure
  · exact uses_throw

end

theorem localContent_separate (db : Database) (name : String) (sch : TableSchema) (pid : String) :
    Uses KeepsSeparate (localContent db name sch pid) := by
  have hscan : Uses KeepsSeparate (contentScan db name sch pid) := by
    refine uses_step trivial fun parts => ?_
    dsimp only
    split
    · exact uses_pure
    · exact uses_step trivial fun _ => uses_bind uses_fromExcept fun _ => uses_pure
  refine uses_step trivial fun parts => ?_
  dsimp only
  split
  · exact uses_pure
  · exact uses_bind hscan fun _ => uses_pure

theorem planPartition_separate (store : Option ObjectStore) (dry : Bool) (p : OwnedPartition) :
    Uses KeepsSeparate (planPartition store dry p) := by
  have hlocal : Uses KeepsSeparate (planLocal p) := by
    refine uses_bind (uses_mapError (localContent_separate ..)) fun found => ?_
    split
    · exact uses_throw
    refine uses_bind uses_fromExcept fun plan => ?_
    split
    · exact uses_throw
    · exact uses_pure
  have hheld : Uses KeepsSeparate (planHeld dry p) := by
    unfold planHeld
    split
    · exact uses_pure
    · exact hlocal
  refine uses_bind hheld fun found => ?_
  obtain ⟨held, need⟩ := found
  exact uses_mapStep trivial fun _ => uses_pure

theorem gateScratch_separate (name : String) (t : OwnedTable) (pid : String)
    (group : List SafePartMapping) : Uses KeepsSeparate (gateScratch name t pid group) := by
  refine uses_mapStep trivial fun scans => ?_
  refine uses_mapStep trivial fun parts => ?_
  refine uses_bind uses_fromExcept fun c => ?_
  refine uses_bind (uses_forM fun _ _ => uses_mapError (uses_call trivial)) fun _ => ?_
  split
  · exact uses_throw
  · exact uses_pure

/-- The table that a restore drops at its end has a scratch name. -/
theorem restoreFrom_separate (pl : Planned) (n : Nat) (source : Source)
    (group : List SafePartMapping) : Uses KeepsSeparate (restoreFrom pl n source group) := by
  have hfill : ∀ t pid name, Uses KeepsSeparate (fillScratch t pid name source) := by
    intro t pid name
    cases source with
    | ownUnsafe =>
      exact uses_mapStep trivial fun _ => uses_mapError (uses_call trivial)
    | objectStore => exact uses_mapError (uses_call trivial)
  refine uses_bind (hfill ..) fun _ => uses_bind (gateScratch_separate ..) fun kept => ?_
  refine uses_mapStep trivial fun _ => ?_
  exact uses_mapStep (scratchName_marked ..) fun _ => uses_pure

theorem restorePartition_separate (pl : Planned) (n : Nat) :
    Uses KeepsSeparate (restorePartition pl n) := by
  have hsources : ∀ sources n, Uses KeepsSeparate (restoreSources pl n sources) := by
    intro sources
    induction sources with
    | nil => exact fun _ => uses_pure
    | cons source sources ih =>
      intro n
      unfold restoreSources
      dsimp only
      split
      · exact ih n
      · exact uses_bind (restoreFrom_separate ..) fun _ => uses_bind (ih _) fun _ => uses_pure
  unfold restorePartition
  split
  · exact uses_pure
  refine uses_bind uses_fromExcept fun _ => uses_bind (hsources ..) fun res => ?_
  dsimp only
  split
  · exact uses_throw
  refine uses_bind (uses_mapError (localContent_separate ..)) fun found => ?_
  split
  · exact uses_pure
  · exact uses_throw

theorem restoreAll_separate (n : Nat) (pls : List Planned) : Uses KeepsSeparate (restoreAll n pls) := by
  induction pls generalizing n with
  | nil => exact uses_pure
  | cons pl pls ih => exact uses_bind (restorePartition_separate ..) fun _ => ih _

omit [HouseGate] in
theorem checkPartitionSet_separate (partitions : List OwnedPartition) (t : OwnedTable) :
    Uses KeepsSeparate (checkPartitionSet partitions t) :=
  uses_mapStep trivial fun _ => uses_fromExcept

theorem readBack_separate (p : OwnedPartition) : Uses KeepsSeparate (readBack p) := by
  refine uses_bind (uses_mapError (localContent_separate ..)) fun found => ?_
  split
  · exact uses_pure
  · exact uses_throw

theorem alreadyRebuilt_separate (tables : List OwnedTable) (partitions : List OwnedPartition)
    (journaled : List Bool) : Uses KeepsSeparate (alreadyRebuilt tables partitions journaled) := by
  have hcomplete : Uses KeepsSeparate (tablesComplete partitions tables) := by
    induction tables with
    | nil => exact uses_pure
    | cons t ts ih =>
      refine uses_step trivial fun found => ?_
      split
      · exact uses_pure
      refine uses_bind (uses_attempt (checkPartitionSet_separate ..)) fun r => ?_
      split
      · exact uses_pure
      · exact ih
  have hcurrent : ∀ ps, Uses KeepsSeparate (currentInventories ps) := by
    intro ps
    induction ps with
    | nil => exact uses_pure
    | cons p ps ih =>
      refine uses_bind (localContent_separate ..) fun found => ?_
      split
      · exact uses_pure
      · exact uses_bind ih fun _ => uses_pure
  unfold alreadyRebuilt
  split
  · exact uses_pure
  refine uses_bind hcomplete fun complete => ?_
  split
  · refine uses_bind (hcurrent _) fun current => ?_
    split
    · exact uses_pure
    · exact uses_step trivial fun _ => uses_pure
  · exact uses_pure

end Uses

/-! ## The whole program -/

/-- Nobody else works on the server, and every step keeps the tables separate. -/
def scratchContract : Contract RebuildWorld := ⟨Eq, fun w w' => DropsScratch w → DropsScratch w'⟩

omit [HouseGate] in
theorem scratchContract_keeps : scratchContract.Keeps DropsScratch where
  rely := by
    rintro w _ rfl
    exact id
  guar w w' h := h

abbrev scratchWp {α : Type} (p : RebuildM α) (Q : α → RebuildWorld → Prop) (w : RebuildWorld) : Prop :=
  wpI rebuildMachine scratchContract DropsScratch p Q w

section Wp

variable {α : Type} {w : RebuildWorld}

theorem scratchWp_of_uses {p : RebuildM α} (hp : Uses KeepsSeparate p) :
    scratchWp p (fun _ _ => True) w := by
  intro hw
  have hrely : ∀ w w', scratchContract.rely w w' → DropsScratch w → DropsScratch w' :=
    scratchContract_keeps.rely
  refine wp.mono (wp_of_all hp hrely (fun op w b w' hop hs h => ?_) hw) fun r w h => ?_
  · obtain ⟨a, hrun⟩ := hs
    exact ⟨fun h => h.step hop hrun, h.step hop hrun⟩
  · cases r with
    | ok b => exact ⟨h, trivial⟩
    | error e => exact h

/-- A program whose parts keep the tables separate. -/
theorem scratchWp_bind {β : Type} {p : RebuildM α} {f : α → RebuildM β}
    (hp : scratchWp p (fun _ _ => True) w) (hf : ∀ a w, scratchWp (f a) (fun _ _ => True) w) :
    scratchWp (p >>= f) (fun _ _ => True) w :=
  hp.bind fun a w _ _ => hf a w

/-- The tables that the listing names look like scratch tables. -/
theorem listContaining_wp :
    scratchWp (call (.listContaining scratchMarker)) (fun names _ => ∀ n ∈ names, Marked n) w := by
  refine wpI_call scratchContract_keeps fun w₁ _ _ res w₂ hs => ?_
  obtain ⟨a, hrun⟩ := hs
  have hop : KeepsSeparate _ (.listContaining scratchMarker) := trivial
  refine ⟨fun h => h.step hop hrun, ?_⟩
  rintro names rfl n hn
  simp only [rebuildMachine, RebuildOp.run, RebuildAnswer.query] at hrun
  split at hrun
  · cases hrun
    obtain ⟨k, hk, rfl⟩ := List.mem_map.mp hn
    have hmatch := List.of_mem_filter hk
    exact (of_decide_eq_true hmatch).2
  · cases hrun

theorem dropScratches_wp : scratchWp dropScratches (fun _ _ => True) w := by
  refine (wpI_mapError listContaining_wp).bind fun names w _ hmarked => ?_
  refine scratchWp_of_uses (uses_forM fun n hn => ?_)
  exact uses_mapError (uses_call (hmarked n hn))

theorem rebuildTables_wp {cfg : Config} {store : Option ObjectStore} {tables : List OwnedTable}
    {partitions : List OwnedPartition}
    (hnames : ∀ t ∈ tables, ¬ Marked (chTableName t.schema.tableID)) :
    scratchWp (rebuildTables cfg store tables partitions) (fun _ _ => True) w := by
  refine scratchWp_bind (scratchWp_of_uses (locallyHeld_separate ..)) fun held w => ?_
  refine scratchWp_bind (scratchWp_of_uses (fence_separate ..)) fun fenced w => ?_
  refine scratchWp_bind (scratchWp_of_uses (uses_forM fun t ht =>
    uses_mapError (ensureTable_separate _ (hnames t ht)))) fun _ w => ?_
  refine scratchWp_bind (scratchWp_of_uses (uses_forM fun t ht =>
    uses_mapError (uses_call trivial))) fun _ w => ?_
  refine scratchWp_bind dropScratches_wp fun _ w => ?_
  refine scratchWp_bind (scratchWp_of_uses (uses_mapM' (planPartition_separate _ _) _)) fun plans w => ?_
  refine scratchWp_bind (scratchWp_of_uses uses_fromExcept) fun _ w => ?_
  refine scratchWp_bind (scratchWp_of_uses (restoreAll_separate ..)) fun _ w => ?_
  refine scratchWp_bind (scratchWp_of_uses (uses_forM fun t _ =>
    checkPartitionSet_separate ..)) fun _ w => ?_
  refine scratchWp_bind dropScratches_wp fun _ w => ?_
  refine scratchWp_bind (scratchWp_of_uses (uses_mapM' readBack_separate _)) fun inventories w => ?_
  exact scratchWp_of_uses (uses_mapStep trivial fun _ => uses_pure)

/-- The names of the tables that a rebuild creates do not look like scratch names. -/
def OwnedUnmarked (cfg : Config) (inp : Inputs) : Prop :=
  ∀ tables, ownedTables cfg inp = .ok tables → ∀ t ∈ tables, ¬ Marked (chTableName t.schema.tableID)

theorem rebuild_wp {cfg : Config} {inp : Inputs} {store : Option ObjectStore}
    (hnames : OwnedUnmarked cfg inp) : scratchWp (rebuild cfg inp store) (fun _ _ => True) w := by
  refine scratchWp_bind (scratchWp_of_uses uses_fromExcept) fun _ w => ?_
  refine wpI_bind (wpI_fromExcept fun tables htables => ?_)
  refine scratchWp_bind (scratchWp_of_uses (uses_call trivial)) fun journaled w => ?_
  split
  · refine scratchWp_of_uses (uses_bind (uses_mapM' (planPartition_separate _ _) _) fun plans => ?_)
    exact uses_bind uses_fromExcept fun _ => uses_pure
  refine scratchWp_bind (scratchWp_of_uses (alreadyRebuilt_separate ..)) fun already w => ?_
  split
  · exact wpI_pure trivial
  · exact rebuildTables_wp (hnames tables htables)

end Wp

/-! ## Executions -/

section Executions

variable {w w' : RebuildWorld}

omit [HouseGate] in
theorem RebuildWorld.mem_dropped_tableDropped {name n : String} {t : RebuildTable} :
    (n, t) ∈ (w.tableDropped name).dropped ↔
      (n, t) ∈ w.dropped ∨ n = name ∧ w.table .hgPromote n = some t := by
  unfold RebuildWorld.tableDropped
  split
  · next hnone =>
    refine ⟨.inl, fun h => h.elim id ?_⟩
    rintro ⟨rfl, hsome⟩
    cases hnone.symm.trans hsome
  · next t' hsome =>
    rw [List.mem_append, List.mem_singleton, Prod.mk.injEq]
    refine or_congr_right (and_congr_right ?_)
    rintro rfl
    rw [hsome, Option.some.injEq, eq_comm]

omit [HouseGate] in
theorem RebuildWorld.table_tableDropped {name n : String} (hn : n ≠ name) :
    (w.tableDropped name).table .hgPromote n = w.table .hgPromote n := by
  unfold RebuildWorld.tableDropped
  split
  · rfl
  · change (w.tables.erase (.hgPromote, name)).lookup (.hgPromote, n) = _
    rw [GoMap.lookup_erase, if_neg (by simpa using hn)]
    rfl

/-- When no statement fails, every listed table is dropped. -/
theorem drops_listed (names : List String) (w : RebuildWorld) :
    ∃ cs p' w', rebuildMachine.replay (names.forM fun n => mapError
        (·.wrap s!"rebuild restore: drop scratch hg_promote.{n}") (call (.dropTable n)) : RebuildM Unit)
        cs w = some (p', w') ∧
      ∀ n t, (n, t) ∈ w.dropped ∨ n ∈ names ∧ w.table .hgPromote n = some t → (n, t) ∈ w'.dropped := by
  induction names generalizing w with
  | nil => exact ⟨[], _, w, rfl, fun n t h => h.elim id fun h => absurd h.1 List.not_mem_nil⟩
  | cons name names ih =>
    obtain ⟨cs, p', w', hrun, hdropped⟩ := ih (w.tableDropped name)
    refine ⟨({} : RebuildAnswer) :: cs, p', w', hrun, fun n t h => hdropped n t ?_⟩
    by_cases hn : n = name
    · exact .inl (RebuildWorld.mem_dropped_tableDropped.mpr (h.imp_right fun h => ⟨hn, h.2⟩))
    rcases h with h | ⟨hmem, hlook⟩
    · exact .inl (RebuildWorld.mem_dropped_tableDropped.mpr (.inl h))
    · have hmem := (List.mem_cons.mp hmem).resolve_left hn
      exact .inr ⟨hmem, (RebuildWorld.table_tableDropped hn).trans hlook⟩

/-- `dropScratches` can drop every table that looks like a scratch table. -/
theorem dropScratches_drops (w : RebuildWorld) :
    ∃ cs p' w', rebuildMachine.replay dropScratches cs w = some (p', w') ∧
      ∀ n t, w.table .hgPromote n = some t → Marked n → (n, t) ∈ w'.dropped := by
  obtain ⟨cs, p', w', hrun, hdropped⟩ := drops_listed
    ((w.tables.keys.filter fun k => k.1 = .hgPromote ∧ Contains k.2 scratchMarker).map (·.2)) w
  refine ⟨({} : RebuildAnswer) :: cs, p', w', hrun, fun n t hlook hmark => hdropped n t (.inr ⟨?_, hlook⟩)⟩
  refine List.mem_map.mpr ⟨(.hgPromote, n), List.mem_filter.mpr ⟨?_, decide_eq_true ⟨rfl, hmark⟩⟩, rfl⟩
  exact GoMap.mem_keys.mpr ⟨t, hlook⟩

/-- What a program that keeps the tables separate drops. -/
theorem DropsScratch.replay {α : Type} {p : RebuildM α} {p' : Prog RebuildOp (Except Failure α)}
    {cs : List RebuildAnswer} (h : DropsScratch w) (hp : scratchWp p (fun _ _ => True) w)
    (hrun : rebuildMachine.replay p cs w = some (p', w')) : DropsScratch w' := by
  have hsteps := wp.replay (fun _ => rfl) (hp h) hrun
  clear hrun hp
  induction hsteps with
  | refl => exact h
  | tail _ hstep ih => exact hstep ih

end Executions

/-! ## The frame -/

/-- The configuration of the indexer 1. -/
def lostIndexer : Config where
  networkID := "net"
  indexerID := 1
  nodeID := "n"
  stateDir := "/state"
  keeperShardID := 0
  genesisTables := []
  dryRun := false

/-- A registry with one empty table of the database `a`. -/
def oneTable (table : String) : Inputs where
  registry := {
    siIndexerID := 1
    incarnations := [⟨1, "a", table, .chain, .active, [], some 1, false⟩]
    groups := []
    memberCheckpointSeqs := []
    stage3 := none
    numbered := rfl }
  quarantinedIndexers := [1]
  schema inc := .ok ⟨inc.key, ""⟩
  schemaHash _ := ""
  states := []
  unacked := []

/-- A server that has tables in hg_promote only. -/
def promoteTables (l : List (String × RebuildTable)) : RebuildWorld where
  tables := l.foldl (fun m e => m.insert (.hgPromote, e.1) e.2) .empty
  journal := newLocalState
  dropped := []

/-- No operation fails, and the server has no replica yet. -/
def newServer : List RebuildAnswer :=
  {} :: {} :: { found := false } :: List.replicate 16 {}

/-- A run over a new history drops only scratch tables if the names of the protocol tables of
    hg_promote, those that are there and those that the run creates, do not contain the
    scratch marker, and then it drops no table of a registry id without the marker. Without
    that, the cleanup of the scratch tables can drop a protocol table. -/
theorem rebuild_drops_scratch (cfg : Config) (inp : Inputs) (store : Option ObjectStore)
    {w : RebuildWorld} (hw : w.dropped = []) :
    ((∀ cs p' w', rebuildMachine.replay dropScratches cs w = some (p', w') →
        ∀ d ∈ w'.dropped, d.2.scratch = true) ↔ Separate w) ∧
      (Separate w → OwnedUnmarked cfg inp → ∀ cs p' w',
        rebuildMachine.replay (rebuild cfg inp store) cs w = some (p', w') →
          (∀ d ∈ w'.dropped, d.2.scratch = true) ∧
          ∀ key, ¬ Marked (chTableName key) → ∀ d ∈ w'.dropped, d.1 ≠ chTableName key) := by
  have hstart : Separate w → DropsScratch w := by
    intro hsep
    refine ⟨hsep, fun d hd => ?_⟩
    rw [hw] at hd
    cases hd
  refine ⟨⟨fun hall name t hlook hmark => ?_, fun hsep cs p' w' hrun d hd => ?_⟩, ?_⟩
  · obtain ⟨cs, p', w', hrun, hdropped⟩ := dropScratches_drops w
    exact hall cs p' w' hrun _ (hdropped name t hlook hmark)
  · exact (((hstart hsep).replay dropScratches_wp hrun).drops d hd).2
  intro hsep hnames cs p' w' hrun
  have hdrops := ((hstart hsep).replay (rebuild_wp hnames) hrun).drops
  refine ⟨fun d hd => (hdrops d hd).2, fun key hkey d hd heq => hkey ?_⟩
  exact heq ▸ (hdrops d hd).1

open SmallNode in
omit [HouseGate] in
/-- The leftover of an interrupted run is dropped, and nothing else. -/
theorem rebuild_drops_scratch_leftover : letI := gate
    ∃ w', rebuildMachine.replay (rebuild lostIndexer (oneTable "b") none) newServer
        (promoteTables [("a__b__rebuild_1", ⟨"", .empty, true⟩)]) = some w' ∧
      w'.2.dropped.map (·.1) = ["a__b__rebuild_1"] ∧ (∀ d ∈ w'.2.dropped, d.2.scratch = true) ∧
      ∀ d ∈ w'.2.dropped, d.1 ≠ chTableName "a.b" := by
  let _ := gate
  have hsep : Separate (promoteTables [("a__b__rebuild_1", ⟨"", .empty, true⟩)]) := by
    intro name t hlook _
    change (GoMap.insert GoMap.empty _ _).lookup _ = _ at hlook
    rw [GoMap.lookup_insert] at hlook
    split at hlook
    · cases hlook
      rfl
    · cases hlook
  have hnames : OwnedUnmarked lostIndexer (oneTable "b") := by
    intro tables htables t ht
    cases htables
    cases List.mem_singleton.mp ht
    decide
  obtain ⟨-, hruns⟩ := rebuild_drops_scratch lostIndexer (oneTable "b") none
    (w := promoteTables [("a__b__rebuild_1", ⟨"", .empty, true⟩)]) rfl
  obtain ⟨hscratch, hkeys⟩ := hruns hsep hnames newServer _ _ rfl
  exact ⟨_, rfl, rfl, hscratch, hkeys "a.b" (by decide)⟩

open SmallNode in
omit [HouseGate] in
/-- A rebuild on a new server creates the hg_promote table of `a.rebuild_x` and drops it
    again, and succeeds. -/
theorem rebuild_drops_protocol_table : letI := gate
    ∃ report w', rebuildMachine.replay (rebuild lostIndexer (oneTable "rebuild_x") none) newServer
        (promoteTables []) = some (.ret (.ok report), w') ∧
      ∃ d ∈ w'.dropped, d.1 = chTableName "a.rebuild_x" ∧ d.2.scratch = false := by
  let _ := gate
  exact ⟨_, _, rfl, _, List.mem_cons_self, rfl, rfl⟩

end ArbiterCore.Rebuild
