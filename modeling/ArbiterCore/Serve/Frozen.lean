-- SUMMARY: Leased copies do not change, and a lease is granted on a record read after the last change.
import ArbiterCore.Serve.Steps

/-!
# Leased content is frozen

The invariant `Inv` counts the calls of BeforeInstall that are pending or hold a
database. A marked database does not serve; so no lease of it is granted, for any
owner, and a pass that holds it has seen its last lease end.
-/

namespace ArbiterCore.Serve

open Durable Registry LeaseTable

/-! ## Lists of passes -/

theorem count_flatMap_set {α β : Type} [DecidableEq β] (f : α → List β) {l : List α} {i : Nat}
    {a : α} (h : l[i]? = some a) (a' : α) (b : β) :
    ((l.set i a').flatMap f).count b + (f a).count b = (l.flatMap f).count b + (f a').count b := by
  induction l generalizing i with
  | nil => simp at h
  | cons x l ih =>
    cases i with
    | zero =>
      simp only [List.getElem?_cons_zero, Option.some.injEq] at h
      subst h
      simp only [List.set_cons_zero, List.flatMap_cons, List.count_append]
      omega
    | succ i =>
      have hrest := ih (by simpa using h)
      simp only [List.set_cons_succ, List.flatMap_cons, List.count_append]
      omega

theorem forall_mem_set {α : Type} {P : α → Prop} {l : List α} {i : Nat} {a : α} (h : ∀ x ∈ l, P x) (ha : P a) :
    ∀ x ∈ l.set i a, P x :=
  fun x hx => (List.mem_or_eq_of_mem_set hx).elim (h x) fun heq => heq ▸ ha

variable {database : String} {g : Gates}

namespace Gates

theorem count_hold (g : Gates) (database : String) (p : OwnerDatabase) (h : g.phase = .running) :
    (g.hold database).marks.count p = g.marks.count p + if p = ⟨g.owner, database⟩ then 1 else 0 := by
  simp only [hold, marks, h, List.map_append, List.map_cons, List.map_nil, List.count_append,
    List.count_singleton]
  by_cases hp : p = ⟨g.owner, database⟩
  · simp [hp]
  · simp [hp, beq_eq_false_iff_ne.mpr (Ne.symm hp)]

theorem mem_marks_of_held (h : database ∈ g.held) :
    (⟨g.owner, database⟩ : OwnerDatabase) ∈ g.marks := by
  unfold marks
  split <;> simp [h]

end Gates

/-! ## The invariant -/

namespace Poll

def startEpoch : Poll → Nat
  | .registry e | .manifest e _ | .databases e _ _ => e
  | .copies r _ => r.startEpoch

end Poll

namespace World

structure Inv (w : World) : Prop where
  installing : ∀ p, (w.server.state p).installing = (w.passes.flatMap Gates.marks).count p
  /-- A marked database does not serve. -/
  stopped : ∀ p, 0 < (w.server.state p).installing → (w.server.state p).serving = false
  /-- A database that a pass holds has no lease. -/
  held : ∀ g ∈ w.passes, ∀ database ∈ g.held, w.server.table.of database = none
  /-- The only lease of a database that a pass waits for is the one it waits for. -/
  waiting : ∀ g ∈ w.passes, ∀ database id, g.phase = .waiting database id →
    ∀ l, w.server.table.of database = some l → l.id = id
  installed : ∀ p, (w.server.state p).installed ≤ w.server.epoch
  fresh : ∀ p, (w.server.state p).serving = true →
    freshRead (· = p) p ⟨(w.server.state p).copy, true⟩ w.log = true
  started : ∀ q, w.poll = some q → q.startEpoch ≤ w.server.epoch
  /-- What a poll has read of a database is up to date, or the poll will see an install. -/
  reads : ∀ r todo, w.poll = some (.copies r todo) → ∀ p read, r.reads.lookup p = some read →
    freshRead (· = p) p read w.log = true ∨ Server.isInstalling r (w.server.state p) = true

namespace Inv

variable {w w' : World} {i : Nat} {snapshotID : String} {key : OwnerDatabase}

theorem installing_pos (h : Inv w) (hg : g ∈ w.passes) {p : OwnerDatabase} (hp : p ∈ g.marks) :
    0 < (w.server.state p).installing := by
  rw [h.installing]
  exact List.count_pos_iff.mpr (List.mem_flatMap.mpr ⟨g, hg, hp⟩)

/-- Nothing runs, and no database is known. -/
theorem of_idle (hdbs : w.server.dbs = .empty) (hpasses : w.passes = []) (hpoll : w.poll = none) : Inv w := by
  have hstate : ∀ p, w.server.state p = .fresh := fun p => by simp [Server.state, hdbs]
  refine ⟨fun p => ?_, fun p hpos => ?_, ?_, ?_, fun p => ?_, fun p hs => ?_, ?_, ?_⟩
  · simp [hstate, hpasses, DbState.fresh]
  · simp [hstate, DbState.fresh] at hpos
  · simp [hpasses]
  · simp [hpasses]
  · simp [hstate, DbState.fresh]
  · simp [hstate, DbState.fresh] at hs
  · simp [hpoll]
  · simp [hpoll]

/-- Moves that touch neither databases nor passes nor polls, and grant nothing. -/
theorem quiet (h : Inv w) (hdbs : w'.server.dbs = w.server.dbs) (hepoch : w'.server.epoch = w.server.epoch)
    (hwithin : Within w.server.table w'.server.table) (hpasses : w'.passes = w.passes)
    (hpoll : w'.poll = w.poll) (hlog : w'.log = w.log) : Inv w' := by
  have hstate : ∀ p, w'.server.state p = w.server.state p := fun p =>
    congrArg (fun dbs => GoMap.getD dbs p DbState.fresh) hdbs
  refine ⟨?_, ?_, ?_, ?_, ?_, ?_, ?_, ?_⟩
  · simpa only [hstate, hpasses] using h.installing
  · simpa only [hstate] using h.stopped
  · rw [hpasses]
    exact fun g hg database hdb => hwithin.of_none (h.held g hg database hdb)
  · rw [hpasses]
    intro g hg database id hphase l' hl'
    obtain ⟨l, hl, hid⟩ := hwithin _ _ hl'
    exact hid ▸ h.waiting g hg database id hphase l hl
  · simpa only [hstate, hepoch] using h.installed
  · simpa only [hstate, hlog] using h.fresh
  · simpa only [hpoll, hepoch] using h.started
  · simpa only [hstate, hpoll, hlog] using h.reads

/-- Another poll, or none, that has read no copies. -/
theorem setPoll (h : Inv w) {q : Option Poll} (hstarted : ∀ q', q = some q' → q'.startEpoch ≤ w.server.epoch)
    (hreads : ∀ r todo, q = some (.copies r todo) → ∀ p, r.reads.lookup p = none) :
    Inv { w with poll := q } :=
  { h with
    started := hstarted
    reads := fun r todo hq p read hread => by
      rw [hreads r todo hq p] at hread
      cases hread }

/-- A poll reads the record of a copy. -/
theorem readCopy (h : Inv w) {r : PollReads} {p : OwnerDatabase} {todo : List OwnerDatabase}
    (hpoll : w.poll = some (.copies r (p :: todo))) (read : CopyRead) :
    Inv { w with
      poll := some (.copies { r with reads := r.reads.insert p read } todo)
      log := .read p read :: w.log } := by
  have hlog : ∀ p' read', freshRead (· = p') p' read' w.log = true →
      freshRead (· = p') p' read' (.read p read :: w.log) = true := by
    intro p' read' hfresh
    simp [freshRead, hfresh]
  refine { h with fresh := fun p' hs => hlog _ _ (h.fresh p' hs), started := ?_, reads := ?_ }
  · intro q hq
    cases hq
    exact h.started (.copies r (p :: todo)) hpoll
  intro r' todo' hq p' read' hread
  cases hq
  rw [GoMap.lookup_insert] at hread
  split at hread
  · next heq =>
    cases hread
    exact .inl (by simp [freshRead, heq])
  · exact (h.reads r _ hpoll p' read' hread).imp_left (hlog p' read')

/-- The locked section of a poll. -/
theorem applyPoll [Replay] (h : Inv w) {r : PollReads} (hpoll : w.poll = some (.copies r [])) :
    Inv { w with server := w.server.applyPoll w.cfg r w.now, poll := none } := by
  obtain ⟨hthins, hepoch, hpolls⟩ := Server.applyPoll_polls w.cfg r w.now w.server
  refine ⟨fun p => ?_, fun p hpos => ?_, fun g hg database hdb => ?_, fun g hg database id hphase l' hl' => ?_,
    fun p => ?_, fun p hs => ?_, nofun, nofun⟩
  · exact (hpolls p).installing.trans (h.installing p)
  · -- a database that starts to serve was not marked
    by_contra hserving
    have hpos' : 0 < (w.server.state p).installing := (hpolls p).installing ▸ hpos
    rcases (hpolls p).serving (by simpa using hserving) with ⟨-, hserved, -⟩ | ⟨-, hidle⟩
    · rw [h.stopped p hpos'] at hserved
      cases hserved
    · simp [Server.isInstalling, Nat.pos_iff_ne_zero.mp hpos'] at hidle
  · exact hthins.within.of_none (h.held g hg database hdb)
  · obtain ⟨l, hl, hid⟩ := hthins.within _ _ hl'
    exact hid ▸ h.waiting g hg database id hphase l hl
  · exact ((hpolls p).installed.trans (h.installed p)).trans hepoch.ge
  rcases (hpolls p).serving hs with ⟨hcopy, hserved, -⟩ | ⟨hread, hidle⟩
  · exact hcopy ▸ h.fresh p hserved
  rcases h.reads r [] hpoll p _ hread with hfresh | hinst
  · exact hfresh
  · rw [hidle] at hinst
    cases hinst

theorem passBegin (h : Inv w) (owner : Nat) :
    Inv { w with passes := w.passes ++ [⟨owner, [], [], .running⟩] } := by
  refine { h with
    installing := fun p => by simpa [Gates.marks] using h.installing p
    held := List.forall_mem_append.mpr ⟨h.held, ?_⟩
    waiting := List.forall_mem_append.mpr ⟨h.waiting, ?_⟩ }
  all_goals simp

/-- A pass goes on, with the same marks. -/
theorem setPass (h : Inv w) {g' : Gates} (hg : w.passes[i]? = some g)
    (hmarks : g'.marks = g.marks)
    (hheld : ∀ database ∈ g'.held, w.server.table.of database = none)
    (hphase : ∀ database id, g'.phase ≠ .waiting database id) :
    Inv { w with passes := w.passes.set i g' } := by
  refine { h with
    installing := fun p => ?_
    held := forall_mem_set h.held hheld
    waiting := forall_mem_set h.waiting fun d id hwait => absurd hwait (hphase d id) }
  have := count_flatMap_set Gates.marks hg g' p
  rw [h.installing p]
  dsimp only
  rw [hmarks] at this
  omega

/-- The first section of BeforeInstall, which a pass leaves with its database held, or
    waiting for the lease that the database has. -/
theorem mark (h : Inv w) {g' : Gates} (hg : w.passes[i]? = some g)
    (hphase : g.phase = .running) (hmarks : g'.marks = (g.hold database).marks)
    (hheld : ∀ d ∈ g'.held, d ∈ g.held ∨ (w.server.beforeInstall w.now ⟨g.owner, database⟩).2.table.of d = none)
    (hwait : ∀ d id, g'.phase = .waiting d id →
      d = database ∧ (w.server.beforeInstall w.now ⟨g.owner, database⟩).1 = some id) :
    Inv { w with
      server := (w.server.beforeInstall w.now ⟨g.owner, database⟩).2
      passes := w.passes.set i g' } := by
  have hthins := Server.thins_beforeInstall w.now ⟨g.owner, database⟩ w.server
  have hlease := Server.beforeInstall_lease w.now ⟨g.owner, database⟩ w.server
  have hstate := Server.state_beforeInstall w.now ⟨g.owner, database⟩ w.server
  have hepoch := Server.epoch_beforeInstall w.now ⟨g.owner, database⟩ w.server
  refine ⟨fun p => ?_, fun p => ?_,
    forall_mem_set (fun k hk d hd => hthins.within.of_none (h.held k hk d hd)) fun d hd => ?_,
    forall_mem_set (fun k hk d id hphase' l' hl' => ?_) fun d id hphase' l' hl' => ?_, fun p => ?_,
    fun p => ?_, fun q hq => ?_, fun r todo hpoll p read hread => ?_⟩
  · have hset := count_flatMap_set Gates.marks hg g' p
    have hcount := Gates.count_hold g database p hphase
    have hold := h.installing p
    rw [hmarks] at hset
    dsimp only
    rw [hstate p]
    split
    · next hp =>
      subst hp
      rw [if_pos rfl] at hcount
      dsimp only
      omega
    · next hp =>
      rw [if_neg hp] at hcount
      omega
  · dsimp only
    rw [hstate p]
    split
    · exact fun _ => rfl
    · exact h.stopped p
  · exact (hheld d hd).elim (fun hd => hthins.within.of_none (h.held g (List.mem_of_getElem? hg) d hd)) id
  · obtain ⟨l, hl, hid⟩ := hthins.within _ _ hl'
    exact hid ▸ h.waiting k hk d id hphase' l hl
  · obtain ⟨rfl, hid⟩ := hwait d id hphase'
    rw [hlease] at hid
    obtain ⟨l, hl, rfl⟩ := Option.map_eq_some_iff.mp hid
    cases hl.symm.trans hl'
    rfl
  · dsimp only
    rw [hstate p, hepoch]
    split
    · exact Nat.le_refl _
    · exact Nat.le_succ_of_le (h.installed p)
  · dsimp only
    rw [hstate p]
    split
    · exact fun hs => by cases hs
    · exact h.fresh p
  · exact (h.started q hq).trans (hepoch ▸ Nat.le_succ _)
  dsimp only
  rw [hstate p]
  split
  · exact .inr (by simp [Server.isInstalling])
  · exact h.reads r todo hpoll p read hread

theorem check [Replay] [Net] (h : Inv w) (hg : w.passes[i]? = some g)
    (hphase : g.phase = .running) (database : String) : Inv (w.check i g database) := by
  have hlease := Server.beforeInstall_lease w.now ⟨g.owner, database⟩ w.server
  unfold World.check
  split
  · exact h
  dsimp only
  split
  · next hnone =>
    refine h.mark hg hphase rfl (fun d hd => ?_) (fun d id hwait => by cases hwait)
    rcases List.mem_append.mp hd with hd | hd
    · exact .inl hd
    · rw [List.mem_singleton.mp hd]
      exact .inr (Option.map_eq_none_iff.mp (hlease.symm.trans hnone))
  · next id hsome =>
    refine h.mark hg hphase (by simp [Gates.hold, Gates.marks]) (fun d hd => .inl hd) (fun d id' hwait => ?_)
    cases hwait
    exact ⟨rfl, hsome⟩

/-- A call of BeforeInstall ends: by an error, or by its AfterInstall. -/
theorem unmark (h : Inv w) {g' : Gates} {s : Server}
    (hg : w.passes[i]? = some g) (hs : Server.Unmarks key w.server s)
    (hmarks : ∀ p, g.marks.count p = g'.marks.count p + if p = key then 1 else 0)
    (hheld : ∀ d ∈ g'.held, d ∈ g.held) (hphase : ∀ d id, g'.phase ≠ .waiting d id) :
    Inv { w with server := s, passes := w.passes.set i g' } := by
  have hmarked : 0 < (w.server.state key).installing := by
    refine h.installing_pos (List.mem_of_getElem? hg) (List.count_pos_iff.mp ?_)
    have := hmarks key
    rw [if_pos rfl] at this
    omega
  refine ⟨fun p => ?_, fun p hpos => ?_, ?_, ?_, fun p => ?_, fun p => ?_,
    fun q hq => (h.started q hq).trans hs.epoch, fun r todo hpoll p read hread => ?_⟩
  · have hset := count_flatMap_set Gates.marks hg g' p
    have hcount := hmarks p
    have hold := h.installing p
    by_cases hp : p = key
    · subst hp
      rw [if_pos rfl] at hcount
      have := hs.installing
      dsimp only
      omega
    · rw [if_neg hp] at hcount
      dsimp only
      rw [hs.other p hp]
      omega
  · by_cases hp : p = key
    · subst hp
      exact hs.serving.trans (h.stopped p hmarked)
    · dsimp only at hpos ⊢
      rw [hs.other p hp] at hpos ⊢
      exact h.stopped p hpos
  · dsimp only
    rw [hs.table]
    exact forall_mem_set h.held fun d hd => h.held g (List.mem_of_getElem? hg) d (hheld d hd)
  · dsimp only
    rw [hs.table]
    exact forall_mem_set h.waiting fun d id hphase' => absurd hphase' (hphase d id)
  · by_cases hp : p = key
    · subst hp
      exact (hs.installed hmarked).2.le
    · dsimp only
      rw [hs.other p hp]
      exact (h.installed p).trans hs.epoch
  · by_cases hp : p = key
    · subst hp
      dsimp only
      rw [hs.serving, hs.copy]
      exact h.fresh p
    · dsimp only
      rw [hs.other p hp]
      exact h.fresh p
  · by_cases hp : p = key
    · -- the epoch of the end is after the start of the poll
      subst hp
      have hstart := h.started _ hpoll
      have hend := (hs.installed hmarked).1
      exact .inr (by simpa [Server.isInstalling] using .inr (Nat.lt_of_le_of_lt hstart hend))
    · dsimp only
      rw [hs.other p hp]
      exact h.reads r todo hpoll p read hread

/-- A statement of a pass changes a copy of a database that the pass holds. -/
theorem statement (h : Inv w) (hg : g ∈ w.passes) (hdb : database ∈ g.held) :
    Inv { w with log := .changed ⟨g.owner, database⟩ :: w.log } := by
  have hmarked := h.installing_pos hg (Gates.mem_marks_of_held hdb)
  have hlog : ∀ p read, p ≠ ⟨g.owner, database⟩ → freshRead (· = p) p read w.log = true →
      freshRead (· = p) p read (.changed ⟨g.owner, database⟩ :: w.log) = true := by
    intro p read hp hfresh
    simp [freshRead, hfresh, hp.symm]
  refine { h with fresh := fun p hs => ?_, reads := fun r todo hpoll p read hread => ?_ }
  · refine hlog p _ (fun hp => ?_) (h.fresh p hs)
    subst hp
    dsimp only at hs
    rw [h.stopped _ hmarked] at hs
    cases hs
  · by_cases hp : p = ⟨g.owner, database⟩
    · subst hp
      exact .inr (by simpa [Server.isInstalling] using .inl hmarked)
    · exact (h.reads r todo hpoll p read hread).imp_left (hlog p read hp)

/-- No lease is granted of a database that a pass has marked. -/
theorem not_acquirable (h : Inv w) (hg : g ∈ w.passes)
    (hmark : (⟨g.owner, database⟩ : OwnerDatabase) ∈ g.marks)
    {found : DbState} :
    (w.server.sweep w.now).acquirable database snapshotID ≠ .ok (key, found) := by
  intro hfound
  have hpos := h.installing_pos hg hmark
  obtain ⟨-, hkey, hserving, -, hunique⟩ := Server.acquirable_ok hfound
  have hself := hunique ⟨g.owner, database⟩ _ rfl (Server.lookup_of_installing hpos)
  subst hself
  have hstate := Server.state_of_lookup (s := w.server) hkey
  have hstopped := h.stopped _ hpos
  rw [hstate, hserving] at hstopped
  cases hstopped

/-- A grant leaves every database of a pass without a lease, or with the one that the
    pass waits for. -/
theorem grant (h : Inv w) {found : DbState}
    (hfound : (w.server.sweep w.now).acquirable database snapshotID = .ok (key, found))
    {l : Lease} (hdb : l.database = database)
    (hfresh : (w.server.sweep w.now).table.byID.lookup l.id = none) :
    Inv { w with
      server := { w.server.sweep w.now with table := Server.replace (w.server.sweep w.now).table l hfresh } } := by
  -- a lease of another database was there before
  have hother : ∀ d, d ≠ database → ∀ l',
      (Server.replace (w.server.sweep w.now).table l hfresh).of d = some l' →
      w.server.table.of d = some l' := by
    intro d hd l' hl'
    obtain ⟨hlook, hdb'⟩ := of_eq_some.mp hl'
    rcases Server.lookup_replace hlook with ⟨-, rfl⟩ | ⟨hlook, -⟩
    · exact absurd (hdb'.symm.trans hdb) hd
    · exact of_eq_some.mpr ⟨(lookup_sweep.mp hlook).1, hdb'⟩
  refine { h with held := fun g hg d hd => ?_, waiting := fun g hg d id hphase l' hl' => ?_ }
  · have hne : d ≠ database := by
      rintro rfl
      exact h.not_acquirable hg (Gates.mem_marks_of_held hd) hfound
    cases hl' : (Server.replace (w.server.sweep w.now).table l hfresh).of d with
    | none => rfl
    | some l' =>
      have hold := hother d hne l' hl'
      rw [h.held g hg d hd] at hold
      cases hold
  · have hne : d ≠ database := by
      rintro rfl
      refine h.not_acquirable hg ?_ hfound
      simp [Gates.marks, hphase]
    exact h.waiting g hg d id hphase l' (hother d hne l' hl')

end Inv

/-! ## Steps and runs -/

theorem server_release (w : World) (id : String) (o : Outcome) :
    (w.release id o).server = { w.server with table := (w.server.table.finish id).sweep w.now } :=
  Server.server_release w.now id w.server o w.file

variable {w w' : World}

/-- A call that waited holds the database when its lease has ended, waits on when its
    timer fired, and gives up when its context ended. -/
theorem Inv.wake (h : Inv w) {i : Nat} {g : Gates} (hg : w.passes[i]? = some g) {database id : String}
    (hphase : g.phase = .waiting database id) {k : Wake} (hact : w.wake i g database id k = some w') : Inv w' := by
  have hmem := List.mem_of_getElem? hg
  cases k with
  | done =>
    simp only [World.wake] at hact
    split at hact
    · next hdone =>
      cases hact
      -- a call that waits is counted like one that holds
      refine h.setPass hg (by simp [Gates.hold, Gates.marks, hphase]) (fun d hd => ?_)
        (fun d id' hw => by cases hw)
      rcases List.mem_append.mp hd with hd | hd
      · exact h.held g hmem d hd
      · -- the awaited lease was the only one
        rw [List.mem_singleton.mp hd]
        cases hl : w.server.table.of database with
        | none => rfl
        | some l =>
          have hid := h.waiting g hmem database id hphase l hl
          have hlook := (of_eq_some.mp hl).1
          rw [hid, hdone] at hlook
          cases hlook
    · cases hact
  | timer =>
    cases hact
    exact h.quiet rfl rfl Thins.sweep.within rfl rfl rfl
  | cancelled =>
    cases hact
    refine h.unmark hg (Server.giveUp_unmarks _ _) (fun p => ?_) (fun d hd => hd) (fun d id' hw => by cases hw)
    simp only [Gates.marks, hphase, List.map_append, List.map_cons, List.map_nil, List.count_append,
      List.count_singleton, beq_iff_eq, eq_comm (a := p)]

variable [Replay] [Net] {a : Action}

theorem Inv.act (h : Inv w) (hact : w.act a = some w') : Inv w' := by
  cases a with
  | serving =>
    cases hact
    exact h.quiet rfl rfl Thins.sweep.within rfl rfl rfl
  | recordProbe owner failed =>
    cases hact
    exact h.quiet rfl rfl .refl rfl rfl rfl
  | acquire database snapshotID newID o =>
    obtain ⟨id, -, rfl⟩ := Option.map_eq_some_iff.mp hact
    have hacq := Server.acquire_acquired w.cfg w.now database snapshotID w.server id o w.file
    dsimp only
    generalize w.server.acquire w.cfg w.now database snapshotID id o w.file = r at hacq ⊢
    cases hacq with
    | refused e => exact h.quiet rfl rfl Thins.sweep.within rfl rfl rfl
    | failed e l err ho => exact h.quiet rfl rfl Thins.sweep.within rfl rfl rfl
    | granted key found id hid hfound l hl hfresh =>
      exact (h.grant hfound (by rw [hl]) hfresh).quiet rfl rfl .refl rfl rfl rfl
  | renew id o =>
    cases hact
    have hren := Server.renew_renewed w.now id w.server o w.file
    unfold World.renew
    dsimp only
    generalize w.server.renew w.now id o w.file = r at hren ⊢
    cases hren with
    | refused e => exact h.quiet rfl rfl Thins.sweep.within rfl rfl rfl
    | failed e err ho l hl hrevoked => exact h.quiet rfl rfl Thins.sweep.within rfl rfl rfl
    | renewed l hl => exact h.quiet rfl rfl (Thins.sweep.within.trans within_renewAt) rfl rfl rfl
  | release id o =>
    cases hact
    refine h.quiet (by rw [server_release]) (by rw [server_release]) ?_ rfl rfl rfl
    rw [server_release]
    exact within_finish.trans Thins.sweep.within
  | pollStart =>
    simp only [World.act] at hact
    split at hact
    · cases hact
      exact h.setPoll (fun q hq => by cases hq; exact Nat.le_refl _) nofun
    · cases hact
  | pollRegistry view | pollManifest manifest =>
    simp only [World.act] at hact
    split at hact
    · next hpoll =>
      cases hact
      have hstarted := h.started _ hpoll
      exact h.setPoll (fun q hq => by cases hq; exact hstarted) nofun
    · cases hact
  | pollDatabases pairs =>
    simp only [World.act] at hact
    split at hact
    · next e view manifest hpoll =>
      cases hact
      have hstarted := h.started _ hpoll
      refine h.setPoll (fun q hq => by cases hq; exact hstarted) fun r todo hq p => ?_
      cases hq
      exact GoMap.lookup_empty p
    · cases hact
  | pollDatabase read =>
    simp only [World.act] at hact
    split at hact
    · next r p todo hpoll =>
      cases hact
      exact h.readCopy hpoll read
    · cases hact
  | pollCancelled =>
    simp only [World.act] at hact
    split at hact
    · cases hact
      exact h.setPoll nofun nofun
    · cases hact
  | pollApply =>
    simp only [World.act] at hact
    split at hact
    · next r hpoll =>
      cases hact
      exact h.applyPoll hpoll
    · cases hact
  | passBegin owner =>
    cases hact
    exact h.passBegin owner
  | passCheck i database =>
    simp only [World.act] at hact
    split at hact
    · next g hg =>
      split at hact
      · next hphase =>
        cases hact
        exact h.check hg hphase database
      · cases hact
    · cases hact
  | passWake i k =>
    simp only [World.act] at hact
    split at hact
    · next g hg =>
      split at hact
      · next database id hphase =>
        exact h.wake hg hphase hact
      · cases hact
    · cases hact
  | passStatement i database =>
    simp only [World.act] at hact
    split at hact
    · next g hg =>
      split at hact
      · next hheld =>
        cases hact
        exact h.statement (List.mem_of_getElem? hg) hheld.2
      · cases hact
    · cases hact
  | passEnd i =>
    simp only [World.act] at hact
    split at hact
    · next g hg =>
      split at hact
      · next hphase =>
        cases hact
        refine h.setPass hg ?_ (h.held g (List.mem_of_getElem? hg)) (fun d id hw => by cases hw)
        simp [Gates.marks, hphase]
      · cases hact
    · cases hact
  | passAfter i =>
    simp only [World.act] at hact
    split at hact
    · next g hg =>
      split at hact
      · next database held hphase hheld =>
        cases hact
        refine h.unmark hg (Server.afterInstall_unmarks _ _) (fun p => ?_) (fun d hd => ?_)
          (fun d id hw => ?_)
        · simp only [Gates.marks, hphase, hheld, List.map_cons, List.count_cons, beq_iff_eq, eq_comm (a := p)]
        · rw [hheld]
          exact List.mem_cons_of_mem _ hd
        · rw [hphase] at hw
          cases hw
      · cases hact
    · cases hact

/-! ## What the host holds -/

/-- The actions by what they do to leases: most only thin them out. -/
inductive Leases (w w' : World) : Action → Prop where
  | acquire (database snapshotID : String) (newID : Except String String) (o : Outcome)
    (h : w.acquire database snapshotID newID o = some w') :
    Leases w w' (.acquire database snapshotID newID o)
  | renew (id : String) (o : Outcome) (h : w' = w.renew id o) : Leases w w' (.renew id o)
  | release (id : String) (o : Outcome) (h : w' = w.release id o) : Leases w w' (.release id o)
  | thin {a : Action} (hheld : w'.held = w.held) (hissued : w'.issued = w.issued) (hfile : w'.file = w.file)
    (hnow : w'.now = w.now) (hup : w'.up = w.up) (hcfg : w'.cfg = w.cfg)
    (hthins : Thins w.now w.server.table w'.server.table) : Leases w w' a

omit [Net] in
theorem act_leases (hact : w.act a = some w') : Leases w w' a := by
  cases a with
  | acquire database snapshotID newID o => exact .acquire database snapshotID newID o hact
  | renew id o => exact .renew id o (Option.some.inj hact).symm
  | release id o => exact .release id o (Option.some.inj hact).symm
  | serving =>
    cases hact
    exact .thin rfl rfl rfl rfl rfl rfl .sweep
  | recordProbe owner failed =>
    cases hact
    exact .thin rfl rfl rfl rfl rfl rfl .refl
  | passBegin owner =>
    cases hact
    exact .thin rfl rfl rfl rfl rfl rfl .refl
  | pollStart | pollRegistry view | pollManifest manifest | pollDatabases pairs | pollDatabase read
  | pollCancelled =>
    simp only [World.act] at hact
    split at hact
    all_goals cases hact
    exact .thin rfl rfl rfl rfl rfl rfl .refl
  | pollApply =>
    simp only [World.act] at hact
    split at hact
    all_goals cases hact
    exact .thin rfl rfl rfl rfl rfl rfl (Server.applyPoll_polls w.cfg _ w.now w.server).1
  | passCheck i database =>
    simp only [World.act] at hact
    split at hact
    · next g hg =>
      split at hact
      · cases hact
        unfold World.check
        split
        · exact .thin rfl rfl rfl rfl rfl rfl .refl
        · exact .thin rfl rfl rfl rfl rfl rfl (Server.thins_beforeInstall w.now ⟨g.owner, database⟩ w.server)
      · cases hact
    · cases hact
  | passWake i k =>
    simp only [World.act] at hact
    split at hact
    · next g hg =>
      split at hact
      · next database id hphase =>
        cases k with
        | done =>
          simp only [World.wake] at hact
          split at hact
          all_goals cases hact
          exact .thin rfl rfl rfl rfl rfl rfl .refl
        | timer =>
          cases hact
          exact .thin rfl rfl rfl rfl rfl rfl .sweep
        | cancelled =>
          cases hact
          refine .thin rfl rfl rfl rfl rfl rfl ?_
          rw [(Server.giveUp_unmarks ⟨g.owner, database⟩ w.server).table]
          exact .refl
      · cases hact
    · cases hact
  | passStatement i database | passEnd i =>
    simp only [World.act] at hact
    split at hact
    · split at hact
      all_goals cases hact
      exact .thin rfl rfl rfl rfl rfl rfl .refl
    · cases hact
  | passAfter i =>
    simp only [World.act] at hact
    split at hact
    · next g hg =>
      split at hact
      · next database held hphase hheld =>
        cases hact
        refine .thin rfl rfl rfl rfl rfl rfl ?_
        rw [(Server.afterInstall_unmarks ⟨g.owner, database⟩ w.server).table]
        exact .refl
      · cases hact
    · cases hact

omit [Net] in
theorem up_act (hact : w.act a = some w') : w'.up = w.up := by
  cases act_leases hact with
  | acquire database snapshotID newID o hacq =>
    obtain ⟨id, -, rfl⟩ := Option.map_eq_some_iff.mp hacq
    rfl
  | renew id o heq => rw [heq]; rfl
  | release id o heq => rw [heq]; rfl
  | thin hheld hissued hfile hnow hup hcfg hthins => exact hup

/-- The server knows every lease that a host holds. -/
structure Known (w : World) : Prop where
  live : ∀ id g, w.Live id g → ∃ l, w.server.table.byID.lookup id = some l ∧ l.database = g.database ∧
    g.expiry ≤ l.expiresAt
  issued : ∀ id g, w.held.lookup id = some g → id ∈ w.issued

section

omit [Replay] [Net]

theorem lookup_grant {held : GoMap String Grant} {l : Lease} {id : String} {g : Grant}
    (h : (grant held l).lookup id = some g) :
    id = l.id ∧ g = .of l ∨
      held.lookup id = some g ∧ g.database ≠ l.database := by
  unfold grant at h
  rw [GoMap.lookup_insert] at h
  split at h
  · next heq => exact .inl ⟨heq, (Option.some.inj h).symm⟩
  rw [GoMap.lookup_eraseWhere] at h
  split at h
  · cases h
  · next hkeep => exact .inr ⟨h, by simpa [h] using hkeep⟩

theorem lookup_regrant {held : GoMap String Grant} {l : Lease} {id : String} {g : Grant}
    (h : (regrant held l).lookup id = some g) :
    id = l.id ∧ g = .of l ∧ (held.lookup id).isSome ∨ id ≠ l.id ∧ held.lookup id = some g := by
  unfold regrant at h
  split at h
  · next g₀ hold =>
    rw [GoMap.lookup_insert] at h
    split at h
    · next hid => exact .inl ⟨hid, (Option.some.inj h).symm, by rw [hid, hold]; rfl⟩
    · next hid => exact .inr ⟨hid, h⟩
  · next hnone =>
    refine .inr ⟨fun hid => ?_, h⟩
    rw [hid, hnone] at h
    cases h

theorem Known.thins (h : Known w) (hheld : w'.held = w.held)
    (hissued : ∀ id ∈ w.issued, id ∈ w'.issued) (hnow : w'.now = w.now)
    (hthins : Thins w.now w.server.table w'.server.table) : Known w' := by
  refine ⟨fun id g hg => ?_, fun id g hg => hissued id (h.issued id g (hheld ▸ hg))⟩
  obtain ⟨hg, hlive⟩ := hg
  rw [hheld] at hg
  rw [hnow] at hlive
  obtain ⟨l, hl, hdb, hexpiry⟩ := h.live id g ⟨hg, hlive⟩
  obtain ⟨l', hl', hdb', hexpiry'⟩ := hthins.keeps hl (by omega)
  exact ⟨l', hl', hdb'.trans hdb, by omega⟩

theorem Known.acquire (h : Known w) {snapshotID : String} {newID : Except String String}
    {o : Outcome} (hact : w.acquire database snapshotID newID o = some w') : Known w' := by
  obtain ⟨id, hfresh, rfl⟩ := Option.map_eq_some_iff.mp hact
  have hissued : ∀ x ∈ w.issued, x ∈ newID.toOption.toList ++ w.issued := fun x hx =>
    List.mem_append_right _ hx
  have hacq := Server.acquire_acquired w.cfg w.now database snapshotID w.server id o w.file
  dsimp only
  generalize w.server.acquire w.cfg w.now database snapshotID id o w.file = r at hacq ⊢
  cases hacq with
  | refused e => exact h.thins rfl hissued rfl .sweep
  | failed e l err ho => exact h.thins rfl hissued rfl .sweep
  | granted key found id' hid hfound l hl hnone =>
    refine ⟨fun x g hg => ?_, fun x g hg => ?_⟩
    · obtain ⟨hg, hlive⟩ := hg
      rcases lookup_grant hg with ⟨rfl, rfl⟩ | ⟨hg, hne⟩
      · exact ⟨l, Server.lookup_replace_self, rfl, Int.le_refl _⟩
      · obtain ⟨l', hl', hdb, hexpiry⟩ := h.live x g ⟨hg, hlive⟩
        dsimp only at hlive
        have hswept := lookup_sweep.mpr ⟨hl', (by omega : w.now < l'.expiresAt)⟩
        exact ⟨l', Server.lookup_replace_of_ne hswept (hdb ▸ hne), hdb, hexpiry⟩
    · rcases lookup_grant hg with ⟨rfl, -⟩ | ⟨hg, -⟩
      · cases newID with
        | error e =>
          simp only [World.fresh, Option.some.injEq] at hfresh
          rw [hid] at hfresh
          cases hfresh
        | ok y =>
          simp only [World.fresh] at hfresh
          split at hfresh
          · cases hfresh
            cases hid
            simp [hl, Except.toOption]
          · cases hfresh
      · exact hissued x (h.issued x g hg)

theorem Known.renew (h : Known w) (id : String) (o : Outcome) : Known (w.renew id o) := by
  have hren := Server.renew_renewed w.now id w.server o w.file
  unfold World.renew
  dsimp only
  generalize w.server.renew w.now id o w.file = r at hren ⊢
  cases hren with
  | refused e => exact h.thins rfl (fun _ hx => hx) rfl .sweep
  | failed e err ho l hl hrevoked => exact h.thins rfl (fun _ hx => hx) rfl .sweep
  | renewed l hl =>
    have hself := lookup_renewAt_self w.now hl
    have hid := (w.server.sweep w.now).table.id_eq hl
    dsimp only
    rw [hself]
    refine ⟨fun x g hg => ?_, fun x g hg => ?_⟩
    · obtain ⟨hg, hlive⟩ := hg
      rcases lookup_regrant hg with ⟨hx, rfl, -⟩ | ⟨hx, hg⟩
      · dsimp only at hx
        rw [hx, hid]
        exact ⟨_, hself, rfl, Int.le_refl _⟩
      · -- the other leases are as before
        obtain ⟨l', hl', hdb, hexpiry⟩ := h.live x g ⟨hg, hlive⟩
        dsimp only at hlive hx
        refine ⟨l', ?_, hdb, hexpiry⟩
        rw [renewAt, lookup_revise, if_neg (hid ▸ hx)]
        exact lookup_sweep.mpr ⟨hl', by omega⟩
    · rcases lookup_regrant hg with ⟨-, -, hold⟩ | ⟨-, hg⟩
      · obtain ⟨g₀, hold⟩ := Option.isSome_iff_exists.mp hold
        exact h.issued x g₀ hold
      · exact h.issued x g hg

theorem held_release {id x : String} {o : Outcome} {g : Grant}
    (hg : (w.release id o).held.lookup x = some g) : x ≠ id ∧ w.held.lookup x = some g := by
  have hg : (w.held.erase id).lookup x = some g := hg
  rw [GoMap.lookup_erase] at hg
  split at hg
  · cases hg
  · next hx => exact ⟨hx, hg⟩

theorem Known.release (h : Known w) (id : String) (o : Outcome) : Known (w.release id o) := by
  refine ⟨fun x g hg => ?_, fun x g hg => h.issued x g (held_release hg).2⟩
  obtain ⟨hx, hold⟩ := held_release hg.1
  have hlive : w.now < g.expiry := hg.2
  obtain ⟨l, hl, hdb, hexpiry⟩ := h.live x g ⟨hold, hlive⟩
  refine ⟨l, ?_, hdb, hexpiry⟩
  rw [server_release]
  exact lookup_sweep.mpr ⟨by rw [lookup_finish, if_neg hx, hl], by omega⟩

end

omit [Net] in
theorem Known.act (h : Known w) (hact : w.act a = some w') : Known w' := by
  cases act_leases hact with
  | acquire database snapshotID newID o hacq => exact h.acquire hacq
  | renew id o heq => exact heq ▸ h.renew id o
  | release id o heq => exact heq ▸ h.release id o
  | thin hheld hissued hfile hnow hup hcfg hthins =>
    exact h.thins hheld (fun x hx => hissued ▸ hx) hnow hthins

omit [Replay] [Net] in
theorem Known.advance (h : Known w) (d : Nat) : Known { w with now := w.now + d } :=
  ⟨fun id g hg => h.live id g ⟨hg.1, by have := hg.2; dsimp only at this; omega⟩, h.issued⟩

omit [Replay] in
theorem Inv.restart {cfg : Config} (h : w.restart cfg = some w') : Inv w' := by
  unfold World.restart at h
  dsimp only at h
  split at h
  · cases h
    exact .of_idle rfl rfl rfl
  · cases h

theorem act_of_move (hmove : w.move (.act a) = some w') : w.up = true ∧ w.act a = some w' := by
  simp only [move] at hmove
  split at hmove
  · next hup => exact ⟨hup, hmove⟩
  · cases hmove

/-- A move within the life of a process. -/
theorem frozen_move {m : Move} (hok : m.inProcess = true) (hmove : w.move m = some w')
    (h : Inv w ∧ Known w) : Inv w' ∧ Known w' := by
  cases m with
  | advance d =>
    cases hmove
    exact ⟨h.1.quiet rfl rfl .refl rfl rfl rfl, h.2.advance d⟩
  | act a =>
    have hact := (act_of_move hmove).2
    exact ⟨h.1.act hact, h.2.act hact⟩
  | crash => cases hok
  | restart cfg => cases hok

theorem frozen_run {file : LeaseFile} {now : Int} {cfg : Config} {w₀ : World} {ms : List Move}
    (hstart : (initial file now).move (.restart cfg) = some w₀)
    (hrun : run (fun _ m => m.inProcess) ms w₀ = some w) : Inv w ∧ Known w := by
  refine run_keeps (P := fun w => Inv w ∧ Known w) (fun w m w' h hok hmove => frozen_move hok hmove h) ?_ hrun
  have hrestart : (initial file now).restart cfg = some w₀ := hstart
  refine ⟨.restart hrestart, ?_⟩
  -- no host holds a lease yet
  have hheld : w₀.held = .empty := by
    unfold World.restart at hrestart
    dsimp only at hrestart
    split at hrestart
    · cases hrestart
      rfl
    · cases hrestart
  refine ⟨fun id g hg => ?_, fun id g hg => ?_⟩
  · have := hg.1
    simp [hheld] at this
  · simp [hheld] at hg

omit [Replay] [Net] in
/-- A lease is granted of a database that `acquire` finds, to its owner. -/
theorem acquirable_of_granted (h : Known w) {snapshotID id : String} {o : Outcome}
    (hact : w.acquire database snapshotID (.ok id) o = some w') {g : Grant}
    (hg : w'.held.lookup id = some g) :
    ∃ key found, (w.server.sweep w.now).acquirable database snapshotID = .ok (key, found) ∧
      g.owner = key.owner := by
  obtain ⟨id', hfresh, rfl⟩ := Option.map_eq_some_iff.mp hact
  simp only [World.fresh] at hfresh
  split at hfresh
  · next hnew =>
    have hacq := Server.acquire_acquired w.cfg w.now database snapshotID w.server id' o w.file
    dsimp only at hg
    generalize w.server.acquire w.cfg w.now database snapshotID id' o w.file = r at hacq hg
    cases hacq with
    | refused e => exact absurd (h.issued id g hg) hnew.1
    | failed e l err ho => exact absurd (h.issued id g hg) hnew.1
    | granted key found id'' hid hfound l hl hnone =>
      rcases lookup_grant hg with ⟨-, rfl⟩ | ⟨hg, -⟩
      · exact ⟨key, found, hfound, by rw [hl]; rfl⟩
      · exact absurd (h.issued id g hg) hnew.1
  · cases hfresh

/-- While a host holds a lease, no statement of a pass changes a copy of its database. A
    lease is granted on a record of the copies of its owner that was read after the last
    statement that changed them. While a pass holds a database, no lease of it exists and
    none is granted. -/
theorem lease_freezes_copies {file : LeaseFile} {now : Int} {cfg : Config} {w₀ w : World} {ms : List Move}
    (hstart : (initial file now).move (.restart cfg) = some w₀)
    (hrun : run (fun _ m => m.inProcess) ms w₀ = some w) :
    (∀ i database w', w.move (.act (.passStatement i database)) = some w' →
      ∀ id g, w.Live id g → g.database ≠ database) ∧
    (∀ database snapshotID id o w' g,
      w.move (.act (.acquire database snapshotID (.ok id) o)) = some w' → w'.held.lookup id = some g →
      ∃ copy : DatabaseCopy, copy.snapshotID = snapshotID ∧
        freshRead (· = ⟨g.owner, database⟩) ⟨g.owner, database⟩ ⟨copy, true⟩ w.log = true) ∧
    (∀ k ∈ w.passes, ∀ database ∈ k.held,
      (∀ id l, w.server.table.byID.lookup id = some l → l.database ≠ database) ∧
      ∀ snapshotID id o w' g,
        w.move (.act (.acquire database snapshotID (.ok id) o)) = some w' → w'.held.lookup id ≠ some g) := by
  obtain ⟨hinv, hknown⟩ := frozen_run hstart hrun
  refine ⟨?_, ?_, ?_⟩
  · intro i database w' hmove id g hg
    have hstatement := (act_of_move hmove).2
    simp only [World.act] at hstatement
    split at hstatement
    · next k hk =>
      split at hstatement
      · next hheld =>
        obtain ⟨l, hl, hdb, -⟩ := hknown.live id g hg
        rw [← hdb]
        exact of_eq_none.mp (hinv.held k (List.mem_of_getElem? hk) database hheld.2) id l hl
      · cases hstatement
    · cases hstatement
  · intro database snapshotID id o w' g hmove hg
    obtain ⟨key, found, hfound, howner⟩ := acquirable_of_granted hknown (act_of_move hmove).2 hg
    obtain ⟨hdb, hkey, hserving, hsnap, -⟩ := Server.acquirable_ok hfound
    have hstate := Server.state_of_lookup (s := w.server) hkey
    have hfresh := hinv.fresh key (by rw [hstate, hserving])
    rw [hstate] at hfresh
    have heq : (⟨g.owner, database⟩ : OwnerDatabase) = key := by rw [howner, ← hdb]
    exact ⟨found.copy, hsnap.symm, by rw [heq]; exact hfresh⟩
  · intro k hk database hdb
    refine ⟨of_eq_none.mp (hinv.held k hk database hdb), ?_⟩
    intro snapshotID id o w' g hmove hg
    obtain ⟨key, found, hfound, -⟩ := acquirable_of_granted hknown (act_of_move hmove).2 hg
    exact hinv.not_acquirable hk (Gates.mem_marks_of_held hdb) hfound

end World

/-! ## An example -/

section Example

open Serve.World

/-- One owner, 1, which is quarantined, with one table. -/
def exampleSnapshot : ServingSnapshot where
  siIndexerID := 1
  incarnations := [⟨1, "db", "t", .genesis, .active, [], some 1, false⟩]
  groups := []
  memberCheckpointSeqs := []
  stage3 := none
  numbered := rfl
  quarantinedIndexers := [1]
  detail := fun _ => ⟨"h", 1⟩

def exampleManifest : SafeSnapshotManifest := { SafeSnapshotManifest.zero with trackFrontiers := [⟨1, 5, 3⟩] }

def exampleCopy : DatabaseCopy := ⟨"s5", ⟨1, 5, 3⟩, [⟨"db.t", 1, "db__t__i1", "h", .installed⟩], true⟩

@[reducible] def exampleNet : Net := ⟨fun _ => none⟩

def exampleConfig (ttl : Duration) : Config := ⟨true, "token", 0, 0, ttl, 0, []⟩

/-- The reads of a poll that finds the copy of owner 1. -/
def exampleReads : List Move :=
  [.act .pollStart, .act (.pollRegistry (some exampleSnapshot)), .act (.pollManifest (some exampleManifest)),
    .act (.pollDatabases [⟨1, "db"⟩]), .act (.pollDatabase ⟨exampleCopy, true⟩)]

/-- Two polls that find the database serving, and a lease of it. -/
def exampleGrant : List Move :=
  exampleReads ++ [.act .pollApply] ++ exampleReads ++
    [.act .pollApply, .act (.acquire "db" "s5" (.ok "a") .done)]

/-- A pass that changes the copy of an owner. -/
def examplePass (owner : Nat) : List Move :=
  [.act (.passBegin owner), .act (.passCheck 0 "db"), .act (.passStatement 0 "db"), .act (.passEnd 0),
    .act (.passAfter 0)]

theorem lease_freezes_copies_granted :
    let _ := exampleReplay
    let _ := exampleNet
    ∃ w₀ w : World, (initial none 0).move (.restart (exampleConfig 0)) = some w₀ ∧
      run (fun _ m => m.inProcess) (examplePass 1 ++ exampleGrant) w₀ = some w ∧
      w.held.lookup "a" = some ⟨"db", 1, 30 * second⟩ ∧
      ∀ i w', w.move (.act (.passStatement i "db")) = some w' → ∀ id g, w.Live id g → g.database ≠ "db" := by
  intro replay net
  have heval : (((initial none 0).move (.restart (exampleConfig 0))).bind
      (run (fun _ m => m.inProcess) (examplePass 1 ++ exampleGrant))).any
        (fun w => w.held.lookup "a" = some ⟨"db", 1, 30 * second⟩) = true := by decide +kernel
  obtain ⟨w, hw, hheld⟩ := (Option.any_eq_true ..).mp heval
  obtain ⟨w₀, hstart, hrun⟩ := Option.bind_eq_some_iff.mp hw
  exact ⟨w₀, w, hstart, hrun, of_decide_eq_true hheld, fun i => (lease_freezes_copies hstart hrun).1 i "db"⟩

/-- A poll that lists owner 1 only reads before a pass of owner 2 begins and applies after
    it has ended. The lease of owner 1 that is then granted is older than the last statement
    that changed a copy of the database. -/
theorem lease_record_older_than_change :
    let _ := exampleReplay
    let _ := exampleNet
    ∃ w₀ w w' : World, (initial none 0).move (.restart (exampleConfig 0)) = some w₀ ∧
      run (fun _ m => m.inProcess)
        (exampleReads ++ [.act .pollApply] ++ exampleReads ++ examplePass 2 ++ [.act .pollApply]) w₀ = some w ∧
      w.move (.act (.acquire "db" "s5" (.ok "a") .done)) = some w' ∧
      w'.held.lookup "a" = some ⟨"db", 1, 30 * second⟩ ∧
      ∀ copy, freshRead (·.database = "db") ⟨1, "db"⟩ ⟨copy, true⟩ w.log = false := by
  intro replay net
  let ms : List Move :=
    exampleReads ++ [.act .pollApply] ++ exampleReads ++ examplePass 2 ++ [.act .pollApply]
  let read : Event := .read ⟨1, "db"⟩ ⟨exampleCopy, true⟩
  have heval : (((initial none 0).move (.restart (exampleConfig 0))).bind
      (run (fun _ m => m.inProcess) ms)).any (fun w =>
        w.log = [.changed ⟨2, "db"⟩, read, read] ∧
        (w.move (.act (.acquire "db" "s5" (.ok "a") .done))).any
          (fun w' => w'.held.lookup "a" = some ⟨"db", 1, 30 * second⟩)) = true := by decide +kernel
  obtain ⟨w, hw, hgranted⟩ := (Option.any_eq_true ..).mp heval
  obtain ⟨w₀, hstart, hrun⟩ := Option.bind_eq_some_iff.mp hw
  obtain ⟨hlog, hgranted⟩ := of_decide_eq_true hgranted
  obtain ⟨w', hw', hheld⟩ := (Option.any_eq_true ..).mp hgranted
  exact ⟨w₀, w, w', hstart, hrun, hw', of_decide_eq_true hheld, fun copy => by simp [hlog, freshRead]⟩

end Example

end ArbiterCore.Serve
