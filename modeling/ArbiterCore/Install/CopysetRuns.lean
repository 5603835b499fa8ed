-- SUMMARY: The published copies over every run of passes (copyset/reconciler.go).
import ArbiterCore.Install.Copyset

/-!
# Runs of the copy reconciler

Passes follow each other; between two of them the tables of hg_replica may change in
any way, so that each pass starts from tables of its own. A generation stays with a
copy only from one publication to the next, and only while the listing has its table.
-/

namespace ArbiterCore.Install

open Registry

/-! ## Runs -/

/-- One pass of a run: the tables when it starts, and how everything answers. -/
structure Turn where
  replica : GoMap String CopyTable
  answers : PassAnswers

/-- A reconciler that made no pass yet. -/
def CopySet.new : CopySet := ⟨.empty, 0, .empty⟩

/-- The passes of a run, in order. -/
def run (cfg : CopysetConfig) : CopySet → List Turn → List Pass
  | _, [] => []
  | set, t :: turns =>
    let r := reconcile cfg t.answers set t.replica
    r :: run cfg r.set turns

theorem CopySet.new_wf : CopySet.new.Wf :=
  ⟨by simp [new], by simp [new], by simp [new], by simp [new], by simp [OwedNamed, new]⟩

section Runs

variable {cfg : CopysetConfig} {set : CopySet} {turns : List Turn}

/-- Every pass of a run starts from a copy set that passes left. -/
theorem run_pass (hset : set.Wf) {t : Turn} {r : Pass} (h : (t, r) ∈ turns.zip (run cfg set turns)) :
    ∃ before : CopySet, before.Wf ∧ r = reconcile cfg t.answers before t.replica := by
  induction turns generalizing set with
  | nil => cases h
  | cons t' turns ih =>
    rw [run, List.zip_cons_cons] at h
    rcases List.mem_cons.mp h with heq | hrest
    · cases heq
      exact ⟨set, hset, rfl⟩
    · exact ih (reconcile_spec cfg t'.answers t'.replica hset).1 hrest

/-- A pass starts from what the pass before it left. -/
theorem run_step (hset : set.Wf) {k : Nat} {r' : Pass} (hr' : (run cfg set turns)[k + 1]? = some r') :
    ∃ r, (run cfg set turns)[k]? = some r ∧ r.set.Wf ∧
      ∃ t : Turn, r' = reconcile cfg t.answers r.set t.replica := by
  induction turns generalizing set k with
  | nil => cases hr'
  | cons t turns ih =>
    have hnext := (reconcile_spec cfg t.answers t.replica hset).1
    rw [run, List.getElem?_cons_succ] at hr'
    cases k with
    | zero =>
      cases turns with
      | nil => cases hr'
      | cons t' turns =>
        cases hr'
        exact ⟨_, rfl, hnext, t', rfl⟩
    | succ k => exact ih hnext hr'

/-- A generation that is not new comes from the last publication, and a listing in
    between has the table. -/
theorem reconcile_kept {a : PassAnswers} {replica : GoMap String CopyTable} (hset : set.Wf) {key : String}
    {p : Published} (hp : (reconcile cfg a set replica).set.copies.lookup key = some p)
    (hgen : p.copy.generation ≠ 0) (hle : p.copy.generation ≤ set.gens) :
    (∃ q, set.copies.lookup key = some q ∧ q.copy.table = p.copy.table ∧
      q.copy.generation = p.copy.generation) ∧
    ∀ listing, (reconcile cfg a set replica).listing = some listing → p.copy.table ∈ listing.map (·.1) := by
  obtain ⟨hwf, -, hends⟩ := reconcile_spec cfg a replica hset
  generalize reconcile cfg a set replica = r at hp hwf hends ⊢
  cases hends with
  | failed _ hcopies _ _ hlisting =>
    rw [hcopies] at hp
    exact ⟨⟨p, hp, rfl, rfl⟩, by simp [hlisting]⟩
  | disabled _ _ hcopies => simp [hcopies] at hp
  | published snap _ _ hends =>
    have hready := (hwf.ready_iff key p hp).mpr hgen
    rcases hends.generation key p hp hready with ⟨hpresent, hq⟩ | hnew
    · refine ⟨hq, fun listing hlisting => ?_⟩
      obtain rfl := Option.some.inj (hends.listing.symm.trans hlisting)
      simp only [presentTables, List.mem_map, List.mem_filter] at hpresent ⊢
      obtain ⟨e, ⟨he, -⟩, hname⟩ := hpresent
      exact ⟨e, he, hname⟩
    · exact absurd hle (Nat.not_le_of_lt hnew)

theorem run_wf (hset : set.Wf) {k : Nat} {r : Pass} (hr : (run cfg set turns)[k]? = some r) : r.set.Wf := by
  induction turns generalizing set k with
  | nil => cases hr
  | cons t turns ih =>
    have hnext := (reconcile_spec cfg t.answers t.replica hset).1
    rw [run] at hr
    cases k with
    | zero =>
      cases hr
      exact hnext
    | succ k => exact ih hnext (by simpa using hr)

/-- Generations only grow. -/
theorem run_gens (hset : set.Wf) {i n : Nat} {r r' : Pass} (hr : (run cfg set turns)[i]? = some r)
    (hr' : (run cfg set turns)[i + n]? = some r') : r.set.gens ≤ r'.set.gens := by
  induction n generalizing r' with
  | zero =>
    rw [Nat.add_zero, hr] at hr'
    cases hr'
    exact le_rfl
  | succ n ih =>
    obtain ⟨r'', hr'', hwf, t, rfl⟩ := run_step hset hr'
    exact (ih hr'').trans (reconcile_spec cfg t.answers t.replica hwf).2.1

/-- A copy that has one generation in two publications has it, and its table is listed,
    all the way between them. The induction goes back from the later one: a generation
    that was handed out before cannot be new. -/
theorem run_kept (hset : set.Wf) {i n : Nat} {r r' : Pass} {key : String} {p q : Published}
    (hr : (run cfg set turns)[i]? = some r) (hp : r.set.copies.lookup key = some p)
    (hr' : (run cfg set turns)[i + n]? = some r') (hq : r'.set.copies.lookup key = some q)
    (hgen : q.copy.generation = p.copy.generation) (hne : p.copy.generation ≠ 0) :
    q.copy.table = p.copy.table ∧ ∀ k s, i < k → k ≤ i + n → (run cfg set turns)[k]? = some s →
      (∃ x, s.set.copies.lookup key = some x ∧ x.ready = true ∧ x.copy.table = p.copy.table ∧
        x.copy.generation = p.copy.generation) ∧
      ∀ listing, s.listing = some listing → p.copy.table ∈ listing.map (·.1) := by
  induction n generalizing r' q with
  | zero =>
    rw [Nat.add_zero, hr] at hr'
    cases hr'
    rw [hp] at hq
    cases hq
    exact ⟨rfl, fun k s hlt hle => absurd hle (by omega)⟩
  | succ n ih =>
    obtain ⟨r'', hr'', hwf, t, rfl⟩ := run_step hset hr'
    have hold : q.copy.generation ≤ r''.set.gens := by
      rw [hgen]
      exact ((run_wf hset hr).generation_le key p hp).trans (run_gens hset hr hr'')
    obtain ⟨⟨q', hq', htable, hgen'⟩, hlisted⟩ := reconcile_kept hwf hq (hgen ▸ hne) hold
    obtain ⟨htable', hbetween⟩ := ih hr'' hq' (hgen'.trans hgen)
    refine ⟨htable.symm.trans htable', fun k s hik hkn hs => ?_⟩
    rcases Nat.lt_or_ge k (i + n + 1) with hk | hk
    · exact hbetween k s hik (by omega) hs
    obtain rfl : k = i + (n + 1) := by omega
    rw [hr'] at hs
    cases hs
    have hready := ((run_wf hset hr').ready_iff key q hq).mpr (hgen ▸ hne)
    rw [htable'.symm.trans htable]
    exact ⟨⟨q, hq, hready, rfl, hgen⟩, hlisted⟩

/-- A kept table has the name and the comment of a wanted incarnation. -/
theorem wanted_of_keep {snap : Snapshot} {table comment : String}
    (h : (classify cfg.owners snap table comment).2 = .keep) :
    ∃ inc ∈ snap.incarnations, Wanted cfg.owners snap inc ∧ table = copyTableName inc.key inc.seq ∧
      comment = incarnationComment inc.seq := by
  obtain ⟨seq, inc, hparse, hinc, hname, hwanted⟩ := classify_keep.mp h
  obtain ⟨hmem, rfl⟩ := Snapshot.incarnation_mem hinc
  exact ⟨inc, hmem, hwanted, hname.symm, (parseIncarnationComment_eq_some.mp hparse).1⟩

/-- A listed table is kept as the copy of a wanted incarnation, or the pass issued its
    DROP. -/
theorem Pass.Published.listed {a : PassAnswers} {snap : Snapshot} {replica : GoMap String CopyTable} {r : Pass}
    (h : r.Published cfg a snap set replica) {e : String × String} (he : e ∈ listTables replica) :
    (e.1 ∉ r.drops ∧ ∃ inc ∈ snap.incarnations, Wanted cfg.owners snap inc ∧
      e.1 = copyTableName inc.key inc.seq ∧ e.2 = incarnationComment inc.seq) ∨ e.1 ∈ r.drops := by
  rw [h.drops]
  by_cases hkeep : (classify cfg.owners snap e.1 e.2).2 = .keep
  · refine .inl ⟨notMem_drops_of_present ?_, wanted_of_keep hkeep⟩
    exact List.mem_map.mpr ⟨e, List.mem_filter.mpr ⟨he, by simpa using hkeep⟩, rfl⟩
  · exact .inr (List.mem_map.mpr ⟨e, List.mem_filter.mpr ⟨he, by simpa using hkeep⟩, rfl⟩)

end Runs

/-- In every run of passes, whatever fails and however the tables change between them:
    no copy is ready while the drop of its table is owed; a ready copy is that of the
    only wanted incarnation of its key, and its table is there with its comment when the
    pass that published it ends; every table that a pass listed is kept as the copy of a
    wanted incarnation, or its DROP was issued; a copy that has one generation in two
    publications was ready, and its table listed, all the way between them. -/
theorem copies_sound_over_runs (cfg : CopysetConfig) (turns : List Turn) :
    let passes := run cfg .new turns
    (∀ r ∈ passes, ∀ key p, r.set.copies.lookup key = some p → p.ready = true →
      r.set.owed.lookup p.copy.table = none) ∧
    (∀ t r, (t, r) ∈ turns.zip passes → r.published = true →
      ∀ key p, r.set.copies.lookup key = some p → p.ready = true → ∃ snap, t.answers.view = some (some snap) ∧
        (∃ inc ∈ snap.incarnations, Wanted cfg.owners snap inc ∧ IsCopy t.answers.schema snap p.copy inc ∧
          inc.key = key ∧ ∀ inc' ∈ snap.incarnations, Wanted cfg.owners snap inc' → inc'.key = key → inc' = inc) ∧
        ∃ tab, r.replica.lookup p.copy.table = some tab ∧
          tab.comment = incarnationComment p.copy.incarnationSeq) ∧
    (∀ k r r', passes[k]? = some r → passes[k + 1]? = some r' → r'.published = false →
      r'.set.copies = r.set.copies) ∧
    (∀ t r, (t, r) ∈ turns.zip passes → ∀ listing, r.listing = some listing →
      listing = listTables t.replica ∧ ∃ snap, t.answers.view = some (some snap) ∧ ∀ e ∈ listing,
        (e.1 ∉ r.drops ∧ ∃ inc ∈ snap.incarnations, Wanted cfg.owners snap inc ∧
          e.1 = copyTableName inc.key inc.seq ∧ e.2 = incarnationComment inc.seq) ∨ e.1 ∈ r.drops) ∧
    (∀ (i j : Nat) (r r' : Pass) key p q, i ≤ j → passes[i]? = some r → passes[j]? = some r' →
      r.set.copies.lookup key = some p → r'.set.copies.lookup key = some q →
      q.copy.generation = p.copy.generation → p.copy.generation ≠ 0 →
      ∀ (k : Nat) (s : Pass), i < k → k ≤ j → passes[k]? = some s →
        (∃ x, s.set.copies.lookup key = some x ∧ x.ready = true ∧ x.copy.table = p.copy.table ∧
          x.copy.generation = p.copy.generation) ∧
        ∀ listing, s.listing = some listing → p.copy.table ∈ listing.map (·.1)) := by
  intro passes
  refine ⟨?owed, ?ready, ?unpublished, ?listed, ?generation⟩
  case owed =>
    intro r hr key p hp hready
    obtain ⟨k, hk⟩ := List.mem_iff_getElem?.mp hr
    exact (run_wf CopySet.new_wf hk).unowed key p hp hready
  case ready =>
    intro t r hr hpublished key p hp hready
    obtain ⟨before, hwf, rfl⟩ := run_pass CopySet.new_wf hr
    obtain ⟨hwf', -, hends⟩ := reconcile_spec cfg t.answers t.replica hwf
    cases hends with
    | failed hfailed => simp [hfailed] at hpublished
    | disabled _ _ hcopies => simp [hcopies] at hp
    | published snap hview _ hends =>
      obtain ⟨inc, hinc, hwanted, hcopy, hunique⟩ := hends.unique key p hp hready
      have hkey : inc.key = key := hcopy.tableKey.symm.trans (hwf'.tableKey key p hp)
      exact ⟨snap, hview, ⟨inc, hinc, hwanted, hcopy, hkey, hunique⟩, hends.table key p hp hready⟩
  case unpublished =>
    intro k r r' hr hr' hfailed
    obtain ⟨r₀, hr₀, hwf, t, rfl⟩ := run_step CopySet.new_wf hr'
    obtain rfl := Option.some.inj (hr₀.symm.trans hr)
    cases (reconcile_spec cfg t.answers t.replica hwf).2.2 with
    | failed _ hcopies => exact hcopies
    | disabled _ hpublished => simp [hpublished] at hfailed
    | published _ _ hpublished => simp [hpublished] at hfailed
  case listed =>
    intro t r hr listing hlisting
    obtain ⟨before, hwf, rfl⟩ := run_pass CopySet.new_wf hr
    cases (reconcile_spec cfg t.answers t.replica hwf).2.2 with
    | failed _ _ _ _ hnone => simp [hnone] at hlisting
    | disabled _ _ _ _ _ hnone => simp [hnone] at hlisting
    | published snap hview _ hends =>
      obtain rfl := Option.some.inj (hends.listing.symm.trans hlisting)
      exact ⟨rfl, snap, hview, fun e he => hends.listed he⟩
  case generation =>
    intro i j r r' key p q hij hr hr' hp hq hgen hne
    obtain ⟨n, rfl⟩ := Nat.exists_eq_add_of_le hij
    exact (run_kept CopySet.new_wf hr hp hr' hq hgen hne).2

/-! ### A copy that is retired and one that becomes ready -/

namespace Example

def cfg : CopysetConfig := ⟨[0], true, "hg_replica"⟩

def snap : Snapshot := ⟨0, [⟨1, "a", "b", .chain, .retiring, [], none, false⟩,
  ⟨2, "a", "c", .chain, .active, [], none, false⟩], [], [], none, rfl⟩

/-- A pass that finds one table. -/
def turn (table comment : String) : Turn :=
  ⟨GoMap.empty.insert table ⟨comment, []⟩, some (some snap), fun _ => .ok "h", none, fun _ => .done,
    fun _ => .done, fun _ => none, fun _ => none⟩

def turns : List Turn := [turn "a__b__i1" "hg_incarnation=1", turn "a__c__i2" "hg_incarnation=2"]

def ready : Published := ⟨⟨0, "a.c", 2, "a__c__i2", "h", 1⟩, true⟩

end Example

open Example in
/-- The first pass drops the copy of a retiring key and makes another one ready, and the
    second one keeps its generation. -/
theorem copies_sound_over_runs_retiring :
    ∃ r r', (run cfg .new turns)[0]? = some r ∧ (run cfg .new turns)[1]? = some r' ∧
      r.drops = ["a__b__i1"] ∧ r.set.copies.lookup "a.c" = some ready ∧
      r'.set.copies.lookup "a.c" = some ready ∧ r'.set.owed.lookup "a__c__i2" = none ∧
      ∀ listing, r'.listing = some listing → "a__c__i2" ∈ listing.map (·.1) := by
  have hfirst : ((run cfg .new turns)[0]?.any fun r =>
      r.drops = ["a__b__i1"] ∧ r.set.copies.lookup "a.c" = some ready) = true := by decide +kernel
  have hsecond : ((run cfg .new turns)[1]?.any fun r =>
      r.set.copies.lookup "a.c" = some ready) = true := by decide +kernel
  obtain ⟨r, hr, htest⟩ := (Option.any_eq_true ..).mp hfirst
  obtain ⟨hdrops, hready⟩ := of_decide_eq_true htest
  obtain ⟨r', hr', htest'⟩ := (Option.any_eq_true ..).mp hsecond
  have hready' := of_decide_eq_true htest'
  obtain ⟨howed, -, -, -, hkept⟩ := copies_sound_over_runs cfg turns
  have hlisted := hkept 0 1 r r' "a.c" ready ready (by decide) hr hr' hready hready' rfl (by decide) 1 r'
    (by decide) le_rfl hr'
  exact ⟨r, r', hr, hr', hdrops, hready, hready', howed r' (List.mem_of_getElem? hr') "a.c" ready hready' rfl,
    hlisted.2⟩

end ArbiterCore.Install
