-- SUMMARY: The index objects of an owner form chains on full backups, over all runs of the backuper.
import ArbiterCore.Base.Runs
import ArbiterCore.Dataplane.Backup
import Mathlib.Data.String.Basic

/-!
# Backup chains

The runs of the backuper extend the list of the owner's index objects. Every run reads the
whole list first, so a new index is a full backup or one on an index that is there, and its
name is above all others. That a backup's name is new is checked by a listing before the
BACKUP, which a pending BACKUP of the server does not show up in.
-/

namespace ArbiterCore.Backup

open Conc

/-! ## Chains of indexes -/

/-- The index that an incremental index is based on. -/
def baseOf (l : List BackupIndex) (idx : BackupIndex) : Option BackupIndex :=
  l.find? (·.name = idx.base)

/-- Following the bases from `idx` reaches a full backup after exactly `n` steps. -/
inductive ReachesFull (l : List BackupIndex) : BackupIndex → Nat → Prop where
  | full {idx : BackupIndex} (hkind : idx.kind = .full) : ReachesFull l idx 0
  | base {idx b : BackupIndex} {n : Nat} (hkind : idx.kind = .incremental)
      (hbase : baseOf l idx = some b) (h : ReachesFull l b n) : ReachesFull l idx (n + 1)

/-- The indexes in the order of their writes. -/
structure BackupChain (l : List BackupIndex) : Prop where
  increasing : (l.map (·.name)).Pairwise (· < ·)
  based : ∀ idx ∈ l, idx.kind = .incremental → ∃ b ∈ l, b.name = idx.base ∧
    b.ownerIndexerID = idx.ownerIndexerID ∧ b.networkID = idx.networkID ∧
    b.chainLength + 1 = idx.chainLength
  reaches : ∀ idx ∈ l, 1 ≤ idx.chainLength ∧ ReachesFull l idx (idx.chainLength - 1)

/-- How the list grows. -/
inductive Chained (owner : Nat) : List BackupIndex → Prop where
  | nil : Chained owner []
  | full {l : List BackupIndex} {idx : BackupIndex} (h : Chained owner l)
      (hname : ∀ i ∈ l, i.name < idx.name) (howner : idx.ownerIndexerID = owner)
      (hkind : idx.kind = .full) (hlength : idx.chainLength = 1) : Chained owner (l ++ [idx])
  | incremental {l : List BackupIndex} {idx b : BackupIndex} (h : Chained owner l)
      (hname : ∀ i ∈ l, i.name < idx.name) (howner : idx.ownerIndexerID = owner)
      (hkind : idx.kind = .incremental) (hb : b ∈ l) (hbase : idx.base = b.name)
      (hnetwork : b.networkID = idx.networkID) (hlength : idx.chainLength = b.chainLength + 1) :
      Chained owner (l ++ [idx])

section Chained

variable {owner : Nat} {l : List BackupIndex} {idx b : BackupIndex}

theorem Chained.increasing (h : Chained owner l) : (l.map (·.name)).Pairwise (· < ·) := by
  have hsnoc : ∀ {l : List BackupIndex} {idx : BackupIndex}, (l.map (·.name)).Pairwise (· < ·) →
      (∀ i ∈ l, i.name < idx.name) → ((l ++ [idx]).map (·.name)).Pairwise (· < ·) := by
    intro l idx hl hname
    rw [List.map_append, List.pairwise_append]
    refine ⟨hl, List.pairwise_singleton .., ?_⟩
    simpa using hname
  induction h with
  | nil => exact .nil
  | full _ hname _ _ _ ih => exact hsnoc ih hname
  | incremental _ hname _ _ _ _ _ _ ih => exact hsnoc ih hname

theorem Chained.owner_eq (h : Chained owner l) (hidx : idx ∈ l) : idx.ownerIndexerID = owner := by
  induction h with
  | nil => cases hidx
  | full _ _ howner _ _ ih | incremental _ _ howner _ _ _ _ _ ih =>
    rcases List.mem_append.mp hidx with hidx | hidx
    · exact ih hidx
    · cases List.mem_singleton.mp hidx
      exact howner

/-- A full index starts a chain, and an incremental one continues the chain of its base. -/
theorem Chained.cases (h : Chained owner l) (hidx : idx ∈ l) :
    idx.kind = .full ∧ idx.chainLength = 1 ∨
      idx.kind = .incremental ∧ ∃ b ∈ l, b.name = idx.base ∧ b.networkID = idx.networkID ∧
        idx.chainLength = b.chainLength + 1 := by
  -- what an index is based on stays there when the list grows
  have hgrow : ∀ {l : List BackupIndex} {idx new : BackupIndex},
      (idx.kind = .full ∧ idx.chainLength = 1 ∨ idx.kind = .incremental ∧ ∃ b ∈ l, b.name = idx.base ∧
        b.networkID = idx.networkID ∧ idx.chainLength = b.chainLength + 1) →
      (idx.kind = .full ∧ idx.chainLength = 1 ∨ idx.kind = .incremental ∧ ∃ b ∈ l ++ [new],
        b.name = idx.base ∧ b.networkID = idx.networkID ∧ idx.chainLength = b.chainLength + 1) := by
    rintro l idx new (hfull | ⟨hkind, b, hb, hbase⟩)
    · exact .inl hfull
    · exact .inr ⟨hkind, b, List.mem_append_left _ hb, hbase⟩
  induction h with
  | nil => cases hidx
  | full _ _ _ hkind hlength ih =>
    rcases List.mem_append.mp hidx with hidx | hidx
    · exact hgrow (ih hidx)
    · cases List.mem_singleton.mp hidx
      exact .inl ⟨hkind, hlength⟩
  | incremental _ _ _ hkind hb hbase hnetwork hlength ih =>
    rcases List.mem_append.mp hidx with hidx | hidx
    · exact hgrow (ih hidx)
    · cases List.mem_singleton.mp hidx
      exact .inr ⟨hkind, _, List.mem_append_left _ hb, hbase.symm, hnetwork, hlength⟩

theorem Chained.length_pos (h : Chained owner l) (hidx : idx ∈ l) : 1 ≤ idx.chainLength := by
  rcases h.cases hidx with ⟨-, hlength⟩ | ⟨-, b, -, -, -, hlength⟩
  · exact hlength.ge
  · exact hlength ▸ Nat.le_add_left ..

/-- Names are unique, so a base is found by its name. -/
theorem Chained.baseOf_eq (h : Chained owner l) (hb : b ∈ l) (hname : b.name = idx.base) :
    baseOf l idx = some b := by
  have hnodup : (l.map (·.name)).Nodup := h.increasing.imp fun hlt => ne_of_lt hlt
  cases hfind : baseOf l idx with
  | none => exact absurd (by simpa using hname) (List.find?_eq_none.mp hfind b hb)
  | some b' =>
    have hb' := List.mem_of_find?_eq_some hfind
    have hname' : b'.name = idx.base := by simpa using List.find?_some hfind
    rw [List.inj_on_of_nodup_map hnodup hb' hb (hname'.trans hname.symm)]

theorem Chained.reaches (h : Chained owner l) {n : Nat} (hidx : idx ∈ l)
    (hn : idx.chainLength = n + 1) : ReachesFull l idx n := by
  -- the chain length drops by one with every base
  induction n generalizing idx with
  | zero =>
    rcases h.cases hidx with ⟨hkind, -⟩ | ⟨-, b, hb, -, -, hlength⟩
    · exact .full hkind
    · have := h.length_pos hb
      omega
  | succ n ih =>
    rcases h.cases hidx with ⟨-, hlength⟩ | ⟨hkind, b, hb, hname, -, hlength⟩
    · omega
    · exact .base hkind (h.baseOf_eq hb hname) (ih hb (by omega))

theorem Chained.chain (h : Chained owner l) : BackupChain l where
  increasing := h.increasing
  based := by
    intro idx hidx hkind
    rcases h.cases hidx with ⟨hfull, -⟩ | ⟨-, b, hb, hname, hnetwork, hlength⟩
    · cases hkind.symm.trans hfull
    · refine ⟨b, hb, hname, ?_, hnetwork, hlength.symm⟩
      rw [h.owner_eq hb, h.owner_eq hidx]
  reaches := by
    intro idx hidx
    have hpos := h.length_pos hidx
    exact ⟨hpos, h.reaches hidx (by omega)⟩

end Chained

/-! ## One run -/

/-- The steps of the server between two operations. -/
abbrev Serves : OwnerPrefix → OwnerPrefix → Prop := Relation.ReflTransGen ServerStep

section Serves

variable {s s' : OwnerPrefix} {name : String}

/-- The server does not touch index objects, and what it writes was pending. -/
theorem ServerStep.same (h : ServerStep s s') : s'.indexes = s.indexes ∧
    (∃ l, (s'.written ++ s'.pending ++ l).Perm (s.written ++ s.pending)) := by
  cases h with
  | writes indexes written l r name =>
    refine ⟨rfl, [], ?_⟩
    simp only [List.append_nil, List.append_assoc, List.singleton_append]
    exact List.Perm.append_left _ (List.perm_middle.symm)
  | fails indexes written l r name =>
    refine ⟨rfl, [name], ?_⟩
    simp only [List.append_assoc]
    exact List.Perm.append_left _ (List.Perm.append_left _ (List.perm_append_singleton ..))

theorem Serves.indexes (h : Serves s s') : s'.indexes = s.indexes := by
  induction h with
  | refl => rfl
  | tail _ hstep ih => exact hstep.same.1.trans ih

theorem Serves.nodup (h : Serves s s') (hs : (s.written ++ s.pending).Nodup) :
    (s'.written ++ s'.pending).Nodup := by
  induction h with
  | refl => exact hs
  | tail _ hstep ih =>
    obtain ⟨-, l, hperm⟩ := hstep.same
    exact (hperm.nodup_iff.mpr ih).sublist (List.sublist_append_left ..)

theorem Serves.fresh (h : Serves s s') (hs : name ∉ s.written ++ s.pending) :
    name ∉ s'.written ++ s'.pending := by
  induction h with
  | refl => exact hs
  | tail _ hstep ih =>
    obtain ⟨-, l, hperm⟩ := hstep.same
    exact fun hmem => ih (hperm.mem_iff.mp (List.mem_append_left _ hmem))

end Serves

/-- What every run keeps. -/
structure PrefixInv (settled : Bool) (owner : Nat) (s : OwnerPrefix) : Prop where
  chained : Chained owner s.indexes
  fresh : settled = true → (s.written ++ s.pending).Nodup

/-- The index was there, or it is no longer than the configured chains are. -/
def WithinLinks (b : Backuper) (s s' : OwnerPrefix) : Prop :=
  ∀ idx ∈ s'.indexes, idx ∈ s.indexes ∨
    ∃ links, maxChainLinks b.maxChainLinks = .ok links ∧ idx.chainLength ≤ links

theorem WithinLinks.refl (b : Backuper) (s : OwnerPrefix) : WithinLinks b s s := fun _ h => .inl h

theorem WithinLinks.trans {b : Backuper} {s s' s'' : OwnerPrefix} (h : WithinLinks b s s')
    (h' : WithinLinks b s' s'') : WithinLinks b s s'' := by
  intro idx hidx
  rcases h' idx hidx with hidx | hlinks
  · exact h idx hidx
  · exact .inr hlinks

def backupContract (settled : Bool) (b : Backuper) : Contract OwnerPrefix where
  rely := Serves
  guar s s' := (PrefixInv settled b.owner s → PrefixInv settled b.owner s') ∧ WithinLinks b s s'

theorem backupContract_keeps (settled : Bool) (b : Backuper) :
    (backupContract settled b).Keeps (PrefixInv settled b.owner) where
  rely _ _ h hs := ⟨h.indexes ▸ hs.chained, fun hset => h.nodup (hs.fresh hset)⟩
  guar _ _ h hs := h.1 hs

abbrev backupWp (settled : Bool) (b : Backuper) {α : Type} (p : BackupM α)
    (Q : α → OwnerPrefix → Prop) (s : OwnerPrefix) : Prop :=
  wpI (backupMachine settled) (backupContract settled b) (PrefixInv settled b.owner) p Q s

/-- The operation does not write. -/
def IsQuery : (δ : Type) → BackupOp δ → Prop
  | _, .startBackup .. | _, .insertIndex .. => False
  | _, _ => True

section Wp

variable {settled : Bool} {b : Backuper} {α : Type} {s : OwnerPrefix}

theorem BackupAnswer.query_eq {β : Type} {a : BackupAnswer} {s s' : OwnerPrefix} {result : β}
    {r : Except String β} (h : a.query s result = some (r, s')) :
    s' = s ∧ ∀ c, r = .ok c → c = result := by
  unfold BackupAnswer.query at h
  split at h
  · cases h
    exact ⟨rfl, fun c hc => (Except.ok.inj hc).symm⟩
  · cases h
    exact ⟨rfl, fun c hc => nomatch hc⟩

theorem IsQuery.same {δ : Type} {op : BackupOp δ} {r : δ} {s s' : OwnerPrefix} (hop : IsQuery δ op)
    (h : (backupMachine settled).sem op s r s') : s' = s := by
  obtain ⟨a, hrun⟩ := h
  cases op with
  | now | contextErr =>
    cases hrun
    rfl
  | startBackup | insertIndex => cases hop
  | listIndexes =>
    obtain ⟨-, hrun⟩ := Option.ite_none_right_eq_some.mp hrun
    exact (BackupAnswer.query_eq hrun).1
  | countObjects | backupStatus =>
    obtain ⟨-, hrun⟩ := Option.ite_none_left_eq_some.mp hrun
    exact (BackupAnswer.query_eq hrun).1
  | latestManifest | listSafeTables | activeParts => exact (BackupAnswer.query_eq hrun).1

/-- Queries keep what the steps of the server keep. -/
theorem queries_wp {p : BackupM α} {K : OwnerPrefix → Prop} (hp : Uses IsQuery p)
    (hK : ∀ s s', Serves s s' → K s → K s') (h : K s) : backupWp settled b p (fun _ => K) s := by
  intro hI
  have hrely : ∀ s s', (backupContract settled b).rely s s' →
      PrefixInv settled b.owner s ∧ K s → PrefixInv settled b.owner s' ∧ K s' :=
    fun s s' hr h => ⟨(backupContract_keeps settled b).rely s s' hr h.1, hK s s' hr h.2⟩
  refine wp.mono (wp_of_all hp hrely (fun op s r s' hop hs h => ?_) ⟨hI, h⟩) fun r s h => ?_
  · cases hop.same hs
    exact ⟨⟨id, .refl b s⟩, h⟩
  · cases r with
    | ok a => exact h
    | error e => exact h.1

/-- Queries before the indexes are read. -/
theorem queries_bind {β : Type} {p : BackupM α} {f : α → BackupM β} {Q : β → OwnerPrefix → Prop}
    (hp : Uses IsQuery p) (hf : ∀ a s, backupWp settled b (f a) Q s) :
    backupWp settled b (p >>= f) Q s :=
  (queries_wp hp (K := fun _ => True) (fun _ _ _ => id) trivial).bind
    fun a s _ _ => hf a s

/-- Queries that keep an assertion. -/
theorem queries_keep {β : Type} {p : BackupM α} {f : α → BackupM β} {Q : β → OwnerPrefix → Prop}
    {K : OwnerPrefix → Prop} (hp : Uses IsQuery p) (hK : ∀ s s', Serves s s' → K s → K s')
    (h : K s) (hf : ∀ a s, K s → backupWp settled b (f a) Q s) :
    backupWp settled b (p >>= f) Q s :=
  (queries_wp hp hK h).bind fun a s _ hs => hf a s hs

variable {out : List BackupIndex}

theorem decodeRows_eq {owner : Nat} {rows : List (String × BackupIndex)}
    (h : decodeRows owner rows = .ok out) : out = rows.map (·.2) := by
  have hdecode : ∀ {file : String} {blob idx : BackupIndex},
      decodeIndex file owner blob = .ok idx → idx = blob := by
    intro file blob idx h
    unfold decodeIndex at h
    dsimp only at h
    split at h
    · cases h
    split at h
    · cases h
    split at h
    · cases h
    · split at h
      · cases h
      · exact (Except.ok.inj h).symm
  induction rows generalizing out with
  | nil => exact (Except.ok.inj h).symm
  | cons row rows ih =>
    obtain ⟨file, blob⟩ := row
    simp only [decodeRows] at h
    cases hidx : decodeIndex file owner blob with
    | error e =>
      rw [hidx] at h
      cases h
    | ok idx =>
      cases hrest : decodeRows owner rows with
      | error e =>
        rw [hidx, hrest] at h
        cases h
      | ok rest =>
        rw [hidx, hrest] at h
        cases h
        rw [hdecode hidx, ih hrest, List.map_cons]

/-- A run reads every index of the owner, in the order of the names. -/
theorem readIndexes_wp : backupWp settled b (readIndexes b)
    (fun out s => out.Perm s.indexes ∧ out.Pairwise (·.name ≤ ·.name)) s := by
  refine wpI_bind (wpI_fromExcept fun _ _ => ?_)
  have hlist : backupWp settled b (call .listIndexes)
      (fun rows s => (rows.map (·.2)).Perm s.indexes) s := by
    refine wpI_call (backupContract_keeps settled b) fun s₁ _ _ r s₂ hs => ?_
    have hop : IsQuery _ .listIndexes := trivial
    cases hop.same hs
    refine ⟨⟨id, .refl b s₁⟩, ?_⟩
    rintro rows rfl
    obtain ⟨a, hrun⟩ := hs
    obtain ⟨hperm, hrun⟩ := Option.ite_none_right_eq_some.mp hrun
    rw [(BackupAnswer.query_eq hrun).2 rows rfl, List.map_map]
    simpa [Function.comp_def] using List.isPerm_iff.mp hperm
  refine (wpI_mapError hlist).bind fun rows s _ hrows => ?_
  refine wpI_bind (wpI_fromExcept fun out hout => wpI_pure ⟨?_, ?_⟩)
  · rw [decodeRows_eq hout]
    exact (List.perm_insertionSort ..).trans hrows
  · exact List.pairwise_insertionSort ..

/-- The latest index is above all others. -/
theorem le_getLast (hsorted : out.Pairwise (·.name ≤ ·.name)) {i : BackupIndex} (hi : i ∈ out) :
    ∃ last, out.getLast? = some last ∧ i.name ≤ last.name := by
  induction out generalizing i with
  | nil => cases hi
  | cons x xs ih =>
    obtain ⟨hx, hxs⟩ := List.pairwise_cons.mp hsorted
    cases xs with
    | nil =>
      cases List.mem_singleton.mp hi
      exact ⟨x, rfl, le_refl _⟩
    | cons y ys =>
      rw [List.getLast?_cons_cons]
      rcases List.mem_cons.mp hi with rfl | hi
      · obtain ⟨last, hlast, -⟩ := ih hxs (List.mem_cons_self ..)
        exact ⟨last, hlast, hx last (List.mem_of_getLast? hlast)⟩
      · exact ih hxs hi

theorem one_le_maxChainLinks {n links : Nat} (h : maxChainLinks n = .ok links) : 1 ≤ links := by
  unfold maxChainLinks at h
  split at h
  · cases h
    decide
  split at h
  · cases h
  · cases h
    omega

/-- The index of the next backup extends the chains. -/
theorem Chained.append {l : List BackupIndex} {idx : BackupIndex} {links : Nat}
    (h : Chained b.owner l) (hperm : out.Perm l) (hsorted : out.Pairwise (·.name ≤ ·.name))
    (hnetwork : checkNetwork b out = .ok ()) (hlinks : maxChainLinks b.maxChainLinks = .ok links)
    (hnext : nextBackup out.getLast? links = (idx.kind, idx.base, idx.chainLength))
    (horder : checkOrder b idx.name out.getLast? = .ok ()) (howner : idx.ownerIndexerID = b.owner)
    (hnet : idx.networkID = b.networkID) :
    Chained b.owner (l ++ [idx]) ∧ idx.chainLength ≤ links := by
  have hname : ∀ i ∈ l, i.name < idx.name := by
    intro i hi
    obtain ⟨last, hlast, hle⟩ := le_getLast hsorted (hperm.mem_iff.mpr hi)
    rw [hlast] at horder
    simp only [checkOrder] at horder
    split at horder
    · split at horder <;> cases horder
    · next hlt => exact lt_of_le_of_lt hle (not_le.mp hlt)
  have hsame : ∀ i ∈ out, i.networkID = b.networkID := by
    intro i hi
    unfold checkNetwork at hnetwork
    split at hnetwork
    · cases hnetwork
    · next hnone => simpa using List.find?_eq_none.mp hnone i hi
  unfold nextBackup at hnext
  split at hnext
  · simp only [Prod.mk.injEq] at hnext
    obtain ⟨hkind, -, hlength⟩ := hnext
    exact ⟨.full h hname howner hkind.symm hlength.symm, hlength ▸ one_le_maxChainLinks hlinks⟩
  next latest hlatest =>
  have hmem := List.mem_of_getLast? hlatest
  split at hnext
  · simp only [Prod.mk.injEq] at hnext
    obtain ⟨hkind, -, hlength⟩ := hnext
    exact ⟨.full h hname howner hkind.symm hlength.symm, hlength ▸ one_le_maxChainLinks hlinks⟩
  next hlt =>
  simp only [Prod.mk.injEq] at hnext
  obtain ⟨hkind, hbase, hlength⟩ := hnext
  refine ⟨.incremental h hname howner hkind.symm (hperm.mem_iff.mp hmem) hbase.symm ?_ hlength.symm,
    ?_⟩
  · rw [hsame latest hmem, hnet]
  · omega

/-- What a run knows once it has looked for its name. -/
def Prepared (settled : Bool) (out : List BackupIndex) (name : String) (s : OwnerPrefix) : Prop :=
  out.Perm s.indexes ∧ (settled = true → name ∉ s.written ++ s.pending)

theorem Prepared.serves {name : String} (s s' : OwnerPrefix) (hr : Serves s s')
    (h : Prepared settled out name s) : Prepared settled out name s' :=
  ⟨hr.indexes ▸ h.1, fun hset => hr.fresh (h.2 hset)⟩

/-- With every pending BACKUP settled, a name without objects is new. -/
theorem countObjects_wp {name : String} (h : out.Perm s.indexes) :
    backupWp settled b (call (.countObjects name))
      (fun n s => out.Perm s.indexes ∧ (¬ n > 0 → Prepared settled out name s)) s := by
  refine wpI_call (backupContract_keeps settled b) fun s₁ hr _ r s₂ hs => ?_
  have hop : IsQuery _ (.countObjects name) := trivial
  cases hop.same hs
  have h₁ : out.Perm s₁.indexes := hr.indexes ▸ h
  refine ⟨⟨id, .refl b s₁⟩, ?_⟩
  rintro n rfl
  refine ⟨h₁, fun hzero => ⟨h₁, fun hset => ?_⟩⟩
  obtain ⟨a, hrun⟩ := hs
  obtain ⟨hcond, hrun⟩ := Option.ite_none_left_eq_some.mp hrun
  have hn := (BackupAnswer.query_eq hrun).2 n rfl
  subst hn
  rw [List.mem_append]
  rintro (hwritten | hpending)
  · exact hcond (.inr ⟨fun hpos => absurd hpos hzero, fun hnot => absurd hwritten hnot⟩)
  · exact hcond (.inl ⟨hset, hpending⟩)

/-- A BACKUP of a new name. -/
theorem startBackup_wp {name base : String} (h : Prepared settled out name s) :
    backupWp settled b (call (.startBackup name base)) (fun _ s => out.Perm s.indexes) s := by
  refine wpI_call (backupContract_keeps settled b) fun s₁ hr _ r s₂ hs => ?_
  have h₁ := h.serves s s₁ hr
  obtain ⟨a, hrun⟩ := hs
  have hs₂ : s₂ = s₁ ∨ s₂ = { s₁ with pending := s₁.pending ++ [name] } := by
    simp only [backupMachine, BackupOp.run, BackupAnswer.statement] at hrun
    split at hrun
    · cases hrun
      exact .inr rfl
    cases hrun
    split
    · exact .inr rfl
    · exact .inl rfl
  rcases hs₂ with rfl | rfl
  · exact ⟨⟨id, .refl b _⟩, fun _ _ => h₁.1⟩
  refine ⟨⟨fun hinv => ⟨hinv.chained, fun hset => ?_⟩, .refl b _⟩, fun _ _ => h₁.1⟩
  change (s₁.written ++ (s₁.pending ++ [name])).Nodup
  rw [← List.append_assoc, List.nodup_append]
  refine ⟨hinv.fresh hset, List.nodup_singleton _, ?_⟩
  rintro n hn _ hname rfl
  cases List.mem_singleton.mp hname
  exact h₁.2 hset hn

theorem waitDone_query (id name done : String) (polls : Nat) :
    Uses IsQuery (waitDone id name done polls) := by
  induction polls with
  | zero => exact uses_bind (uses_ask trivial) fun _ => uses_throw
  | succ polls ih =>
    refine uses_mapStep trivial fun found => ?_
    obtain ⟨status, errText⟩ := found
    dsimp only
    split
    · exact uses_pure
    · split
      · exact ih
      · exact uses_throw

theorem safeTables_query (listed : List TableManifest) : Uses IsQuery (safeTables listed) :=
  uses_mapStep trivial (uses_mapM' fun _ => uses_mapStep trivial fun _ => uses_pure)

theorem insertIndex_wp {idx : BackupIndex}
    (h : ∀ s₁, Serves s s₁ → Chained b.owner s₁.indexes →
      Chained b.owner (s₁.indexes ++ [idx]) ∧
        ∃ links, maxChainLinks b.maxChainLinks = .ok links ∧ idx.chainLength ≤ links) :
    backupWp settled b (call (.insertIndex idx)) (fun _ _ => True) s := by
  refine wpI_call (backupContract_keeps settled b) fun s₁ hr hinv r s₂ hs => ?_
  obtain ⟨hchained, hlinks⟩ := h s₁ hr hinv.chained
  obtain ⟨a, hrun⟩ := hs
  have hs₂ : s₂ = s₁ ∨ s₂ = { s₁ with indexes := s₁.indexes ++ [idx] } := by
    simp only [backupMachine, BackupOp.run, BackupAnswer.statement] at hrun
    split at hrun
    · cases hrun
      exact .inl rfl
    split at hrun
    · cases hrun
      exact .inr rfl
    cases hrun
    split
    · exact .inr rfl
    · exact .inl rfl
  refine ⟨?_, fun _ _ => trivial⟩
  rcases hs₂ with rfl | rfl
  · exact ⟨id, .refl b _⟩
  refine ⟨fun hinv => ⟨hchained, hinv.fresh⟩, fun i hi => ?_⟩
  rcases List.mem_append.mp hi with hi | hi
  · exact .inl hi
  · cases List.mem_singleton.mp hi
    exact .inr hlinks

theorem take_wp {polls links chain : Nat} {started : UTC} {m : SafeSnapshotManifest}
    {entry : TrackFrontier} {kind : BackupKind} {base : String} (hperm : out.Perm s.indexes)
    (hsorted : out.Pairwise (·.name ≤ ·.name)) (hnetwork : checkNetwork b out = .ok ())
    (hlinks : maxChainLinks b.maxChainLinks = .ok links)
    (hnext : nextBackup out.getLast? links = (kind, base, chain)) :
    backupWp settled b (b.take polls started m entry out kind base chain) (fun _ _ => True) s := by
  have hstable : ∀ s s', Serves s s' → out.Perm s.indexes → out.Perm s'.indexes :=
    fun s s' hr h => hr.indexes ▸ h
  refine wpI_bind (wpI_fromExcept fun _ horder => ?_)
  refine (wpI_mapError (countObjects_wp hperm)).bind fun n s _ hcount => ?_
  split
  · exact wpI_throw
  next hnew =>
  have hprepared := hcount.2 fun hpos => hnew (.inl hpos)
  refine queries_keep (safeTables_query _) Prepared.serves hprepared fun tables s hprepared => ?_
  refine wpI_bind (wpI_mapError (wpI_bind ((startBackup_wp hprepared).mono fun id s _ hperm => ?_)))
  refine (queries_wp (waitDone_query ..) hstable hperm).mono fun _ s _ hperm => ?_
  refine queries_keep (uses_ask trivial) hstable hperm fun finished s hperm => ?_
  refine (wpI_mapError (insertIndex_wp fun s₁ hr hchained => ?_)).bind fun _ _ _ _ => ?_
  · refine And.imp_right (fun hle => ⟨links, hlinks, hle⟩) ?_
    exact hchained.append (hstable s s₁ hr hperm) hsorted hnetwork hlinks hnext horder rfl rfl
  · exact wpI_pure trivial

theorem run_wp [Replay] (polls : Nat) : backupWp settled b (b.run polls) (fun _ _ => True) s := by
  unfold Backuper.run
  split
  · exact wpI_throw
  refine wpI_bind (wpI_fromExcept fun _ _ => wpI_bind (wpI_fromExcept fun links hlinks => ?_))
  refine queries_bind (uses_ask trivial) fun started s => ?_
  refine queries_bind (uses_call trivial) fun m s => ?_
  refine wpI_bind (wpI_fromExcept fun _ _ => wpI_bind (wpI_fromExcept fun entry _ => ?_))
  refine readIndexes_wp.bind fun out s _ hout => ?_
  exact wpI_bind (wpI_fromExcept fun _ hnetwork => take_wp hout.1 hout.2 hnetwork hlinks rfl)

end Wp

/-! ## All runs -/

/-- The prefixes that sequences of runs of one owner reach from an empty one. A run may end
    anywhere, and the server goes on with its operations. -/
inductive Reached [Replay] (settled : Bool) (owner : Nat) : OwnerPrefix → Prop where
  | start : Reached settled owner .empty
  | run {s s' : OwnerPrefix} {p' : Prog BackupOp (Except String BackupIndex)} (b : Backuper)
      (polls : Nat) (h : Reached settled owner s) (hb : b.owner = owner)
      (hrun : Runs (backupMachine settled) Serves (b.run polls).run s p' s') :
      Reached settled owner s'

section Runs

variable [Replay] {settled : Bool} {owner : Nat} {s s' : OwnerPrefix}

theorem PrefixInv.runs {b : Backuper} {polls : Nat} {p' : Prog BackupOp (Except String BackupIndex)}
    (h : PrefixInv settled b.owner s)
    (hrun : Runs (backupMachine settled) Serves (b.run polls).run s p' s') :
    PrefixInv settled b.owner s' ∧ WithinLinks b s s' := by
  have hwp := wp.mono (run_wp polls h) fun _ _ _ => trivial
  refine wp.runs_keep (C := backupContract settled b)
    (R := fun s s' => PrefixInv settled b.owner s' ∧ WithinLinks b s s') (fun _ => .refl)
    (fun _ _ _ => .trans) hwp hrun ⟨h, .refl b s⟩ ?_ ?_
  · rintro s₁ s₂ ⟨hinv, hlinks⟩ hr
    refine ⟨(backupContract_keeps settled b).rely s₁ s₂ hr hinv, hlinks.trans ?_⟩
    intro idx hidx
    exact .inl (hr.indexes ▸ hidx)
  · rintro s₁ s₂ ⟨hinv, hlinks⟩ ⟨hkeep, hmore⟩
    exact ⟨hkeep hinv, hlinks.trans hmore⟩

theorem Reached.inv (h : Reached settled owner s) : PrefixInv settled owner s := by
  induction h with
  | start => exact ⟨.nil, fun _ => List.nodup_nil⟩
  | run b polls _ hb hrun ih =>
    subst hb
    exact (ih.runs hrun).1

/-- In every sequence of runs the index objects form chains, none longer than the chain
    length that was configured when it was written. No backup name is written twice if no
    run looks for a name while a BACKUP of that name is pending. -/
theorem backup_chains (owner : Nat) :
    (∀ s, Reached false owner s → BackupChain s.indexes) ∧
      (∀ s, Reached false owner s → ∀ (b : Backuper) polls p' s', b.owner = owner →
        Runs (backupMachine false) Serves (b.run polls).run s p' s' →
          ∀ idx ∈ s'.indexes, idx ∈ s.indexes ∨
            ∃ links, maxChainLinks b.maxChainLinks = .ok links ∧ idx.chainLength ≤ links) ∧
      ∀ s, Reached true owner s → s.written.Nodup := by
  refine ⟨fun s hs => hs.inv.chained.chain, fun s hs b polls p' s' hb hrun => ?_, fun s hs => ?_⟩
  · subst hb
    exact (hs.inv.runs hrun).2
  · exact (hs.inv.fresh rfl).of_append_left

end Runs

/-! ### Runs of one backuper -/

namespace Example

def backuper : Backuper := ⟨true, 1, "net", "key", "secret", 0⟩

def manifest : SafeSnapshotManifest :=
  ⟨"m", "", "m", 5, [⟨1, 5, 2⟩], [⟨"a.b", "h", [⟨"all", "all_0_0_0", "ph", "lt", 3⟩], [⟨"all", "r"⟩]⟩]⟩

def midnight (day : Nat) : UTC := ⟨2026, 1, day, 0, 0, 0⟩

/-- Clock, manifest, indexes, objects, tables and parts, and the BACKUP. -/
def start (day : Nat) (indexes : List BackupIndex) (backup : BackupAnswer) : List BackupAnswer :=
  [{ time := midnight day }, { manifest }, { indexes }, {}, { tables := [⟨"a__b", "", ""⟩] },
    { parts := [⟨"all_0_0_0", "all", "", "ph", "", 3, 9⟩] }, backup]

/-- The status, the clock and the index. -/
def finish (day : Nat) : List BackupAnswer := [{}, { time := midnight day }, {}]

def index (day : Nat) (kind : BackupKind) (base : String) (chain : Nat) : BackupIndex :=
  ⟨backupIndexFormat, "net", 1, backupName (midnight day) kind, kind, base, chain, (midnight day).rfc3339,
    (midnight day).rfc3339, "m", ⟨1, 5, 2⟩, [⟨"a__b", "a.b", 0, [⟨"all_0_0_0", "all", "ph", 3⟩]⟩]⟩

def full : BackupIndex := index 1 .full "" 1

def incremental : BackupIndex := index 2 .incremental full.name 2

end Example

open Example in
/-- A full backup and an incremental one on it, whose BACKUP statements the server writes
    before their status is read. -/
theorem backup_chains_full_incremental :
    letI := exampleReplay
    Reached true 1 ⟨[full, incremental], [full.name, incremental.name], []⟩ ∧
      BackupChain [full, incremental] ∧ [full.name, incremental.name].Nodup := by
  let _ := exampleReplay
  have hreached : ∀ settled, Reached settled 1 ⟨[full, incremental], [full.name, incremental.name], []⟩ := by
    intro settled
    have hfull : Reached settled 1 ⟨[full], [full.name], []⟩ := by
      have hwrites := Relation.ReflTransGen.single (ServerStep.writes [] [] [] [] full.name)
      cases settled <;> exact .run backuper 1 .start rfl (Runs.replay (l := finish 1)
        (.others (Runs.refl.replay (l := start 1 [] {}) rfl) hwrites) rfl)
    have hwrites := Relation.ReflTransGen.single
      (ServerStep.writes [full] [full.name] [] [] incremental.name)
    cases settled <;> exact .run backuper 1 hfull rfl (Runs.replay (l := finish 2)
      (.others (Runs.refl.replay (l := start 2 [full] {}) rfl) hwrites) rfl)
  obtain ⟨hchain, -, hnodup⟩ := backup_chains 1
  exact ⟨hreached true, hchain _ (hreached false), hnodup _ (hreached true)⟩

open Example in
/-- A BACKUP whose client fails before the server has written an object, and a second run
    in the same second. -/
theorem backup_name_written_twice :
    letI := exampleReplay
    ∃ s, Reached false 1 s ∧ s.written = ["20260101T000000Z-full", "20260101T000000Z-full"] := by
  let _ := exampleReplay
  let answers := start 1 [] { err := some "connection lost" }
  have hfirst : Reached false 1 ⟨[], [], [full.name]⟩ :=
    .run backuper 0 .start rfl (Runs.refl.replay (l := answers) rfl)
  have hsecond : Runs (backupMachine false) Serves (backuper.run 0).run ⟨[], [], [full.name]⟩ _
      ⟨[], [], [full.name, full.name]⟩ := Runs.refl.replay (l := answers) rfl
  have hwrites : Serves ⟨[], [], [full.name, full.name]⟩ ⟨[], [full.name, full.name], []⟩ :=
    .tail (.single (.writes [] [] [] [full.name] full.name)) (.writes [] [full.name] [] [] full.name)
  exact ⟨_, .run backuper 0 hfirst rfl (hsecond.others hwrites), rfl⟩

end ArbiterCore.Backup
