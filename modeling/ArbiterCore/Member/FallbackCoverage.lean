-- SUMMARY: Successive fetches of a need reach every candidate, when no statement fails.
import ArbiterCore.Base.CursorScan
import ArbiterCore.Base.Runs
import ArbiterCore.Member.RemotePull

/-!
# Coverage of the fallback

The candidates of a need are a sorted list, and the calls read it in windows behind the
need's cursor. Other calls have their own cursors and scratch tables. So long as no pull
fails, the calls of two rounds have tried every candidate. A failed pull ends its call
without moving the cursor, and the next call starts with the same window.
-/

namespace ArbiterCore.Sources

open Conc RemotePull

/-! ## What a call owns -/

/-- The tables of a call: its scratch and those of its candidates. -/
def Own (scratch t : Scratch) : Prop := t = scratch ∨ ∃ k, t = candidateScratch scratch k

/-- The part of the world that a call relies on. -/
abbrev View (scratch : Scratch) : Type := String × ({t // Own scratch t} → Option (List PartScanResult))

def view (key : String) (scratch : Scratch) (w : PullWorld) : View scratch :=
  (w.after.getD key "", fun t => w.tables.lookup t.1)

/-- An operation of a call with another key and other tables. -/
def IsOther (key : String) (scratch : Scratch) : (δ : Type) → PullOp δ → Prop
  | _, .setCursor key' _ => key' ≠ key
  | _, .createTemporary t _ | _, .pull t .. | _, .attach t .. | _, .dropTemporary t => ¬ Own scratch t
  | _, _ => True

section View

variable {key : String} {scratch : Scratch} {w w' : PullWorld} {o : Owner}
  {f : String → Option String}

theorem calm_run {δ : Type} {op : PullOp δ} {a : PullAnswer} {r : δ}
    (h : (pullMachine o f calm).run op a w = some (r, w')) :
    op.fails a w = false ∧ op.run o f a w = some (r, w') := by
  obtain ⟨hfails, hrun⟩ := Option.ite_none_left_eq_some.mp h
  simp only [calm, Bool.not_false, Bool.and_true, Bool.not_eq_true] at hfails
  exact ⟨hfails, hrun⟩

theorem query_calm {β : Type} {a : PullAnswer} {result : β} {r : Except Failure β}
    (h : a.err.isSome = false ∧ a.query w result = some (r, w')) : r = .ok result ∧ w' = w := by
  obtain ⟨herr, h⟩ := h
  have herr : a.err = none := by simpa using herr
  unfold PullAnswer.query at h
  rw [herr] at h
  cases h
  exact ⟨rfl, rfl⟩

theorem statement_calm {a : PullAnswer} {next : Option PullWorld} {r : Except Failure Unit}
    (h : a.err.isSome = false ∧ a.statement w next = some (r, w')) : r = .ok () ∧ next = some w' := by
  obtain ⟨herr, h⟩ := h
  have herr : a.err = none := by simpa using herr
  unfold PullAnswer.statement at h
  rw [herr] at h
  cases next with
  | none => cases h
  | some w₁ =>
    cases h
    exact ⟨rfl, rfl⟩

theorem view_setTable {v : View scratch} (hv : view key scratch w = v) (t : {t // Own scratch t})
    (parts : List PartScanResult) :
    view key scratch (w.setTable t.1 parts) = (v.1, Function.update v.2 t (some parts)) := by
  subst hv
  refine Prod.ext rfl (funext fun u => ?_)
  simp only [view, PullWorld.setTable, GoMap.lookup_insert, Function.update_apply, Subtype.ext_iff]

theorem view_erase {v : View scratch} (hv : view key scratch w = v) (t : {t // Own scratch t}) :
    view key scratch { w with tables := w.tables.erase t.1 } = (v.1, Function.update v.2 t none) := by
  subst hv
  refine Prod.ext rfl (funext fun u => ?_)
  simp only [view, GoMap.lookup_erase, Function.update_apply, Subtype.ext_iff]

theorem lookup_of_view {v : View scratch} (hv : view key scratch w = v) (t : {t // Own scratch t}) :
    w.tables.lookup t.1 = v.2 t := by
  rw [← hv]
  rfl

theorem setCursor_tables (key after : String) : (w.setCursor key after).tables = w.tables := by
  unfold PullWorld.setCursor
  split
  · rfl
  · split <;> rfl

/-- Setting a cursor while there is room for it. -/
theorem getD_setCursor (hroom : ¬ w.after.keys.length ≥ maxFallbackCursors) (key' after : String) :
    (w.setCursor key' after).after.getD key "" = if key = key' then after else w.after.getD key "" := by
  unfold PullWorld.setCursor
  split
  · next hempty =>
    simp only [GoMap.getD, GoMap.lookup_erase]
    split
    · exact hempty.symm
    · rfl
  · exact GoMap.getD_insert ..

theorem view_setCursor (hroom : ¬ w.after.keys.length ≥ maxFallbackCursors) (after : String) :
    view key scratch (w.setCursor key after) = (after, (view key scratch w).2) := by
  refine Prod.ext ((getD_setCursor hroom key after).trans (if_pos rfl)) ?_
  simp only [view, setCursor_tables]

/-- The operations of other calls leave the view of a call alone. -/
theorem IsOther.view_eq {δ : Type} {op : PullOp δ} {b : δ} (hop : IsOther key scratch δ op)
    (hs : (pullMachine o f calm).sem op w b w') : view key scratch w' = view key scratch w := by
  have htable : ∀ {t : Scratch} {parts : List PartScanResult}, ¬ Own scratch t →
      view key scratch (w.setTable t parts) = view key scratch w := by
    intro t parts ht
    refine Prod.ext rfl (funext fun u => ?_)
    have hne : u.1 ≠ t := fun hut => ht (hut ▸ u.2)
    exact GoMap.lookup_insert_of_ne hne ..
  obtain ⟨a, hrun⟩ := hs
  cases op with
  | cursor =>
    cases (calm_run hrun).2
    rfl
  | setCursor key' after =>
    obtain ⟨hroom, hrun⟩ := calm_run hrun
    cases hrun
    have hroom := of_decide_eq_false hroom
    refine Prod.ext ((getD_setCursor hroom key' after).trans (if_neg (Ne.symm hop))) ?_
    simp only [view, setCursor_tables]
  | createTemporary candidate scratch' =>
    obtain ⟨-, hnext⟩ := statement_calm (calm_run hrun)
    split at hnext
    · cases hnext
      exact htable hop
    · cases hnext
  | pull into database table part =>
    obtain ⟨-, hnext⟩ := statement_calm (calm_run hrun)
    obtain ⟨parts, -, rfl⟩ := Option.map_eq_some_iff.mp hnext
    split
    · exact htable hop
    · rfl
  | attach scratch' partitionID candidate =>
    obtain ⟨-, hnext⟩ := statement_calm (calm_run hrun)
    split at hnext
    · cases hnext
      exact htable hop
    · cases hnext
  | dropTemporary candidate =>
    obtain ⟨heffect, hrun⟩ := calm_run hrun
    simp only [PullOp.fails, Bool.not_eq_false'] at heffect
    simp only [PullOp.run, heffect, if_true] at hrun
    cases hrun
    refine Prod.ext rfl (funext fun u => ?_)
    have hne : u.1 ≠ candidate := fun hut => hop (hut ▸ u.2)
    exact GoMap.lookup_erase_of_ne hne _
  | _ =>
    obtain ⟨-, rfl⟩ := query_calm (calm_run hrun)
    rfl

end View

/-! ## One call -/

section Call

variable {o : Owner} {f : String → Option String} {key : String} {scratch : Scratch} {α : Type}
  {p : RemotePull} {need : Need} {sch : TableSchema} {v : View scratch}

/-- The precondition of a program that does not fail, over the view of a call. -/
abbrev CalmWp (o : Owner) (f : String → Option String) (key : String) (scratch : Scratch)
    (p : PullM α) (Q : α → View scratch → Prop) (v : View scratch) : Prop :=
  wpV (pullMachine o f calm) (view key scratch) (fun _ _ => True) p Q (fun _ => False) v

variable {Q : α → View scratch → Prop}

/-- An operation that answers from the view. -/
theorem calm_call {op : PullOp (Except Failure α)}
    (h : ∀ w r w', view key scratch w = v → (pullMachine o f calm).sem op w r w' →
      ∃ a, r = .ok a ∧ Q a (view key scratch w')) :
    CalmWp o f key scratch (call op) Q v := by
  refine wpV_call fun w r w' hv hs => ⟨trivial, ?_⟩
  obtain ⟨a, rfl, hQ⟩ := h w r w' hv hs
  exact hQ

theorem CalmWp.bind {β : Type} {q : PullM α} {g : α → PullM β} {Q' : β → View scratch → Prop}
    (h : CalmWp o f key scratch q Q v) (hQ : ∀ a v, Q a v → CalmWp o f key scratch (g a) Q' v) :
    CalmWp o f key scratch (q >>= g) Q' v :=
  wpV.bind h hQ fun _ => id

/-- A query answers from the world and leaves it alone. -/
theorem calm_query {op : PullOp (Except Failure α)} {result : PullAnswer → PullWorld → α}
    (hfails : ∀ a w, op.fails a w = a.err.isSome)
    (hrun : ∀ a w, op.run o f a w = a.query w (result a w))
    (h : ∀ a w, view key scratch w = v → Q (result a w) v) : CalmWp o f key scratch (call op) Q v := by
  refine calm_call fun w r w' hv hs => ?_
  obtain ⟨a, hcalm⟩ := hs
  obtain ⟨herr, hanswer⟩ := calm_run hcalm
  obtain ⟨rfl, rfl⟩ := query_calm ⟨(hfails a w).symm.trans herr, (hrun a w).symm.trans hanswer⟩
  exact ⟨_, rfl, hv ▸ h a _ hv⟩

/-- The part has the needed rows. -/
def Matches (o : Owner) (p : RemotePull) (need : Need) (name : String) : Prop :=
  ∃ q, o.part p.database need.table name = some q ∧ q.rowLtHash = need.partRowLtHash ∧
    q.rows = need.rowCount

/-- The scratch holds exactly the needed part. -/
def Kept (need : Need) (parts : Option (List PartScanResult)) : Prop :=
  ∃ name, parts = some [⟨name, need.partRowLtHash, need.rowCount⟩]

def theScratch (scratch : Scratch) : {t // Own scratch t} := ⟨scratch, .inl rfl⟩

def theCandidate (scratch : Scratch) (k : Nat) : {t // Own scratch t} :=
  ⟨candidateScratch scratch k, .inr ⟨k, rfl⟩⟩

theorem theCandidate_ne (scratch : Scratch) (k : Nat) : theCandidate scratch k ≠ theScratch scratch := by
  intro h
  have hlength := congrArg (fun t => t.1.table.length) h
  simp only [theCandidate, theScratch, candidateScratch, String.length_append] at hlength
  have : "_c".length = 2 := rfl
  omega

/-- The scratch is empty and no candidate's scratch is there. -/
def Idle (v : View scratch) : Prop :=
  v.2 (theScratch scratch) = some [] ∧ ∀ k, v.2 (theCandidate scratch k) = none

/-- What a pull of a candidate writes. -/
def pulled (o : Owner) (p : RemotePull) (need : Need) (name new : String) : List PartScanResult :=
  match o.part p.database need.table name with
  | some q => [⟨new, q.rowLtHash, q.rows⟩]
  | none => []

variable {k : Nat}

theorem createTemporary_calm (hv : Idle v) :
    CalmWp o f key scratch (call (.createTemporary (candidateScratch scratch k) scratch))
      (fun _ v' => v' = (v.1, Function.update v.2 (theCandidate scratch k) (some []))) v := by
  refine calm_call fun w r w' hw hs => ?_
  obtain ⟨a, hrun⟩ := hs
  obtain ⟨rfl, hnext⟩ := statement_calm (calm_run hrun)
  have hcandidate := (lookup_of_view hw (theCandidate scratch k)).trans (hv.2 k)
  have hscratch := (lookup_of_view hw (theScratch scratch)).trans hv.1
  rw [show w.tables.lookup (candidateScratch scratch k) = none from hcandidate,
    show w.tables.lookup scratch = some [] from hscratch] at hnext
  cases hnext
  exact ⟨(), rfl, view_setTable hw (theCandidate scratch k) []⟩

theorem pull_calm {name : String} (hv : v.2 (theCandidate scratch k) = some []) :
    CalmWp o f key scratch (call (.pull (candidateScratch scratch k) p.database need.table name))
      (fun _ v' => ∃ new, v' =
        (v.1, Function.update v.2 (theCandidate scratch k) (some (pulled o p need name new)))) v := by
  refine calm_call fun w r w' hw hs => ?_
  obtain ⟨a, hrun⟩ := hs
  obtain ⟨rfl, hnext⟩ := statement_calm (calm_run hrun)
  have hcandidate := (lookup_of_view hw (theCandidate scratch k)).trans hv
  rw [show w.tables.lookup (candidateScratch scratch k) = some [] from hcandidate] at hnext
  refine ⟨(), rfl, a.name, ?_⟩
  unfold pulled
  cases hpart : o.part p.database need.table name with
  | some q =>
    simp only [hpart, Option.map_some, List.nil_append, Option.some.injEq] at hnext
    exact hnext ▸ view_setTable hw (theCandidate scratch k) _
  | none =>
    simp only [hpart, Option.map_some, Option.some.injEq] at hnext
    rw [← hnext, hw, ← hv, Function.update_eq_self]

theorem scanAllParts_calm {t : {t // Own scratch t}} {parts : List PartScanResult}
    (hv : v.2 t = some parts) :
    CalmWp o f key scratch (call (.scanAllParts t.1)) (fun r v' => r = parts ∧ v' = v) v := by
  refine calm_query (fun _ _ => rfl) (fun _ _ => rfl) fun _ w hw => ⟨?_, rfl⟩
  rw [(lookup_of_view hw t).trans hv, Option.getD_some]

theorem attach_calm {partitionID : String} {new : List PartScanResult}
    (hscratch : v.2 (theScratch scratch) = some [])
    (hcandidate : v.2 (theCandidate scratch k) = some new) :
    CalmWp o f key scratch (call (.attach scratch partitionID (candidateScratch scratch k)))
      (fun _ v' => ∃ name, v' = (v.1, Function.update v.2 (theScratch scratch)
        (some (new.map fun q => { q with partName := name })))) v := by
  refine calm_call fun w r w' hw hs => ?_
  obtain ⟨a, hrun⟩ := hs
  obtain ⟨rfl, hnext⟩ := statement_calm (calm_run hrun)
  have hcandidate := (lookup_of_view hw (theCandidate scratch k)).trans hcandidate
  have hscratch := (lookup_of_view hw (theScratch scratch)).trans hscratch
  rw [show w.tables.lookup (candidateScratch scratch k) = some new from hcandidate,
    show w.tables.lookup scratch = some [] from hscratch] at hnext
  cases hnext
  exact ⟨(), rfl, _, view_setTable hw (theScratch scratch) _⟩

theorem dropTemporary_calm :
    CalmWp o f key scratch (ask (.dropTemporary (candidateScratch scratch k)))
      (fun _ v' => v' = (v.1, Function.update v.2 (theCandidate scratch k) none)) v := by
  refine wpV_ask fun w r w' hw hs => ⟨trivial, ?_⟩
  obtain ⟨a, hrun⟩ := hs
  obtain ⟨heffect, hrun⟩ := calm_run hrun
  simp only [PullOp.fails, Bool.not_eq_false'] at heffect
  simp only [PullOp.run, heffect, if_true] at hrun
  cases hrun
  exact view_erase hw (theCandidate scratch k)

/-- A candidate is kept if it has the needed rows; else only its scratch is new. -/
theorem pullCandidate_calm {name : String} (hv : Idle v) :
    CalmWp o f key scratch (pullCandidate p need scratch (candidateScratch scratch k) name)
      (fun kept v' => if kept = true then Kept need (v'.2 (theScratch scratch))
        else ¬ Matches o p need name ∧
          ∃ parts, v' = (v.1, Function.update v.2 (theCandidate scratch k) parts)) v := by
  refine (createTemporary_calm hv).bind ?_
  rintro _ _ rfl
  refine (pull_calm (Function.update_self ..)).bind ?_
  rintro _ _ ⟨new, rfl⟩
  rw [Function.update_idem]
  refine (scanAllParts_calm (t := theCandidate scratch k) (Function.update_self ..)).bind ?_
  rintro _ _ ⟨rfl, rfl⟩
  unfold pulled
  cases hpart : o.part p.database need.table name with
  | none =>
    refine wpV_pure ⟨?_, _, rfl⟩
    rintro ⟨q, hq, -⟩
    cases hpart.symm.trans hq
  | some q =>
    dsimp only
    split
    · next hdiffers =>
      refine wpV_pure ⟨?_, _, rfl⟩
      rintro ⟨q', hq', hhash, hrows⟩
      cases hpart.symm.trans hq'
      exact hdiffers.elim (· hhash) (· hrows)
    · next hsame =>
      obtain ⟨hhash, hrows⟩ := not_or.mp hsame
      have hne := (theCandidate_ne scratch k).symm
      refine (calm_query (Q := fun _ v' => v' = _) (fun _ _ => rfl) (fun _ _ => rfl) fun _ _ _ => rfl).bind ?_
      rintro partitionID _ rfl
      refine (attach_calm ((Function.update_of_ne hne ..).trans hv.1)
        (Function.update_self ..)).bind ?_
      rintro _ _ ⟨attached, rfl⟩
      refine wpV_pure ⟨attached, ?_⟩
      rw [← not_not.mp hhash, ← not_not.mp hrows]
      exact Function.update_self ..

/-- Nothing is left of a candidate that is not kept. -/
theorem tryCandidate_calm {name : String} (hv : Idle v) :
    CalmWp o f key scratch (tryCandidate p need scratch (candidateScratch scratch k) name)
      (fun kept v' => if kept = true then Kept need (v'.2 (theScratch scratch))
        else ¬ Matches o p need name ∧ v' = v) v := by
  refine wpV_bind (wpV_attempt ((pullCandidate_calm hv).mono ?_ fun _ => id) fun _ _ => False.elim)
  intro kept v' hpost
  refine dropTemporary_calm.bind ?_
  rintro _ _ rfl
  cases kept with
  | true =>
    refine wpV_pure (a := true) ?_
    rw [if_pos rfl] at hpost ⊢
    dsimp only
    rw [Function.update_of_ne (theCandidate_ne scratch k).symm]
    exact hpost
  | false =>
    refine wpV_pure (a := false) ?_
    rw [if_neg Bool.false_ne_true] at hpost ⊢
    obtain ⟨hmatch, parts, rfl⟩ := hpost
    refine ⟨hmatch, Prod.ext rfl ?_⟩
    rw [Function.update_idem, ← hv.2 k, Function.update_eq_self]

theorem tryCandidates_calm {names : List String} (hv : Idle v) :
    CalmWp o f key scratch (tryCandidates p need scratch k names)
      (fun kept v' => if kept = true then Kept need (v'.2 (theScratch scratch))
        else (∀ name ∈ names, ¬ Matches o p need name) ∧ v' = v) v := by
  induction names generalizing k with
  | nil => exact wpV_pure ⟨fun _ h => absurd h List.not_mem_nil, rfl⟩
  | cons name names ih =>
    refine CalmWp.bind (wpV_mapError (tryCandidate_calm hv)) ?_
    intro kept v' hpost
    cases kept with
    | true => exact wpV_pure hpost
    | false =>
      rw [if_neg Bool.false_ne_true] at hpost
      obtain ⟨hmatch, rfl⟩ := hpost
      refine ih.mono (fun kept v' hpost => ?_) fun _ => id
      cases kept with
      | true => exact hpost
      | false =>
        rw [if_neg Bool.false_ne_true] at hpost ⊢
        exact ⟨List.forall_mem_cons.mpr ⟨hmatch, hpost.1⟩, hpost.2⟩

theorem fetched_calm :
    CalmWp o f key scratch (fetched scratch) (fun r v' => r.1 = .fetched ∧ v' = v) v := by
  have hparts : CalmWp o f key scratch (call (.scratchParts scratch)) (fun _ v' => v' = v) v :=
    calm_query (fun _ _ => rfl) (fun _ _ => rfl) fun _ _ _ => rfl
  refine CalmWp.bind (wpV_mapError hparts) ?_
  rintro parts _ rfl
  exact wpV_pure ⟨rfl, rfl⟩

/-- The member's server gives the partition of the need the id. -/
def PartitionIs (f : String → Option String) (need : Need) (sch : TableSchema) (pid : String) : Prop :=
  ∃ value, quotePartition sch need.partitionID = .ok value ∧
    if sch.partitionBy = "" then pid = "all" else f value = some pid

theorem partitionIDOf_calm {pid : String} (h : PartitionIs f need sch pid) :
    CalmWp o f key scratch (partitionIDOf need sch) (fun id v' => id = pid ∧ v' = v) v := by
  obtain ⟨value, hquote, hid⟩ := h
  unfold partitionIDOf
  rw [hquote]
  refine wpV_bind (wpV_pure (a := value) ?_)
  split
  · next hpart =>
    rw [if_pos hpart] at hid
    exact wpV_pure ⟨hid.symm, rfl⟩
  next hpart =>
  rw [if_neg hpart] at hid
  have hquery : CalmWp o f key scratch (call (.partitionId value))
      (fun id v' => id = some pid ∧ v' = v) v :=
    calm_query (fun _ _ => rfl) (fun _ _ => rfl) fun _ _ _ => ⟨hid, rfl⟩
  refine hquery.bind ?_
  rintro _ _ ⟨rfl, rfl⟩
  exact wpV_pure ⟨rfl, rfl⟩

/-- The window of candidates after a name. -/
def listed (o : Owner) (p : RemotePull) (need : Need) (pid after : String) : List String :=
  ((o.candidates p.database need.table pid need.rowCount).filter fun n => after = "" ∨ after < n).take
    p.fallbackLimit

/-- A fallback keeps a part with the needed rows, or none of its window has them and the
    cursor moves on. -/
def Tried (o : Owner) (p : RemotePull) (need : Need) (pid : String) (v v' : View scratch)
    (outcome : Outcome) : Prop :=
  outcome = .fetched ∧ Kept need (v'.2 (theScratch scratch)) ∨
    outcome = .missed ∧ (∀ name ∈ listed o p need pid v.1, ¬ Matches o p need name) ∧
      v'.1 = nextFallbackCursor (listed o p need pid v.1) p.fallbackLimit

theorem fallback_calm {pid : String} (hv : Idle v) (hlimit : 0 < p.fallbackLimit)
    (hrows : 0 < need.rowCount) (hhash : need.partRowLtHash ≠ "") (hpid : PartitionIs f need sch pid)
    (hkey : key = fallbackKey need pid) :
    CalmWp o f key scratch (fallback p need sch scratch)
      (fun r v' => Tried o p need pid v v' r.1) v := by
  have hset : ∀ {after : String} {v : View scratch}, CalmWp o f key scratch (ask (.setCursor key after))
      (fun _ v' => v' = (after, v.2)) v := by
    intro after v
    refine wpV_ask fun w r w' hw hs => ⟨trivial, ?_⟩
    obtain ⟨a, hrun⟩ := hs
    obtain ⟨hroom, hrun⟩ := calm_run hrun
    cases hrun
    rw [view_setCursor (of_decide_eq_false hroom), hw]
  have hcursor : CalmWp o f key scratch (ask (.cursor key)) (fun after v' => after = v.1 ∧ v' = v) v := by
    refine wpV_ask fun w r w' hw hs => ⟨trivial, ?_⟩
    obtain ⟨a, hrun⟩ := hs
    cases (calm_run hrun).2
    exact ⟨congrArg Prod.fst hw, hw⟩
  have hlist : CalmWp o f key scratch (call (.candidatesByRows p.database need.table pid need.rowCount
      v.1 p.fallbackLimit)) (fun names v' => names = listed o p need pid v.1 ∧ v' = v) v :=
    calm_query (fun _ _ => rfl) (fun _ _ => rfl) fun _ _ _ => ⟨rfl, rfl⟩
  unfold fallback
  dsimp only
  split
  · next hnone =>
    rcases hnone with hnone | hnone | hnone
    · exact absurd hnone hlimit.ne'
    · exact absurd hnone hrows.ne'
    · exact absurd hnone hhash
  refine CalmWp.bind (wpV_mapError (partitionIDOf_calm hpid)) ?_
  rintro _ _ ⟨rfl, rfl⟩
  rw [← hkey]
  refine hcursor.bind ?_
  rintro _ _ ⟨rfl, rfl⟩
  refine CalmWp.bind (wpV_mapError hlist) ?_
  rintro _ _ ⟨rfl, rfl⟩
  refine (tryCandidates_calm hv).bind ?_
  intro kept v' hpost
  cases kept with
  | true =>
    refine hset.bind ?_
    rintro _ _ rfl
    refine fetched_calm.mono ?_ fun _ => id
    rintro r _ ⟨hfetched, rfl⟩
    exact .inl ⟨hfetched, hpost⟩
  | false =>
    rw [if_neg Bool.false_ne_true] at hpost
    obtain ⟨hnone, rfl⟩ := hpost
    refine hset.bind ?_
    rintro _ _ rfl
    exact wpV_pure (.inr ⟨rfl, hnone, rfl⟩)

/-- No active part of the owner has the hash of the need's files. -/
def NotResolved (o : Owner) (p : RemotePull) (need : Need) : Prop :=
  need.partPhysHash = "" ∨ ∀ q ∈ o.parts,
    ¬ (q.database = p.database ∧ q.table = need.table ∧ q.physHash = need.partPhysHash)

theorem fetch_calm {pid : String} (hv : Idle v) (hcheck : p.check need scratch = .ok ())
    (hlimit : 0 < p.fallbackLimit) (hrows : 0 < need.rowCount) (hhash : need.partRowLtHash ≠ "")
    (hresolve : NotResolved o p need) (hpid : PartitionIs f need sch pid)
    (hkey : key = fallbackKey need pid) :
    CalmWp o f key scratch (p.fetch need sch scratch)
      (fun res v' => Tried o p need pid v v' res.outcome) v := by
  have hfallback := fallback_calm (o := o) hv hlimit hrows hhash hpid hkey
  have hparts : CalmWp o f key scratch (fetchParts p need sch scratch)
      (fun r v' => Tried o p need pid v v' r.1) v := by
    unfold fetchParts
    split
    · exact hfallback
    next hphys =>
    have hnone : CalmWp o f key scratch (resolveByHash p need) (fun r v' => r = none ∧ v' = v) v := by
      have hrows : CalmWp o f key scratch (call (.resolve p.database need.table need.partPhysHash))
          (fun rows v' => rows = [] ∧ v' = v) v := by
        refine calm_query (fun _ _ => rfl) (fun _ _ => rfl) fun _ w hw =>
          ⟨List.map_eq_nil_iff.mpr (List.filter_eq_nil_iff.mpr fun q hq => ?_), rfl⟩
        simpa using hresolve.resolve_left hphys q hq
      refine hrows.bind ?_
      rintro _ _ ⟨rfl, rfl⟩
      exact wpV_pure ⟨rfl, rfl⟩
    refine CalmWp.bind (wpV_mapError hnone) ?_
    rintro _ _ ⟨rfl, rfl⟩
    exact hfallback
  unfold RemotePull.fetch
  rw [hcheck]
  refine wpV_bind (wpV_attempt (hparts.mono ?_ fun _ => id) fun _ _ => False.elim)
  intro r v' hpost
  exact wpV_pure hpost

end Call

/-! ## Successive calls -/

/-- The scratch of a call when it starts. -/
structure Fresh (scratch : Scratch) (w : PullWorld) : Prop where
  named : scratch.database ≠ "" ∧ scratch.table ≠ ""
  empty : w.tables.lookup scratch = some []
  candidates : ∀ k, w.tables.lookup (candidateScratch scratch k) = none

/-- Successive calls for one need, each with its result and the parts of its scratch. During
    a call others perform their own operations; between two calls anything may change but
    the cursor of the need. -/
inductive Fetches (o : Owner) (f : String → Option String) (mayFail : (δ : Type) → PullOp δ → Bool)
    (p : RemotePull) (need : Need) (sch : TableSchema) (key : String) (w : PullWorld) :
    List (Result × Option (List PartScanResult)) → PullWorld → Prop where
  | start : Fetches o f mayFail p need sch key w [] w
  | others {rs : List (Result × Option (List PartScanResult))} {w₁ w₂ : PullWorld}
      (h : Fetches o f mayFail p need sch key w rs w₁)
      (hcursor : w₂.after.getD key "" = w₁.after.getD key "") :
      Fetches o f mayFail p need sch key w rs w₂
  | call {rs : List (Result × Option (List PartScanResult))} {w₁ w₂ : PullWorld} {scratch : Scratch}
      {res : Result} (h : Fetches o f mayFail p need sch key w rs w₁) (hfresh : Fresh scratch w₁)
      (hrun : Runs (pullMachine o f mayFail) (fun w w' => ∃ (δ : Type) (op : PullOp δ) (b : δ),
        IsOther key scratch δ op ∧ (pullMachine o f mayFail).sem op w b w')
        (p.fetch need sch scratch).run w₁ (.ret (.ok res)) w₂) :
      Fetches o f mayFail p need sch key w (rs ++ [(res, w₂.tables.lookup scratch)]) w₂

section Runs

variable {o : Owner} {f : String → Option String} {p : RemotePull} {need : Need} {sch : TableSchema}
  {pid : String} {w w' : PullWorld}

/-- A cursor as the text that remembers it. -/
def cursorOf (after : String) : Option String := if after = "" then none else some after

theorem listed_eq (after : String) : listed o p need pid after =
    CursorScan.window (o.candidates p.database need.table pid need.rowCount) p.fallbackLimit
      (cursorOf after) := by
  unfold listed CursorScan.window cursorOf
  split
  · next hempty => simp [hempty, CursorScan.behind]
  · next hne => simp [hne, CursorScan.behind]

theorem name_of_mem_candidates {database table : String} {rows : Nat} {name : String}
    (h : name ∈ o.candidates database table pid rows) : name ≠ "" := by
  have hmem := (List.perm_insertionSort ..).mem_iff.mp h
  obtain ⟨q, hq, rfl⟩ := List.mem_map.mp hmem
  exact o.name_ne_empty q (List.mem_of_mem_filter hq)

/-- The names of the candidates strictly increase. -/
theorem candidates_sorted (database table : String) (rows : Nat) :
    (o.candidates database table pid rows).Pairwise (· < ·) := by
  have hle : (o.candidates database table pid rows).Pairwise (· ≤ ·) := List.pairwise_insertionSort ..
  have hnodup : (o.candidates database table pid rows).Nodup := by
    refine (List.perm_insertionSort ..).nodup_iff.mpr ?_
    refine List.Nodup.map_on ?_ (o.names_nodup.of_map.filter _)
    intro q hq q' hq' hname
    simp only [List.mem_filter, decide_eq_true_eq] at hq hq'
    refine List.inj_on_of_nodup_map o.names_nodup hq.1 hq'.1 ?_
    rw [hq.2.1, hq.2.2.1, hq'.2.1, hq'.2.2.1, hname]
  exact (hle.and hnodup).imp fun h => lt_of_le_of_ne h.1 h.2

theorem cursorOf_next {names : List String} (hnames : ∀ n ∈ names, n ≠ "") (limit : Nat) :
    cursorOf (nextFallbackCursor names limit) = CursorScan.next limit names := by
  unfold nextFallbackCursor CursorScan.next
  simp only [List.length_eq_zero_iff]
  split
  · rfl
  next hfull =>
  have hne : names ≠ [] := fun hnil => hfull (.inr hnil)
  rw [List.getLastD_eq_getLast?, List.getLast?_eq_some_getLast hne, Option.getD_some]
  exact if_neg (hnames _ (List.getLast_mem hne))

/-- The conditions under which the calls for a need use the fallback. -/
structure FallsBack (o : Owner) (f : String → Option String) (p : RemotePull) (need : Need)
    (sch : TableSchema) (pid : String) : Prop where
  collection : isIdentifier p.collection = true
  named : p.database ≠ "" ∧ need.table ≠ ""
  limit : 0 < p.fallbackLimit
  rows : 0 < need.rowCount
  hash : need.partRowLtHash ≠ ""
  resolve : NotResolved o p need
  partition : PartitionIs f need sch pid

/-- Either a call kept the need, or the cursor went through the windows of the candidates
    and none of them had a part with the needed rows. -/
theorem Fetches.windows (hneed : FallsBack o f p need sch pid)
    {rs : List (Result × Option (List PartScanResult))}
    (h : Fetches o f calm p need sch (fallbackKey need pid) w rs w') :
    (∃ r ∈ rs, r.1.outcome = .fetched ∧ Kept need r.2) ∨
      cursorOf (w'.after.getD (fallbackKey need pid) "") =
          CursorScan.cursorAt (o.candidates p.database need.table pid need.rowCount) p.fallbackLimit
            (cursorOf (w.after.getD (fallbackKey need pid) "")) rs.length ∧
        ∀ k < rs.length, ∀ name ∈ CursorScan.window
          (o.candidates p.database need.table pid need.rowCount) p.fallbackLimit
          (CursorScan.cursorAt (o.candidates p.database need.table pid need.rowCount) p.fallbackLimit
            (cursorOf (w.after.getD (fallbackKey need pid) "")) k), ¬ Matches o p need name := by
  induction h with
  | start => exact .inr ⟨rfl, fun _ h => absurd h (Nat.not_lt_zero _)⟩
  | others _ hcursor ih =>
    rw [hcursor]
    exact ih
  | @call rs w₁ w₂ scratch res _ hfresh hrun ih =>
    have hidle : Idle (view (fallbackKey need pid) scratch w₁) := ⟨hfresh.empty, hfresh.candidates⟩
    have hcheck : p.check need scratch = .ok () := by
      unfold RemotePull.check
      rw [if_neg (by simpa using hneed.collection), if_neg (by simpa using hneed.named),
        if_neg (by simpa using hfresh.named)]
    have hcall := fetch_calm (o := o) hidle hcheck hneed.limit hneed.rows hneed.hash hneed.resolve
      hneed.partition rfl
    have hrun := hrun.weaken fun w w' hother => by
      obtain ⟨δ, op, b, hop, hs⟩ := hother
      exact hop.view_eq hs
    have htried := wpV.runs hcall hrun
    rcases ih with ⟨r, hr, hkept⟩ | ⟨hcursor, hnone⟩
    · exact .inl ⟨r, List.mem_append_left _ hr, hkept⟩
    rcases htried with ⟨hfetched, hkept⟩ | ⟨-, hmiss, hnext⟩
    · exact .inl ⟨_, List.mem_append_right _ (List.mem_singleton_self _), hfetched, hkept⟩
    rw [listed_eq] at hmiss hnext
    rw [List.length_append, List.length_singleton]
    refine .inr ⟨?_, fun k hk => ?_⟩
    · rw [CursorScan.cursorAt_add, ← hcursor]
      refine (congrArg cursorOf hnext).trans (cursorOf_next (fun n hn => ?_) _)
      exact name_of_mem_candidates (CursorScan.mem_of_mem_window hn)
    · rcases Nat.lt_succ_iff_lt_or_eq.mp hk with hk | rfl
      · exact hnone k hk
      · rw [← hcursor]
        exact hmiss

/-- When none of their operations fails and the others have their own cursors and tables,
    the successive calls for a need that one of `n` candidates meets keep one that does
    after at most `2 * (n / limit + 1)` calls, from every stored cursor. -/
theorem fallback_covers_candidates {name : String} (hneed : FallsBack o f p need sch pid)
    (hname : name ∈ o.candidates p.database need.table pid need.rowCount)
    (hmatch : Matches o p need name) {rs : List (Result × Option (List PartScanResult))}
    (h : Fetches o f calm p need sch (fallbackKey need pid) w rs w')
    (hlength : rs.length = 2 * ((o.candidates p.database need.table pid need.rowCount).length /
      p.fallbackLimit + 1)) : ∃ r ∈ rs, r.1.outcome = .fetched ∧ Kept need r.2 := by
  rcases h.windows hneed with hkept | ⟨-, hnone⟩
  · exact hkept
  · obtain ⟨k, hk, hmem⟩ := CursorScan.exists_mem_window (candidates_sorted ..) hneed.limit
      (cursorOf (w.after.getD (fallbackKey need pid) "")) hname
    exact absurd hmatch (hnone k (hlength ▸ hk) name hmem)

end Runs

/-! ## Two candidates -/

/-- Two parts of one row, of which `b` is the needed one. -/
def twoParts : Owner where
  parts := [⟨"hg_safe", "t", "all", "a", 1, "f1", "0xaa"⟩, ⟨"hg_safe", "t", "all", "b", 1, "f2", "0xbb"⟩]
  name_ne_empty := by decide
  names_nodup := by decide

def needB : Need := ⟨"d.t", "t", "all", "p", "", "0xbb", 1⟩

def ownerPull : RemotePull := ⟨"owner_pull", "si_owner", "hg_safe", 0⟩

def stage : Scratch := ⟨"hg_rstage", "s"⟩

/-- No cursor is stored, and the scratch is there. -/
def staged : PullWorld := ⟨.empty, GoMap.empty.insert stage []⟩

theorem staged_fresh : Fresh stage staged where
  named := by decide
  empty := rfl
  candidates := by
    intro k
    refine GoMap.lookup_insert_of_ne (fun h => ?_) ..
    exact theCandidate_ne stage k (Subtype.ext h)

theorem needB_fallsBack : FallsBack twoParts some ownerPull needB ⟨"d.t", ""⟩ "all" where
  collection := by decide
  named := by decide
  limit := by decide
  rows := by decide
  hash := by decide
  resolve := .inl rfl
  partition := ⟨"tuple()", rfl, rfl⟩

/-- With two candidates and the default window two calls are enough. -/
theorem fallback_covers_twoParts :
    ∃ rs w', Fetches twoParts some calm ownerPull needB ⟨"d.t", ""⟩ (fallbackKey needB "all") staged rs w' ∧
      ∃ r ∈ rs, r.1.outcome = .fetched ∧ Kept needB r.2 := by
  let answers : List PullAnswer := List.replicate 14 {}
  have hcall : ∀ {rs}, Fetches twoParts some calm ownerPull needB ⟨"d.t", ""⟩ (fallbackKey needB "all")
      staged rs staged → Fetches twoParts some calm ownerPull needB ⟨"d.t", ""⟩
        (fallbackKey needB "all") staged (rs ++ [_]) _ :=
    fun h => .call h staged_fresh (Runs.refl.replay (l := answers) rfl)
  have hruns := hcall (.others (hcall .start) rfl)
  exact ⟨_, _, hruns, fallback_covers_candidates needB_fallsBack
    (by decide : "b" ∈ twoParts.candidates "hg_safe" "t" "all" 1) ⟨_, rfl, rfl, rfl⟩ hruns rfl⟩

/-- Only pulls of the part fail. -/
def pullsFail (part : String) : (δ : Type) → PullOp δ → Bool
  | _, .pull _ _ _ part' => part' = part
  | _, _ => false

/-- When the pull of `a` fails, no number of calls reaches `b`. -/
theorem failing_pull_blocks_fallback :
    FallsBack twoParts some ownerPull needB ⟨"d.t", ""⟩ "all" ∧
      "b" ∈ twoParts.candidates "hg_safe" "t" "all" 1 ∧ Matches twoParts ownerPull needB "b" ∧
      ∀ n, ∃ rs, Fetches twoParts some (pullsFail "a") ownerPull needB ⟨"d.t", ""⟩
          (fallbackKey needB "all") staged rs staged ∧
        rs.length = n ∧ ∀ r ∈ rs, r.1.outcome = .refused := by
  refine ⟨needB_fallsBack, by decide, ⟨_, rfl, rfl, rfl⟩, fun n => ?_⟩
  -- cursor, listing, table, pull, drop
  let answers : List PullAnswer :=
    [{}, {}, {}, { err := some { code := some 241, text := "memory limit exceeded" }, effect := false }, {}]
  induction n with
  | zero => exact ⟨[], .start, rfl, fun _ h => absurd h List.not_mem_nil⟩
  | succ n ih =>
    obtain ⟨rs, hruns, hlength, hrefused⟩ := ih
    refine ⟨_, .call hruns staged_fresh (Runs.refl.replay (l := answers) rfl), ?_, ?_⟩
    · rw [List.length_append, hlength, List.length_singleton]
    intro r hr
    rcases List.mem_append.mp hr with hr | hr
    · exact hrefused r hr
    · cases List.mem_singleton.mp hr
      rfl

end ArbiterCore.Sources
