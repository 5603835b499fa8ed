-- SUMMARY: A block leaves the ledger only by a Resolve that read its verdict after the last observation.
import ArbiterCore.Consensus.Quiescence

/-!
# Exactness of the quiescence ledger

The history of a run says which tables are due, and which removals are justified.
A Resolve works on a copy: what it knows of a block holds as long as the token of
the block is the one in the copy.
-/

namespace ArbiterCore.Quiescence

open Conc Durable

/-! ## Histories -/

/-- A successful Observe of the block named the table, and the block was not
    removed since. -/
def Due (blockSeq : Nat) (table : QuiescentTable) : List Event → Prop
  | [] => False
  | .observed seq tables :: h => (seq = blockSeq ∧ table ∈ tables) ∨ Due blockSeq table h
  | .removed _ seq :: h => seq ≠ blockSeq ∧ Due blockSeq table h
  | _ :: h => Due blockSeq table h

/-- The running Resolve `me` has read that the block needs no evidence, and the
    block was not observed since, in this process. -/
def ReadSince (me blockSeq : Nat) : List Event → Prop
  | [] => False
  | .read call seq needless :: h =>
    (call = me ∧ seq = blockSeq ∧ needless = true) ∨ ReadSince me blockSeq h
  | .observed seq _ :: h => seq ≠ blockSeq ∧ ReadSince me blockSeq h
  | .copied call :: h => call ≠ me ∧ ReadSince me blockSeq h
  | .restarted :: _ => False
  | _ :: h => ReadSince me blockSeq h

/-- Every removal was by a Resolve that had read the verdict since. -/
def Justified : List Event → Prop
  | [] => True
  | .removed call blockSeq :: h => ReadSince call blockSeq h ∧ Justified h
  | _ :: h => Justified h

/-- The running Resolve has updated the ledger in memory. -/
def SettledSince (me : Nat) : List Event → Prop
  | [] => False
  | .settled call :: h => call = me ∨ SettledSince me h
  | .copied call :: h => call ≠ me ∧ SettledSince me h
  | .restarted :: _ => False
  | _ :: h => SettledSince me h

/-- A read of the running Resolve has failed. -/
def ReadFailedSince (me : Nat) : List Event → Prop
  | [] => False
  | .readFailed call :: h => call = me ∨ ReadFailedSince me h
  | .copied call :: h => call ≠ me ∧ ReadFailedSince me h
  | .restarted :: _ => False
  | _ :: h => ReadFailedSince me h

/-- Every Observe was given valid tables. -/
def ValidSoFar (h : List Event) : Prop :=
  ∀ blockSeq tables, .attempted blockSeq tables ∈ h → ∀ t ∈ tables, ValidTable t

theorem ValidSoFar.tail {e : Event} {h : List Event} (hv : ValidSoFar (e :: h)) : ValidSoFar h :=
  fun seq tables hmem => hv seq tables (List.mem_cons_of_mem _ hmem)

section Removals

variable {me call blockSeq : Nat} {table : QuiescentTable} {seqs : List Nat} {h : List Event}

@[simp] theorem due_removals :
    Due blockSeq table (seqs.map (.removed call) ++ h) ↔ blockSeq ∉ seqs ∧ Due blockSeq table h := by
  induction seqs with
  | nil => simp
  | cons seq seqs ih =>
    simp only [List.map_cons, List.cons_append, Due, ih, List.mem_cons, not_or]
    tauto

@[simp] theorem readSince_removals :
    ReadSince me blockSeq (seqs.map (.removed call) ++ h) ↔ ReadSince me blockSeq h := by
  induction seqs with
  | nil => simp
  | cons seq seqs ih => exact ih

@[simp] theorem since_removals :
    (SettledSince me (seqs.map (.removed call) ++ h) ↔ SettledSince me h) ∧
      (ReadFailedSince me (seqs.map (.removed call) ++ h) ↔ ReadFailedSince me h) := by
  induction seqs with
  | nil => simp
  | cons seq seqs ih => exact ih

theorem justified_removals (hread : ∀ seq ∈ seqs, ReadSince call seq h) (hj : Justified h) :
    Justified (seqs.map (.removed call) ++ h) := by
  induction seqs with
  | nil => exact hj
  | cons seq seqs ih =>
    refine ⟨readSince_removals.mpr (hread seq List.mem_cons_self), ?_⟩
    exact ih fun s hs => hread s (List.mem_cons_of_mem _ hs)

end Removals

/-! ## Ledgers -/

section Ledger

variable {q : Ledger} {resolved : List Nat} {observed : List (Nat × Option Nat)} {blockSeq : Nat}
  {t : QuiescentTable}

/-- A block of the ledger. -/
def Ledger.Has (q : Ledger) (blockSeq : Nat) : Prop := ∃ b ∈ q.blocks, b.blockSeq = blockSeq

theorem Ledger.gone_iff : q.gone resolved observed blockSeq = true ↔
    blockSeq ∈ resolved ∧ tokenOf observed blockSeq = q.observations.lookup blockSeq := by
  simp [Ledger.gone]

theorem Ledger.mem_removed : blockSeq ∈ q.removed resolved observed ↔
    q.Has blockSeq ∧ q.gone resolved observed blockSeq = true := by
  simp only [Ledger.removed, Ledger.Has, List.mem_map, List.mem_filter]
  constructor
  · rintro ⟨b, ⟨hb, hgone⟩, rfl⟩
    exact ⟨⟨b, hb, rfl⟩, hgone⟩
  · rintro ⟨⟨b, hb, rfl⟩, hgone⟩
    exact ⟨b, ⟨hb, hgone⟩, rfl⟩

theorem Ledger.lists_left (h : Lists q.blocks blockSeq t)
    (hstays : blockSeq ∉ q.removed resolved observed) :
    Lists (q.left resolved observed) blockSeq t := by
  obtain ⟨b, hb, rfl, ht⟩ := h
  refine ⟨b, List.mem_filter.mpr ⟨hb, ?_⟩, rfl, ht⟩
  have hnot : ¬ q.gone resolved observed b.blockSeq = true :=
    fun hgone => hstays (Ledger.mem_removed.mpr ⟨⟨b, hb, rfl⟩, hgone⟩)
  simpa using hnot

/-- A token of the copy is that of the ledger. -/
theorem Ledger.tokenOf_copy {token : Nat} (h : tokenOf q.copy blockSeq = some token) :
    q.observations.lookup blockSeq = some token := by
  have hlook : q.copy.lookup blockSeq = some (some token) := Option.join_eq_some_iff.mp h
  unfold Ledger.copy at hlook
  generalize q.blocks = blocks at hlook
  induction blocks with
  | nil => simp at hlook
  | cons b rest ih =>
    rw [List.map_cons, List.lookup_cons] at hlook
    split at hlook
    · next heq =>
      rw [beq_iff_eq.mp heq]
      exact Option.some.inj hlook
    · exact ih hlook

/-- A block that an update leaves keeps its token. -/
theorem Ledger.updated_left (h : (q.updated resolved observed).Has blockSeq) :
    q.Has blockSeq ∧
      (q.updated resolved observed).observations.lookup blockSeq = q.observations.lookup blockSeq := by
  obtain ⟨b, hb, rfl⟩ := h
  obtain ⟨hmem, hstays⟩ := List.mem_filter.mp hb
  have hkeep : ¬ (b.blockSeq ∈ resolved ∧
      tokenOf observed b.blockSeq = q.observations.lookup b.blockSeq) := by
    rw [← Ledger.gone_iff]
    simpa using hstays
  refine ⟨⟨b, hmem, rfl⟩, ?_⟩
  simp only [Ledger.updated, lookup_forgetTokens, if_neg hkeep]

/-- An update adds no token. -/
theorem Ledger.updated_tokens {token : Nat}
    (h : (q.updated resolved observed).observations.lookup blockSeq = some token) :
    q.observations.lookup blockSeq = some token := by
  simp only [Ledger.updated, lookup_forgetTokens] at h
  split at h
  · cases h
  · exact h

end Ledger

/-! ## Steps -/

/-- An observation that adds nothing to the ledger in memory finds its tables in
    the file. -/
def onFile (w : LedgerWorld) (q : Ledger) (blockSeq : Nat) (tables : List QuiescentTable) : Bool :=
  q.adds blockSeq tables || tables.all fun t => Lists (blocksOf w.file) blockSeq t

/-- The events of the Resolve `me` that change nothing. -/
inductive Notes (me : Nat) : Event → Prop where
  | copied : Notes me (.copied me)
  | read (blockSeq : Nat) (needless : Bool) : Notes me (.read me blockSeq needless)
  | readFailed : Notes me (.readFailed me)

/-- What one operation does; `call` is the Resolve that acts, if one does. -/
inductive LedgerStep (call : Option Nat) (w : LedgerWorld) : LedgerWorld → Prop where
  | idle : LedgerStep call w w
  | notes {me : Nat} {e : Event} (hcall : call = some me) (he : Notes me e) :
      LedgerStep call w (w.record e)
  | observe {q : Ledger} {blockSeq : Nat} {tables : List QuiescentTable} (o : Outcome)
      (hq : w.process = some q) (hseq : blockSeq ≠ 0) (hne : tables ≠ [])
      (hfile : onFile w q blockSeq tables = true) :
      LedgerStep call w (w.observe q blockSeq tables o).2
  | update {me : Nat} {q : Ledger} {resolved : List Nat} {observed : List (Nat × Option Nat)}
      (o : Outcome) (hcall : call = some me) (hq : w.process = some q)
      (hread : ∀ blockSeq ∈ q.removed resolved observed, ReadSince me blockSeq w.history) :
      LedgerStep call w (w.update q me resolved observed o).2

/-- The four ends of an observation. -/
theorem LedgerWorld.observe_cases (w : LedgerWorld) (q : Ledger) (blockSeq : Nat)
    (tables : List QuiescentTable) (o : Outcome) :
    let w₁ := w.record (.attempted blockSeq tables)
    let done := { w₁ with
      process := some (q.observed blockSeq tables w.nextToken)
      nextToken := w.nextToken + 1
      history := .observed blockSeq tables :: w₁.history }
    let next := some (fileOf (addTables blockSeq tables q.blocks))
    (∃ e, w.observe q blockSeq tables o = (.error e, w₁)) ∨
    (∃ e, w.observe q blockSeq tables o = (.error e, { w₁ with file := next })) ∨
    w.observe q blockSeq tables o = (.ok (), { done with file := next }) ∨
    (q.adds blockSeq tables = false ∧ w.observe q blockSeq tables o = (.ok (), done)) := by
  intro w₁ done next
  unfold LedgerWorld.observe
  dsimp only
  split
  · cases o with
    | done => exact .inr (.inr (.inl rfl))
    | failedBefore e => exact .inl ⟨e, rfl⟩
    | failedAfter e => exact .inr (.inl ⟨e, rfl⟩)
  · next hadds => exact .inr (.inr (.inr ⟨by simpa using hadds, rfl⟩))

variable {w w' : LedgerWorld} {tables : List QuiescentTable}

theorem sem_observe {blockSeq : Nat} {r : Except String Unit}
    (h : (ledgerMachine onFile).sem (.observe blockSeq tables) w r w') :
    ∃ q o, w.process = some q ∧ onFile w q blockSeq tables = true ∧
      w.observe q blockSeq tables o = (r, w') := by
  obtain ⟨a, ha⟩ := h
  cases a with
  | write o =>
    simp only [ledgerMachine, LedgerOp.run] at ha
    split at ha
    · next q hq =>
      obtain ⟨hfile, heq⟩ := Option.ite_none_right_eq_some.mp ha
      exact ⟨q, o, hq, hfile, Option.some.inj heq⟩
    · cases ha
  | _ => cases ha

variable {me : Nat}

theorem sem_update {resolved : List Nat} {observed : List (Nat × Option Nat)}
    {r : Except String Unit}
    (h : (ledgerMachine onFile).sem (.update me resolved observed) w r w') :
    ∃ q o, w.process = some q ∧ w.update q me resolved observed o = (r, w') := by
  obtain ⟨a, ha⟩ := h
  cases a with
  | write o =>
    simp only [ledgerMachine, LedgerOp.run] at ha
    split at ha
    · next q hq => exact ⟨q, o, hq, Option.some.inj ha⟩
    · cases ha
  | _ => cases ha

/-! ## What a Resolve knows -/

/-- If the block is in the ledger and has the token of the copy, the Resolve has
    read its verdict since it was last observed. -/
def Knows (me blockSeq : Nat) (token : Option Nat) (w : LedgerWorld) : Prop :=
  ∀ q, w.process = some q → q.Has blockSeq → q.observations.lookup blockSeq = token →
    ReadSince me blockSeq w.history

/-- The tokens of the process have been given out. -/
def TokensGiven (w : LedgerWorld) : Prop :=
  ∀ q, w.process = some q → ∀ blockSeq token,
    q.observations.lookup blockSeq = some token → token < w.nextToken

/-- What the others leave to the Resolve `me`. -/
structure LedgerRely (me : Nat) (w w' : LedgerWorld) : Prop where
  token : w.nextToken ≤ w'.nextToken
  given : TokensGiven w → TokensGiven w'
  knows : ∀ blockSeq token, (∀ t ∈ token, t < w.nextToken) →
    Knows me blockSeq token w → Knows me blockSeq token w'
  settled : SettledSince me w'.history ↔ SettledSince me w.history
  failed : ReadFailedSince me w'.history ↔ ReadFailedSince me w.history

theorem LedgerRely.refl (me : Nat) (w : LedgerWorld) : LedgerRely me w w :=
  ⟨Nat.le_refl _, fun h => h, fun _ _ _ h => h, Iff.rfl, Iff.rfl⟩

theorem LedgerRely.trans {w'' : LedgerWorld} (h : LedgerRely me w w') (h' : LedgerRely me w' w'') :
    LedgerRely me w w'' where
  token := h.token.trans h'.token
  given hg := h'.given (h.given hg)
  knows seq token ht hk :=
    h'.knows seq token (fun t hmem => (ht t hmem).trans_le h.token) (h.knows seq token ht hk)
  settled := h'.settled.trans h.settled
  failed := h'.failed.trans h.failed

theorem TokensGiven.observed {q : Ledger} {blockSeq : Nat} (h : TokensGiven w)
    (hq : w.process = some q) (hp : w'.process = some (q.observed blockSeq tables w.nextToken))
    (hn : w'.nextToken = w.nextToken + 1) : TokensGiven w' := by
  intro q' hq' seq token hlook
  cases hp.symm.trans hq'
  simp only [Ledger.observed, GoMap.lookup_insert] at hlook
  split at hlook
  · cases hlook
    omega
  · have := h q hq seq token hlook
    omega

/-- A fresh observation leaves nothing to know of its block, and the rest as it was. -/
theorem Knows.observed {seq blockSeq : Nat} {token : Option Nat} {q : Ledger}
    (h : Knows me seq token w) (hq : w.process = some q) (ht : ∀ t ∈ token, t < w.nextToken)
    (hp : w'.process = some (q.observed blockSeq tables w.nextToken))
    (hh : w'.history = .observed blockSeq tables :: .attempted blockSeq tables :: w.history) :
    Knows me seq token w' := by
  intro q' hq' hhas hlook
  cases hp.symm.trans hq'
  simp only [Ledger.observed, GoMap.lookup_insert] at hlook
  split at hlook
  · -- the token is new
    exact absurd (ht w.nextToken hlook.symm) (Nat.lt_irrefl _)
  next hne =>
  simp only [hh, ReadSince]
  refine ⟨Ne.symm hne, h q hq ?_ hlook⟩
  obtain ⟨b, hb, rfl⟩ := hhas
  exact ⟨b, (mem_addTables hb).resolve_right hne, rfl⟩

/-- The steps of the others keep what a Resolve knows. -/
theorem LedgerStep.rely {call : Option Nat} (hs : LedgerStep call w w') (hcall : call ≠ some me) :
    LedgerRely me w w' := by
  cases hs with
  | idle => exact .refl me w
  | notes hother he =>
    subst hother
    have hcall : _ ≠ me := fun h => hcall (h ▸ rfl)
    cases he <;>
      exact ⟨Nat.le_refl _, fun h => h,
        fun _ _ _ h q hq hh hl => by simpa [LedgerWorld.record, ReadSince, hcall] using h q hq hh hl,
        by simp [LedgerWorld.record, SettledSince, hcall],
        by simp [LedgerWorld.record, ReadFailedSince, hcall]⟩
  | @observe q blockSeq tables o hq hseq hne hfile =>
    rcases w.observe_cases q blockSeq tables o with ⟨e, heq⟩ | ⟨e, heq⟩ | heq | ⟨-, heq⟩ <;> rw [heq]
    iterate 2
      exact ⟨Nat.le_refl _, fun h => h, fun _ _ _ h => h, Iff.rfl, Iff.rfl⟩
    iterate 2
      exact ⟨Nat.le_succ _, fun h => h.observed hq rfl rfl,
        fun _ _ ht h => h.observed hq ht rfl rfl, Iff.rfl, Iff.rfl⟩
  | @update other q resolved observed o hother hq hread =>
    have hcall : other ≠ me := fun h => hcall (h ▸ hother)
    cases o with
    | done =>
      refine ⟨Nat.le_refl _, fun h q' hq' seq token hlook => ?_, fun seq token _ h q' hq' hhas hlook => ?_, ?_, ?_⟩
      · cases hq'
        exact h q hq seq token (Ledger.updated_tokens hlook)
      · cases hq'
        obtain ⟨hhas, heq⟩ := Ledger.updated_left hhas
        simpa [LedgerWorld.update, ReadSince] using h q hq hhas (heq ▸ hlook)
      · simp [LedgerWorld.update, SettledSince, hcall]
      · simp [LedgerWorld.update, ReadFailedSince]
    | failedBefore e => exact .refl me w
    | failedAfter e =>
      exact ⟨Nat.le_refl _, fun h => h, fun _ _ _ h q hq hh hl => by
        simpa [LedgerWorld.update] using h q hq hh hl, by simp [LedgerWorld.update],
        by simp [LedgerWorld.update]⟩

/-! ## The handlers -/

def resolveContract (me : Nat) : Contract LedgerWorld := ⟨LedgerRely me, LedgerStep (some me)⟩

/-- What a Resolve knows after it has read some verdicts. -/
structure Resolving (me : Nat) (pending : List (Nat × Option Nat)) (resolved : List Nat)
    (errs : List String) (w : LedgerWorld) : Prop where
  given : ∀ blockSeq token, tokenOf pending blockSeq = some token → token < w.nextToken
  knows : ∀ blockSeq ∈ resolved, Knows me blockSeq (tokenOf pending blockSeq) w
  settled : ¬ SettledSince me w.history
  failed : errs ≠ [] → ReadFailedSince me w.history

section Resolve

variable {me : Nat} {pending : List (Nat × Option Nat)} {resolved : List Nat} {errs : List String}
  {w w' : LedgerWorld}

theorem Resolving.rely (h : Resolving me pending resolved errs w) (hr : LedgerRely me w w') :
    Resolving me pending resolved errs w' where
  given seq token ht := (h.given seq token ht).trans_le hr.token
  knows seq hseq := hr.knows seq _ (h.given seq) (h.knows seq hseq)
  settled hs := h.settled (hr.settled.mp hs)
  failed he := hr.failed.mpr (h.failed he)

/-- A verdict that the Resolve reads adds its block to what it knows. -/
theorem Resolving.read (h : Resolving me pending resolved errs w) (blockSeq : Nat) (needless : Bool) :
    Resolving me pending (if needless then resolved ++ [blockSeq] else resolved) errs
      (w.record (.read me blockSeq needless)) where
  given := h.given
  knows seq hseq q hq hhas hlook := by
    by_cases hnew : seq = blockSeq ∧ needless = true
    · exact .inl ⟨rfl, hnew.1.symm, hnew.2⟩
    have hold : seq ∈ resolved := by
      cases needless with
      | false => exact hseq
      | true => simpa [show seq ≠ blockSeq from fun h => hnew ⟨h, rfl⟩] using hseq
    exact .inr (h.knows seq hold q hq hhas hlook)
  settled := h.settled
  failed := h.failed

theorem Resolving.readFailed (h : Resolving me pending resolved errs w) (err : String) :
    Resolving me pending resolved (errs ++ [err]) (w.record (.readFailed me)) :=
  { h with failed := fun _ => .inl rfl }

theorem readVerifications_safe {nodeID : String} (seqs : List Nat)
    (h : Resolving me pending resolved errs w) :
    wpE (ledgerMachine onFile) (resolveContract me)
      (readVerifications me nodeID seqs (resolved, errs))
      (fun acc w' => Resolving me pending acc.1 acc.2 w')
      (fun _ w' => ¬ SettledSince me w'.history) w := by
  induction seqs generalizing resolved errs w with
  | nil => exact wpE_pure.mpr h
  | cons blockSeq rest ih =>
    unfold readVerifications
    refine wpE_bind.mpr (wpE_call.mpr fun w₁ hr r w₂ ⟨a, ha⟩ => ?_)
    have h₁ := h.rely hr
    cases a with
    | ctx r' =>
      cases ha
      refine ⟨.idle, ?_⟩
      cases r with
      | error e => exact h₁.settled
      | ok _ =>
        refine wpE_bind.mpr (wpE_attempt.mpr (wpE_call.mpr fun w₃ hr₃ r₃ w₄ ⟨a, ha⟩ => ?_))
        have h₃ := h₁.rely hr₃
        cases a with
        | verification r' =>
          cases r' with
          | ok bv =>
            cases ha
            exact ⟨.notes rfl (.read ..), ih (h₃.read blockSeq (unneeded bv nodeID))⟩
          | error e =>
            cases ha
            exact ⟨.notes rfl .readFailed, ih (h₃.readFailed _)⟩
        | _ => cases ha
    | _ => cases ha

/-- The error of a Resolve that has changed the ledger is that of a read. -/
def Excused (me : Nat) (w : LedgerWorld) : Prop :=
  SettledSince me w.history → ReadFailedSince me w.history

theorem Excused.rely (h : Excused me w) (hr : LedgerRely me w w') : Excused me w' :=
  fun hs => hr.failed.mpr (h (hr.settled.mp hs))

/-- A Resolve removes blocks only that it knows to need no evidence. -/
theorem settle_safe (h : Resolving me pending resolved errs w) :
    wpE (ledgerMachine onFile) (resolveContract me) (settle me pending resolved errs)
      (fun errs' w' => errs' ≠ [] → Excused me w') (fun _ _ => False) w := by
  unfold settle
  split
  · exact wpE_pure.mpr fun he hs => absurd hs h.settled
  refine wpE_bind.mpr (wpE_attempt.mpr (wpE_call.mpr fun w₁ hr r w₂ hs => ?_))
  have h₁ := h.rely hr
  obtain ⟨q, o, hq, heq⟩ := sem_update hs
  have hread : ∀ blockSeq ∈ q.removed resolved pending, ReadSince me blockSeq w₁.history := by
    intro blockSeq hmem
    obtain ⟨hhas, hgone⟩ := Ledger.mem_removed.mp hmem
    obtain ⟨hres, htoken⟩ := Ledger.gone_iff.mp hgone
    exact h₁.knows blockSeq hres q hq hhas htoken.symm
  have hstep := LedgerStep.update o rfl hq hread
  cases o with
  | done =>
    cases heq
    refine ⟨hstep, wpE_pure.mpr fun he _ => ?_⟩
    simpa [LedgerWorld.update, ReadFailedSince] using h₁.failed he
  | failedBefore e =>
    cases heq
    exact ⟨hstep, wpE_pure.mpr fun _ hs => absurd hs h₁.settled⟩
  | failedAfter e =>
    cases heq
    refine ⟨hstep, wpE_pure.mpr fun _ hs => absurd ?_ h₁.settled⟩
    simpa [LedgerWorld.update] using hs

theorem resolve_safe {nodeID : String} (hgiven : TokensGiven w) :
    wpE (ledgerMachine onFile) (resolveContract me) (resolve me nodeID) (fun _ _ => True)
      (fun _ w' => Excused me w') w := by
  unfold resolve
  refine wpE_bind.mpr (wpE_ask.mpr fun w₁ hr pending w₂ ⟨a, ha⟩ => ?_)
  have hgiven₁ := hr.given hgiven
  cases a with
  | here =>
    simp only [ledgerMachine, LedgerOp.run] at ha
    split at ha
    · next q hq =>
      cases ha
      refine ⟨.notes rfl .copied, ?_⟩
      have h₂ : Resolving me q.copy [] [] (w₁.record (.copied me)) := {
        given := fun seq token htoken => hgiven₁ q hq seq token (Ledger.tokenOf_copy htoken)
        knows := nofun
        settled := by simp [LedgerWorld.record, SettledSince]
        failed := nofun }
      refine wpE_bind.mpr ((readVerifications_safe _ h₂).mono ?_ ?_)
      · intro acc w₃ h₃
        refine wpE_bind.mpr ((settle_safe h₃).mono (fun errs' w₄ h₄ => ?_) (fun _ _ h => h.elim))
        split
        · exact wpE_pure.mpr trivial
        · next hne => exact wpE_throw.mpr (h₄ hne)
      · exact fun _ _ h hs => absurd hs h
    · cases ha
  | _ => cases ha

end Resolve

theorem observe_safe {call : Option Nat} {R : LedgerWorld → LedgerWorld → Prop} {blockSeq : Nat} :
    wpE (ledgerMachine onFile) ⟨R, LedgerStep call⟩ (observe blockSeq tables) (fun _ _ => True)
      (fun _ _ => True) w := by
  unfold observe
  split
  · exact wpE_throw.mpr trivial
  next hseq =>
  split
  · exact wpE_pure.mpr trivial
  next hne =>
  refine wpE_call.mpr fun w₁ _ r w₂ hs => ?_
  obtain ⟨q, o, hq, hfile, heq⟩ := sem_observe hs
  have hstep : LedgerStep call _ _ := .observe o hq hseq hne hfile
  rw [heq] at hstep
  refine ⟨hstep, ?_⟩
  cases r <;> trivial

/-! ## The invariant -/

structure LedgerInv (w : LedgerWorld) : Prop where
  memory : ∀ blockSeq t, Due blockSeq t w.history →
    ∀ q, w.process = some q → Lists q.blocks blockSeq t
  file : ∀ blockSeq t, Due blockSeq t w.history → Lists (blocksOf w.file) blockSeq t
  justified : Justified w.history
  given : TokensGiven w
  memoryOk : ValidSoFar w.history → ∀ q, w.process = some q → BlocksOk q.blocks
  fileOk : ValidSoFar w.history → ∀ f, w.file = some f → ∃ blocks, f = fileOf blocks ∧ BlocksOk blocks

theorem ledgerInv_fresh (h : LedgerFresh w) : LedgerInv w := by
  cases h
  exact {
    memory := nofun
    file := nofun
    justified := trivial
    given := by
      rintro q ⟨rfl⟩ blockSeq token hlook
      simp at hlook
    memoryOk := by
      rintro - q ⟨rfl⟩
      exact ⟨.nil, nofun, nofun⟩
    fileOk := nofun }

/-- An event that is neither an observation nor a removal keeps the invariant. -/
theorem LedgerInv.notes {e : Event} (h : LedgerInv w) (he : Notes me e) :
    LedgerInv (w.record e) := by
  cases he <;> exact { h with memoryOk := fun hv => h.memoryOk hv.tail, fileOk := fun hv => h.fileOk hv.tail }

theorem LedgerInv.restart (h : LedgerInv w) : LedgerInv w.restart := by
  have hprocess : ∀ q, w.restart.process = some q →
      readQuiescence w.file = .ok q.blocks ∧ q.observations = .empty := by
    intro q hq
    simp only [LedgerWorld.restart] at hq
    split at hq
    · next blocks hread =>
      cases hq
      exact ⟨hread, rfl⟩
    · cases hq
  exact {
    memory := fun seq t hdue q hq => by
      rw [readQuiescence_ok (hprocess q hq).1]
      exact h.file seq t hdue
    file := h.file
    justified := h.justified
    given := fun q hq seq token hlook => by
      rw [(hprocess q hq).2] at hlook
      simp at hlook
    memoryOk := fun hv q hq => by
      obtain ⟨hread, -⟩ := hprocess q hq
      cases hfile : w.file with
      | none =>
        rw [hfile] at hread
        rw [← Except.ok.inj hread]
        exact ⟨.nil, nofun, nofun⟩
      | some f =>
        obtain ⟨blocks, rfl, hok⟩ := h.fileOk hv.tail f hfile
        rw [hfile, readQuiescence_fileOf hok] at hread
        exact Except.ok.inj hread ▸ hok
    fileOk := fun hv => h.fileOk hv.tail }

theorem LedgerInv.observe {q : Ledger} {blockSeq : Nat} (h : LedgerInv w) (o : Outcome)
    (hq : w.process = some q) (hseq : blockSeq ≠ 0) (hne : tables ≠ [])
    (hfile : onFile w q blockSeq tables = true) : LedgerInv (w.observe q blockSeq tables o).2 := by
  have hnext : ValidSoFar (.attempted blockSeq tables :: w.history) →
      BlocksOk (addTables blockSeq tables q.blocks) := fun hv =>
    blocksOk_addTables hseq hne (hv blockSeq tables List.mem_cons_self) (h.memoryOk hv.tail q hq)
  -- everything that is due is in the next blocks
  have hlist : ∀ seq t, (blockSeq = seq ∧ t ∈ tables) ∨ Due seq t w.history →
      Lists (addTables blockSeq tables q.blocks) seq t := fun seq t hdue =>
    lists_addTables.mpr (hdue.symm.imp_left fun hdue => h.memory seq t hdue q hq)
  rcases w.observe_cases q blockSeq tables o with ⟨e, heq⟩ | ⟨e, heq⟩ | heq | ⟨hadds, heq⟩ <;> rw [heq]
  · exact { h with memoryOk := fun hv => h.memoryOk hv.tail, fileOk := fun hv => h.fileOk hv.tail }
  · exact { h with
      file := fun seq t hdue => hlist seq t (.inr hdue)
      memoryOk := fun hv => h.memoryOk hv.tail
      fileOk := fun hv f hf => ⟨_, (Option.some.inj hf).symm, hnext hv⟩ }
  · exact { h with
      memory := by
        rintro seq t hdue q' ⟨rfl⟩
        exact hlist seq t hdue
      file := fun seq t hdue => hlist seq t hdue
      given := h.given.observed hq rfl rfl
      memoryOk := by
        rintro hv q' ⟨rfl⟩
        exact hnext hv.tail
      fileOk := fun hv f hf => ⟨_, (Option.some.inj hf).symm, hnext hv.tail⟩ }
  · have hlisted : ∀ t ∈ tables, Lists (blocksOf w.file) blockSeq t := by
      simpa [onFile, hadds] using hfile
    exact { h with
      memory := by
        rintro seq t hdue q' ⟨rfl⟩
        exact hlist seq t hdue
      file := fun seq t hdue => by
        rcases hdue with ⟨rfl, ht⟩ | hdue
        · exact hlisted t ht
        · exact h.file seq t hdue
      given := h.given.observed hq rfl rfl
      memoryOk := by
        rintro hv q' ⟨rfl⟩
        exact hnext hv.tail
      fileOk := fun hv => h.fileOk hv.tail.tail }

theorem LedgerInv.update {q : Ledger} {resolved : List Nat} {observed : List (Nat × Option Nat)}
    (h : LedgerInv w) (o : Outcome) (hq : w.process = some q)
    (hread : ∀ blockSeq ∈ q.removed resolved observed, ReadSince me blockSeq w.history) :
    LedgerInv (w.update q me resolved observed o).2 := by
  have hold : ∀ {hs}, ValidSoFar ((q.removed resolved observed).map (.removed me) ++ hs) →
      ValidSoFar hs := fun hv seq ts hmem => hv seq ts (List.mem_append_right _ hmem)
  have hlist : ∀ seq t, seq ∉ q.removed resolved observed ∧ Due seq t w.history →
      Lists (q.left resolved observed) seq t :=
    fun seq t hdue => Ledger.lists_left (h.memory seq t hdue.2 q hq) hdue.1
  have hok : ValidSoFar w.history → BlocksOk (q.left resolved observed) :=
    fun hv => (h.memoryOk hv q hq).filter _
  cases o with
  | failedBefore e => exact h
  | failedAfter e =>
    exact { h with
      memory := fun seq t hdue => h.memory seq t (due_removals.mp hdue).2
      file := fun seq t hdue => hlist seq t (due_removals.mp hdue)
      justified := justified_removals hread h.justified
      memoryOk := fun hv => h.memoryOk (hold hv)
      fileOk := fun hv f hf => ⟨_, (Option.some.inj hf).symm, hok (hold hv)⟩ }
  | done =>
    exact {
      memory := fun seq t hdue q' hq' => by
        cases hq'
        exact hlist seq t (due_removals.mp hdue)
      file := fun seq t hdue => hlist seq t (due_removals.mp hdue)
      justified := justified_removals hread h.justified
      given := by
        rintro q' ⟨rfl⟩ seq token hlook
        exact h.given q hq seq token (Ledger.updated_tokens hlook)
      memoryOk := fun hv q' hq' => by
        cases hq'
        exact hok (hold hv.tail)
      fileOk := fun hv f hf => ⟨_, (Option.some.inj hf).symm, hok (hold hv.tail)⟩ }

theorem LedgerStep.inv {call : Option Nat} (hs : LedgerStep call w w') (h : LedgerInv w) : LedgerInv w' := by
  cases hs with
  | idle => exact h
  | notes _ he => exact h.notes he
  | observe o hq hseq hne hfile => exact h.observe o hq hseq hne hfile
  | update o _ hq hread => exact h.update o hq hread

/-! ## Whole runs -/

def LedgerSlot.call : LedgerSlot → Option Nat
  | .observe _ => none
  | .resolve n => some n

def ledgerOutline (nodeID : String) : Outline (ledgerSystem nodeID onFile) where
  contract i := ⟨fun w w' => ∀ n ∈ i.call, LedgerRely n w w', LedgerStep i.call⟩
  post i r w := ∀ n ∈ i.call, ∀ e, r = .error e → Excused n w
  inv := LedgerInv
  rely_refl i w n _ := .refl n w
  rely_trans i w w' w'' h h' n hn := (h n hn).trans (h' n hn)
  post_stable i r w w' hr hpost n hn e he := (hpost n hn e he).rely (hr n hn)
  start_wp i w p hinv hp := by
    cases i with
    | observe n =>
      obtain ⟨blockSeq, tables, rfl⟩ := hp
      exact wp.mono observe_safe fun _ _ _ => nofun
    | resolve n =>
      cases hp
      have hsafe : wpE (ledgerMachine onFile) (resolveContract n) (resolve n nodeID) _ _ w :=
        resolve_safe hinv.given
      refine wp.mono (wp.weaken hsafe (fun w w' hr => hr n rfl) fun _ _ h => h) ?_
      intro r w' hpost m hm e he
      cases hm
      cases he
      exact hpost
  guar_rely i j hij w w' _ hg n hn := by
    apply LedgerStep.rely hg
    cases i with
    | observe _ => exact nofun
    | resolve m =>
      cases j with
      | observe _ => cases hn
      | resolve k =>
        cases hn
        rintro ⟨rfl⟩
        exact hij rfl
  env_rely _ _ _ _ henv := henv.elim
  guar_inv i w w' hinv hg := LedgerStep.inv hg hinv
  env_inv _ _ _ henv := henv.elim
  crash_inv w hinv := hinv.restart
  leave_rely i j _ w _ n _ := .refl n w
  leave_inv _ _ hinv := hinv

/-- An Observe that fails leaves the ledger in memory alone. -/
theorem process_of_observe_error {blockSeq : Nat} {e : String}
    (hs : (ledgerMachine onFile).sem (.observe blockSeq tables) w (.error e) w') :
    w'.process = w.process := by
  obtain ⟨q, o, -, -, heq⟩ := sem_observe hs
  rcases w.observe_cases q blockSeq tables o with ⟨e, hcase⟩ | ⟨e, hcase⟩ | hcase | ⟨-, hcase⟩ <;>
    cases hcase.symm.trans heq <;> rfl

/-- If every observation that adds nothing finds its tables in the file, then in
    every run what was observed stays in memory and in the file until it is removed,
    every removal is by a Resolve that read the verdict since the last observation,
    a call that fails leaves the memory alone (a Resolve that could not read some
    verdict apart, which removes what it resolved), and the files read back. -/
theorem quiescence_exact (nodeID : String)
    {c : Config LedgerOp LedgerWorld LedgerSlot (Except String Unit)}
    (hc : Reach (ledgerSystem nodeID onFile) LedgerFresh c) :
    (∀ blockSeq t, Due blockSeq t c.world.history →
      (∀ q, c.world.process = some q → Lists q.blocks blockSeq t) ∧
        Lists (blocksOf c.world.file) blockSeq t) ∧
    Justified c.world.history ∧
    (∀ blockSeq tables e w w', (ledgerMachine onFile).sem (.observe blockSeq tables) w (.error e) w' →
      w'.process = w.process) ∧
    (∀ me resolved observed e w w',
      (ledgerMachine onFile).sem (.update me resolved observed) w (.error e) w' →
        w'.process = w.process) ∧
    (∀ n e, c.thread (.resolve n) = some (.ret (.error e)) →
      SettledSince n c.world.history → ReadFailedSince n c.world.history) ∧
    (ValidSoFar c.world.history → ∀ f, c.world.file = some f →
      ∃ blocks, f = fileOf blocks ∧ BlocksOk blocks ∧ readQuiescence (some f) = .ok blocks) := by
  have ho := hc.outlined (ledgerOutline nodeID) fun _ => ledgerInv_fresh
  refine ⟨fun blockSeq t hdue => ⟨ho.inv.memory blockSeq t hdue, ho.inv.file blockSeq t hdue⟩,
    ho.inv.justified, fun _ _ _ _ _ => process_of_observe_error,
    fun _ _ _ _ _ _ hs => ?_, fun n e hret => ?_, fun hv f hf => ?_⟩
  · obtain ⟨q, o, -, heq⟩ := sem_update hs
    cases o <;> cases heq <;> rfl
  · exact ho.meets (.resolve n) _ hret n rfl e rfl
  · obtain ⟨blocks, rfl, hok⟩ := ho.inv.fileOk hv f hf
    exact ⟨blocks, rfl, hok, readQuiescence_fileOf hok⟩

/-! ### A run -/

namespace OneBlock

def table : QuiescentTable := ⟨"db.t", 1⟩

def fresh : LedgerWorld := ⟨none, some ⟨[], .empty⟩, 0, []⟩

/-- Block 7 was observed. -/
def observed : LedgerWorld :=
  ⟨some (fileOf [⟨7, [table]⟩]), some ⟨[⟨7, [table]⟩], GoMap.empty.insert 7 0⟩, 1,
    [.observed 7 [table], .attempted 7 [table]]⟩

/-- A Resolve that found the verdict evaluated failed after it had renamed the file. -/
def unsynced : LedgerWorld :=
  { observed with
    file := some (fileOf [])
    history := .removed 0 7 :: .read 0 7 true :: .copied 0 :: observed.history }

/-- A Resolve that did not fail, and the next observation of the block. -/
def settled : LedgerWorld :=
  { unsynced with process := some ⟨[], .empty⟩, history := .settled 0 :: unsynced.history }

def reobserved : LedgerWorld :=
  { observed with
    process := some ⟨[⟨7, [table]⟩], GoMap.empty.insert 7 1⟩
    nextToken := 2
    history := .observed 7 [table] :: .attempted 7 [table] :: settled.history }

/-- The block was observed again after the Resolve that failed. -/
def again : LedgerWorld :=
  { unsynced with
    process := some ⟨[⟨7, [table]⟩], (GoMap.empty.insert 7 0).insert 7 1⟩
    nextToken := 2
    history := .observed 7 [table] :: .attempted 7 [table] :: unsynced.history }

/-- An Observe of the block, a Resolve that reads its verdict, and a second Observe. -/
theorem reach_reobserved (may : LedgerWorld → Ledger → Nat → List QuiescentTable → Bool) {o : Outcome}
    {res : Except String Unit} (w₁ w₂ w₃ : LedgerWorld)
    (h₁ : (ledgerMachine may).replay (observe 7 [table]).run [.write .done] fresh =
      some (.ret (.ok ()), w₁))
    (h₂ : (ledgerMachine may).replay (resolve 0 "m").run
      [.here, .ctx (.ok ()), .verification (.ok ⟨true, []⟩), .write o] w₁ = some (.ret res, w₂))
    (h₃ : (ledgerMachine may).replay (observe 7 [table]).run [.write .done] w₂ =
      some (.ret (.ok ()), w₃)) :
    Reach (ledgerSystem "m" may) LedgerFresh (.idle w₃) := by
  have hinit : Reach (ledgerSystem "m" may) LedgerFresh (.idle fresh) := .init fresh rfl
  have hobserved := hinit.runs (i := LedgerSlot.observe 0) ⟨7, [table], rfl⟩ h₁
  have hresolved := hobserved.runs (i := LedgerSlot.resolve 0) rfl h₂
  exact hresolved.runs (i := LedgerSlot.observe 0) ⟨7, [table], rfl⟩ h₃

end OneBlock

open OneBlock in
/-- After the observation that follows a Resolve the table is in the file again. -/
theorem quiescence_exact_oneBlock : Reach (ledgerSystem "m" onFile) LedgerFresh (.idle reobserved) ∧
    ¬ Lists (blocksOf settled.file) 7 table ∧ Lists (blocksOf reobserved.file) 7 table := by
  have hrun := reach_reobserved onFile (o := .done) observed settled reobserved rfl rfl rfl
  exact ⟨hrun, by decide, ((quiescence_exact "m" hrun).1 7 table (.inl ⟨rfl, by simp⟩)).2⟩

open OneBlock in
/-- An observation that adds nothing leaves the table out of the file, from which a
    Resolve that failed had removed it. -/
theorem observe_leaves_file_without_block :
    Reach (ledgerSystem "m" fun _ _ _ _ => true) LedgerFresh (.idle again) ∧
      Due 7 table again.history ∧ ¬ Lists (blocksOf again.file) 7 table := by
  refine ⟨?_, .inl ⟨rfl, by simp⟩, by decide⟩
  exact reach_reobserved _ (o := .failedAfter "sync") observed unsynced again rfl rfl rfl

end ArbiterCore.Quiescence
