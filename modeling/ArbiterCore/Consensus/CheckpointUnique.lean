-- SUMMARY: No checkpoint_seq is signed twice under one key, if a key that returns finds its sequences published.
import ArbiterCore.Base.Durable
import ArbiterCore.Consensus.Checkpoint

/-!
# Uniqueness of checkpoint sequences

The member runs one checkpoint step at a time. What the registry and the installer
answer is arbitrary here. A restart reads the journal again and may configure
another signer. The journal covers the sequences that were signed under the signer
it names; of another signer, only the registry may remember a sequence.
-/

namespace ArbiterCore.Checkpoint

open Conc Registry Install Durable

/-! ## The world -/

/-- A checkpoint with the address that signed it. -/
structure Signed where
  signer : String
  checkpoint : MemberCheckpoint

/-- `configured` is the signer of the next start. The memory of the journal is `none`
    when its file was refused. No code reads the history of signatures. -/
structure SeqWorld where
  journal : Durable.Store (Option (List CheckpointSeqEntry)) (Option CheckpointSeqs)
  signer : String
  configured : String
  accepted : GoMap Nat MemberCheckpoint
  signed : List Signed

inductive SeqAnswer where
  | view (snap : Option Snapshot)
  | flag (b : Bool)
  | copies (cs : List Copy)
  | stats (s : Stats)
  | entry (j : Option OwnerJournal)
  | tables (ts : List TableState)
  | result (r : Except String Unit)
  | write (o : Outcome)
  | submitted (s : Submitted)
  | here

namespace SeqWorld

/-- `Next` in the journal `seqs`. -/
def next (w : SeqWorld) (seqs : CheckpointSeqs) (owner : Nat) (replicaSigner : String)
    (published : Nat) (o : Outcome) : Except String Nat × SeqWorld :=
  let last := lastSeq seqs owner replicaSigner published
  if last = 2 ^ 64 - 1 then
    (.error s!"member consensus: owner {owner}: checkpoint_seq is exhausted", w)
  else
    let entry : CheckpointSeqEntry := ⟨owner, replicaSigner, last + 1⟩
    let r := w.journal.write (·.map documentOf) (some (seqs.insert owner entry)) o
    (r.1.map fun _ => last + 1, { w with journal := r.2 })

/-- A crash, and the start with the configured signer. -/
def restart (w : SeqWorld) : SeqWorld :=
  { w with
    journal := ⟨w.journal.file, (openCheckpointSeqStore w.journal.file).toOption⟩
    signer := w.configured
    accepted := .empty }

end SeqWorld

variable (may : SeqWorld → CheckpointSeqs → Nat → String → Nat → Bool)

/-- What one operation does; `may` restricts the uses of the journal in a run. -/
def CheckpointOp.run :
    {β : Type} → CheckpointOp β → SeqAnswer → SeqWorld → Option (β × SeqWorld)
  | _, .view, .view snap, w => some (snap, w)
  | _, .isRegistered, .flag b, w => some (b, w)
  | _, .checkpointSigner, .here, w => some (w.journal.memory.map fun _ => w.signer, w)
  | _, .readyCopies, .copies cs, w => some (cs, w)
  | _, .stats _, .stats s, w => some (s, w)
  | _, .ctxDone, .flag b, w => some (b, w)
  | _, .entry _, .entry j, w => some (j, w)
  | _, .tables _ _, .tables ts, w => some (ts, w)
  | _, .lastAccepted owner, .here, w => some (w.accepted.lookup owner, w)
  | _, .memberCheckpointHash _, .result r, w => some (r, w)
  | _, .next owner signer published, .write o, w =>
    match w.journal.memory with
    | some seqs =>
      if may w seqs owner signer published then some (w.next seqs owner signer published o) else none
    | none => none
  | _, .sign signer cp, .result (.ok _), w =>
    some (.ok (), { w with signed := ⟨signer, cp⟩ :: w.signed })
  | _, .sign _ _, .result (.error e), w => some (.error e, w)
  | _, .submit _, .submitted s, w => some (s, w)
  | _, .accept cp, .here, w =>
    some ((), { w with accepted := w.accepted.insert cp.ownerIndexerID cp })
  | _, _, _, _ => none

def seqMachine :
    Machine CheckpointOp SeqWorld := ⟨SeqAnswer, CheckpointOp.run may⟩

/-- One checkpoint step at a time; the configuration may change at any moment. -/
def seqSystem (cfg : ModeConfig) (may : SeqWorld → CheckpointSeqs → Nat → String → Nat → Bool) :
    System CheckpointOp SeqWorld Unit (Except String Unit) where
  machine := seqMachine may
  start _ _ p := p = (checkpointStep cfg).run
  env w w' := ∃ signer, w' = { w with configured := signer }
  crash w := w.restart

/-- A member without a journal. -/
def SeqFresh (w : SeqWorld) : Prop :=
  w.journal = ⟨none, some .empty⟩ ∧ w.accepted = .empty ∧ w.signed = []

variable (signed : List Signed)

/-- Under one key no checkpoint_seq of an owner has two contents. -/
def SignedOnce : Prop :=
  ∀ s ∈ signed, ∀ s' ∈ signed, s.signer = s'.signer →
    s.checkpoint.ownerIndexerID = s'.checkpoint.ownerIndexerID →
    s.checkpoint.checkpointSeq = s'.checkpoint.checkpointSeq → s.checkpoint = s'.checkpoint

/-- The entry of the owner names the signer, or the published value is not below any
    sequence that was signed for the owner under it. -/
def remembered (w : SeqWorld) (seqs : CheckpointSeqs) (owner : Nat) (signer : String)
    (published : Nat) : Bool :=
  (seqs.lookup owner).any (·.replicaSigner = signer) ||
    w.signed.all fun s => s.signer = signer ∧ s.checkpoint.ownerIndexerID = owner →
      s.checkpoint.checkpointSeq ≤ published

/-! ## The invariant -/

/-- No sequence above `seq` was signed for the owner under the signer. -/
def UpTo (owner : Nat) (signer : String) (seq : Nat) : Prop :=
  ∀ s ∈ signed, s.signer = signer → s.checkpoint.ownerIndexerID = owner →
    s.checkpoint.checkpointSeq ≤ seq

/-- Every entry is that of its key and bounds what was signed under its signer. -/
def Covers (seqs : CheckpointSeqs) : Prop :=
  ∀ owner e, seqs.lookup owner = some e →
    e.ownerIndexerID = owner ∧ UpTo signed owner e.replicaSigner e.checkpointSeq

def CoversFile (entries : List CheckpointSeqEntry) : Prop :=
  ∀ e ∈ entries, UpTo signed e.ownerIndexerID e.replicaSigner e.checkpointSeq

structure SeqInv (w : SeqWorld) : Prop where
  memory : ∀ seqs, w.journal.memory = some seqs → Covers w.signed seqs
  file : ∀ entries, w.journal.file = some entries → CoversFile w.signed entries
  once : SignedOnce w.signed

variable {seqs : CheckpointSeqs}

theorem mem_documentOf {e : CheckpointSeqEntry} (h : e ∈ documentOf seqs) :
    ∃ owner, seqs.lookup owner = some e := by
  have hmem : e ∈ seqs.toList.map (·.2) := by simpa [documentOf] using h
  obtain ⟨⟨owner, e'⟩, hin, rfl⟩ := List.mem_map.mp hmem
  exact ⟨owner, GoMap.mem_toList.mp hin⟩

theorem Covers.document {signed : List Signed} (h : Covers signed seqs) :
    CoversFile signed (documentOf seqs) := by
  intro e he
  obtain ⟨owner, hlook⟩ := mem_documentOf he
  obtain ⟨hkey, hup⟩ := h owner e hlook
  exact hkey ▸ hup

/-- What is read comes from the file. -/
theorem readEntries_ok {entries : List CheckpointSeqEntry} {seqs' : CheckpointSeqs}
    (h : readEntries entries seqs = .ok seqs') {owner : Nat} {e : CheckpointSeqEntry}
    (he : seqs'.lookup owner = some e) :
    seqs.lookup owner = some e ∨ (e ∈ entries ∧ e.ownerIndexerID = owner) := by
  induction entries generalizing seqs with
  | nil =>
    cases h
    exact .inl he
  | cons line rest ih =>
    unfold readEntries at h
    split at h
    · cases h
    rcases ih h with hold | ⟨hmem, hkey⟩
    · rw [GoMap.lookup_insert] at hold
      split at hold
      · next hkey =>
        cases hold
        exact .inr ⟨List.mem_cons_self, hkey.symm⟩
      · exact .inl hold
    · exact .inr ⟨List.mem_cons_of_mem _ hmem, hkey⟩

variable {w : SeqWorld}

theorem SeqInv.restart (h : SeqInv w) : SeqInv w.restart where
  memory seqs hseqs owner e he := by
    have hopen : openCheckpointSeqStore w.journal.file = .ok seqs := by
      cases hr : openCheckpointSeqStore w.journal.file with
      | error err => simp [SeqWorld.restart, hr, Except.toOption] at hseqs
      | ok seqs' => simpa [SeqWorld.restart, hr, Except.toOption] using hseqs
    cases hfile : w.journal.file with
    | none =>
      rw [hfile] at hopen
      cases hopen
      simp at he
    | some entries =>
      rw [hfile] at hopen
      rcases readEntries_ok hopen he with hempty | ⟨hmem, rfl⟩
      · simp at hempty
      · exact ⟨rfl, h.file entries hfile e hmem⟩
  file := h.file
  once := h.once

variable {signer : String}

theorem remembered_iff {owner published : Nat} :
    remembered w seqs owner signer published = true ↔
      (∃ e, seqs.lookup owner = some e ∧ e.replicaSigner = signer) ∨
        UpTo w.signed owner signer published := by
  simp only [remembered, UpTo, Bool.or_eq_true, Option.any_eq_true, List.all_eq_true,
    decide_eq_true_eq, and_imp]

/-- Under the condition the next sequence is above all that were signed. -/
theorem upTo_lastSeq {owner published : Nat} (h : Covers w.signed seqs)
    (hmay : remembered w seqs owner signer published = true) :
    UpTo w.signed owner signer (lastSeq seqs owner signer published) := by
  intro s hs hsigner howner
  rcases remembered_iff.mp hmay with ⟨e, he, rfl⟩ | hpub
  · -- the journal is under this key
    have hlast : lastSeq seqs owner e.replicaSigner published = max published e.checkpointSeq := by
      simp [lastSeq, he]
    rw [hlast]
    exact ((h owner e he).2 s hs hsigner howner).trans (Nat.le_max_right ..)
  · have hle : published ≤ lastSeq seqs owner signer published := by
      unfold lastSeq
      split
      · split
        · exact Nat.le_max_left ..
        · exact Nat.le_refl _
      · exact Nat.le_refl _
    exact (hpub s hs hsigner howner).trans hle

/-- The sequence was written for the owner, and is above all that were signed. -/
structure Reserved (owner : Nat) (signer : String) (seq : Nat) (w : SeqWorld) : Prop where
  inv : SeqInv w
  new : ∀ s ∈ w.signed, s.signer = signer → s.checkpoint.ownerIndexerID = owner →
    s.checkpoint.checkpointSeq < seq
  memory : ∀ seqs, w.journal.memory = some seqs → ∀ e, seqs.lookup owner = some e →
    e.replicaSigner = signer → seq ≤ e.checkpointSeq
  file : ∀ entries, w.journal.file = some entries → ∀ e ∈ entries, e.ownerIndexerID = owner →
    e.replicaSigner = signer → seq ≤ e.checkpointSeq

variable {cp : MemberCheckpoint}

/-- Signing under a reserved sequence keeps the invariant. -/
theorem Reserved.sign (h : Reserved cp.ownerIndexerID signer cp.checkpointSeq w) :
    SeqInv { w with signed := ⟨signer, cp⟩ :: w.signed } where
  memory seqs hseqs owner e he := by
    obtain ⟨hkey, hup⟩ := h.inv.memory seqs hseqs owner e he
    refine ⟨hkey, fun s hs hsigner howner => ?_⟩
    rcases List.mem_cons.mp hs with rfl | hs
    · cases howner
      exact h.memory seqs hseqs e he hsigner.symm
    · exact hup s hs hsigner howner
  file entries hfile e he s hs hsigner howner := by
    rcases List.mem_cons.mp hs with rfl | hs
    · exact h.file entries hfile e he howner.symm hsigner.symm
    · exact h.inv.file entries hfile e he s hs hsigner howner
  once s hs s' hs' hsigner howner hseq := by
    rcases List.mem_cons.mp hs with rfl | hs
    · rcases List.mem_cons.mp hs' with rfl | hs'
      · rfl
      · have := h.new s' hs' hsigner.symm howner.symm
        exact absurd hseq (Nat.ne_of_gt this)
    · rcases List.mem_cons.mp hs' with rfl | hs'
      · have := h.new s hs hsigner howner
        exact absurd hseq (Nat.ne_of_lt this)
      · exact h.inv.once s hs s' hs' hsigner howner hseq

/-! ## The step -/

/-- Others change the configured signer only. -/
def seqContract : Contract SeqWorld :=
  ⟨fun w w' => ∃ signer, w' = { w with configured := signer }, fun w w' => SeqInv w → SeqInv w'⟩

theorem seqContract_keeps : seqContract.Keeps SeqInv where
  rely := by
    rintro w _ ⟨signer, rfl⟩ h
    exact ⟨h.memory, h.file, h.once⟩
  guar _ _ hg h := hg h

/-- The operations that neither use a sequence nor sign. -/
def CheckpointOp.Free : {β : Type} → CheckpointOp β → Prop
  | _, .next .. | _, .sign .. => False
  | _, _ => True

theorem sem_free {β : Type} {op : CheckpointOp β} {w' : SeqWorld} {b : β} (hfree : op.Free)
    (h : (seqMachine remembered).sem op w b w') : w'.journal = w.journal ∧ w'.signed = w.signed := by
  obtain ⟨a, ha⟩ := h
  cases op with
  | next owner signer published => exact hfree.elim
  | sign signer cp => exact hfree.elim
  | _ =>
    cases a with
    | _ =>
      cases ha
      try exact ⟨rfl, rfl⟩

theorem SeqInv.of_eq {w' : SeqWorld} (h : SeqInv w)
    (heq : w'.journal = w.journal ∧ w'.signed = w.signed) : SeqInv w' where
  memory := by rw [heq.1, heq.2]; exact h.memory
  file := by rw [heq.1, heq.2]; exact h.file
  once := by rw [heq.2]; exact h.once

/-- A program that may fail keeps the invariant. -/
abbrev Safe {α : Type} (p : CheckpointM α) (Q : α → SeqWorld → Prop) (w : SeqWorld) : Prop :=
  wpI (seqMachine remembered) seqContract SeqInv p Q w

/-- An operation that is free may be followed by any program that is safe. -/
theorem ask_then {α β : Type} {op : CheckpointOp β} {f : β → CheckpointM α}
    {Q : α → SeqWorld → Prop} (hfree : op.Free) (h : ∀ b w, Safe (f b) Q w) :
    Safe (ask op >>= f) Q w := by
  apply wpI_bind
  apply wpI_ask seqContract_keeps
  intro w₁ _ _ b w₂ hop
  exact ⟨fun h => h.of_eq (sem_free hfree hop), h b w₂⟩

theorem call_then {α β : Type} {op : CheckpointOp (Except String β)} {f : β → CheckpointM α}
    {Q : α → SeqWorld → Prop} (hfree : op.Free) (h : ∀ b w, Safe (f b) Q w) :
    Safe (call op >>= f) Q w := by
  apply wpI_bind
  apply wpI_call seqContract_keeps
  intro w₁ _ _ r w₂ hop
  exact ⟨fun h => h.of_eq (sem_free hfree hop), fun b _ => h b w₂⟩

/-- The journal with a new entry covers what was signed. -/
theorem Covers.insert {signed : List Signed} {owner last : Nat} (h : Covers signed seqs)
    (hlast : UpTo signed owner signer last) :
    Covers signed (seqs.insert owner ⟨owner, signer, last + 1⟩) := by
  intro owner' e he
  rw [GoMap.lookup_insert] at he
  split at he
  · next hkey =>
    cases he
    refine ⟨hkey.symm, fun s hs hsigner howner => ?_⟩
    exact (hlast s hs hsigner (howner.trans hkey)).trans (Nat.le_succ _)
  · exact h owner' e he

/-- Writing a sequence above all that were signed keeps the invariant. -/
theorem SeqInv.write (h : SeqInv w) (hcov : Covers w.signed seqs) (o : Outcome) :
    SeqInv { w with journal := (w.journal.write (·.map documentOf) (some seqs) o).2 } where
  memory := by
    apply Durable.Store.memory_write (P := fun m => ∀ seqs, m = some seqs → Covers w.signed seqs) h.memory
    rintro _ ⟨rfl⟩
    exact hcov
  file := by
    apply Durable.Store.file_write (P := fun f => ∀ entries, f = some entries → CoversFile w.signed entries) h.file
    rintro _ ⟨rfl⟩
    exact hcov.document
  once := h.once

theorem next_safe {owner published : Nat} :
    Safe (call (.next owner signer published)) (Reserved owner signer) w := by
  apply wpI_call seqContract_keeps
  intro w₁ _ hinv r w₂ ⟨a, ha⟩
  cases a with
  | write o =>
    simp only [seqMachine, CheckpointOp.run] at ha
    split at ha
    · next seqs hseqs =>
      split at ha
      · next hmay =>
        have hlast := upTo_lastSeq (hinv.memory seqs hseqs) hmay
        unfold SeqWorld.next at ha
        dsimp only at ha
        split at ha
        · cases ha
          exact ⟨fun h => h, nofun⟩
        · have hcov := (hinv.memory seqs hseqs).insert hlast
          have hwrite := fun h : SeqInv w₁ => h.write hcov o
          cases o with
          | done =>
            cases ha
            refine ⟨hwrite, ?_⟩
            rintro seq ⟨rfl⟩
            exact {
              inv := hwrite hinv
              new := fun s hs hsigner howner => Nat.lt_succ_of_le (hlast s hs hsigner howner)
              memory := by
                rintro _ ⟨rfl⟩ e he -
                cases (GoMap.lookup_insert_self ..).symm.trans he
                exact Nat.le_refl _
              file := by
                rintro _ ⟨rfl⟩ e he rfl -
                obtain ⟨owner, hlook⟩ := mem_documentOf he
                obtain ⟨hkey, -⟩ := hcov owner e hlook
                rw [← hkey, GoMap.lookup_insert_self] at hlook
                exact Nat.le_of_eq (congrArg (·.checkpointSeq) (Option.some.inj hlook)) }
          | failedBefore err =>
            cases ha
            exact ⟨hwrite, nofun⟩
          | failedAfter err =>
            cases ha
            exact ⟨hwrite, nofun⟩
      · cases ha
    · cases ha
  | _ => cases ha

theorem sign_safe (h : Reserved cp.ownerIndexerID signer cp.checkpointSeq w) :
    Safe (call (.sign signer cp)) (fun _ _ => True) w := by
  apply wpI_call seqContract_keeps
  rintro w₁ ⟨key, rfl⟩ _ r w₂ ⟨a, ha⟩
  have h₁ : Reserved cp.ownerIndexerID signer cp.checkpointSeq { w with configured := key } :=
    ⟨seqContract_keeps.rely _ _ ⟨key, rfl⟩ h.inv, h.new, h.memory, h.file⟩
  cases a with
  | result r' =>
    cases r' with
    | ok _ =>
      cases ha
      exact ⟨fun _ => h₁.sign, fun _ _ => trivial⟩
    | error e =>
      cases ha
      exact ⟨fun h => h, fun _ _ => trivial⟩
  | _ => cases ha

theorem signCheckpoint_safe {published : Nat} : Safe (signCheckpoint signer cp published) (fun _ _ => True) w := by
  unfold signCheckpoint nextSeq
  refine call_then (by trivial) fun _ w₁ => ?_
  apply wpI_bind
  split
  · apply wpI.mono next_safe
    intro seq w₂ _ hres
    apply wpI_bind
    apply wpI.mono (wpI_mapError (sign_safe hres))
    intro _ w₃ _ _
    exact wpI_pure trivial
  · exact wpI_throw

theorem sendCheckpoint_safe {snap : Snapshot} {nodeID : String} :
    Safe (sendCheckpoint snap nodeID signer cp) (fun _ _ => True) w := by
  unfold sendCheckpoint
  apply wpI_bind
  refine wpI_attempt (signCheckpoint_safe.mono fun signed w₁ _ _ => ?_) fun e w₁ _ => ?_
  · refine ask_then (by trivial) fun answer w₂ => ?_
    cases answer with
    | accepted =>
      refine ask_then (by trivial) fun _ w₃ => ?_
      exact wpI_pure trivial
    | _ => exact wpI_pure trivial
  · exact wpI_pure trivial

theorem checkpointOwner_safe {cfg : ModeConfig} {snap : Snapshot} {stats : Stats} {owner : Nat} :
    Safe (checkpointOwner cfg snap signer stats owner) (fun _ _ => True) w := by
  unfold checkpointOwner
  refine ask_then (by trivial) fun done w₁ => ?_
  split
  · exact wpI_pure trivial
  refine ask_then (by trivial) fun j w₂ => ?_
  cases j with
  | none => exact wpI_pure trivial
  | some j =>
    refine ask_then (by trivial) fun copies w₃ => ?_
    refine ask_then (by trivial) fun tables w₄ => ?_
    cases planCheckpoint snap cfg.nodeID owner (installStateOf snap owner j tables stats) with
    | none => exact wpI_pure trivial
    | some cp =>
      refine ask_then (by trivial) fun last w₅ => ?_
      split
      · exact wpI_pure trivial
      · exact sendCheckpoint_safe

theorem checkpointOwners_safe {cfg : ModeConfig} {snap : Snapshot} {stats : Stats}
    (owners : List Nat) :
    Safe (checkpointOwners cfg snap signer stats owners) (fun _ _ => True) w := by
  induction owners generalizing w with
  | nil => exact wpI_pure trivial
  | cons owner rest ih =>
    unfold checkpointOwners
    apply wpI_bind
    apply wpI.mono checkpointOwner_safe
    intro goesOn w₁ _ _
    split
    · exact ih
    · exact wpI_pure trivial

theorem checkpointStep_safe {cfg : ModeConfig} : Safe (checkpointStep cfg) (fun _ _ => True) w := by
  unfold checkpointStep
  refine ask_then (by trivial) fun view w₁ => ?_
  cases view with
  | none => exact wpI_pure trivial
  | some snap =>
    dsimp only
    split
    · exact wpI_pure trivial
    refine ask_then (by trivial) fun registered w₂ => ?_
    split
    · refine ask_then (by trivial) fun signer w₃ => ?_
      cases signer with
      | none => exact wpI_pure trivial
      | some signer =>
        refine ask_then (by trivial) fun copies w₄ => ?_
        refine ask_then (by trivial) fun stats w₅ => ?_
        exact checkpointOwners_safe cfg.owners
    · exact wpI_pure trivial

/-! ## Whole runs -/

def seqOutline (cfg : ModeConfig) : Outline (seqSystem cfg remembered) where
  contract _ := seqContract
  post _ _ _ := True
  inv := SeqInv
  rely_refl _ w := ⟨w.configured, rfl⟩
  rely_trans := by
    rintro _ w _ _ ⟨key, rfl⟩ ⟨key', rfl⟩
    exact ⟨key', rfl⟩
  post_stable _ _ _ _ _ _ := trivial
  start_wp := by
    rintro _ w _ hinv rfl
    exact wp.mono (checkpointStep_safe hinv) fun _ _ _ => trivial
  guar_rely i j hij := (hij rfl).elim
  env_rely _ _ _ _ henv := henv
  guar_inv _ _ _ hinv hg := hg hinv
  env_inv w w' hinv henv := seqContract_keeps.rely w w' henv hinv
  crash_inv w hinv := hinv.restart
  leave_rely i j hij := (hij rfl).elim
  leave_inv _ _ hinv := hinv

theorem seqInv_fresh (h : SeqFresh w) : SeqInv w := by
  obtain ⟨hjournal, -, hsigned⟩ := h
  refine ⟨fun seqs hseqs owner e he => ?_, fun entries hfile => ?_, ?_⟩
  · rw [hjournal] at hseqs
    cases hseqs
    simp at he
  · rw [hjournal] at hfile
    cases hfile
  · rw [hsigned]
    exact nofun

/-- If a key that has signed for an owner is used only while the journal names it or
    the registry publishes its sequences, no run signs two contents under one
    checkpoint_seq of an owner and a key. -/
theorem checkpoint_seq_signed_once (cfg : ModeConfig)
    {c : Config CheckpointOp SeqWorld Unit (Except String Unit)}
    (hc : Reach (seqSystem cfg remembered) SeqFresh c) : SignedOnce c.world.signed :=
  (hc.outlined (seqOutline cfg) fun _ => seqInv_fresh).inv.once

/-! ### A rotation and back -/

namespace Rotation

def cfg : ModeConfig := ⟨"m", [1]⟩

def keyA : String := "0xaaaaaaaaaaaaaaaaaaaaaaaaaaaaaaaaaaaaaaaa"

def keyB : String := "0xbbbbbbbbbbbbbbbbbbbbbbbbbbbbbbbbbbbbbbbb"

/-- The checkpoint at a manifest. -/
def checkpoint (seq : Nat) (snapshotID : String) : MemberCheckpoint :=
  ⟨"m", 1, seq, [⟨"db", 1, []⟩], snapshotID, ⟨1, 0, 0⟩⟩

/-- The registry after it has accepted `stored` under `signer`. -/
def view (stored : Option MemberCheckpoint) (signer : String) : Snapshot where
  siIndexerID := 0
  incarnations := []
  groups := [⟨1, "db", [⟨"m", 1, 1, stored⟩], 1, []⟩]
  memberCheckpointSeqs := (stored.map fun cp => ⟨"m", 1, cp.checkpointSeq, signer⟩).toList
  stage3 := some ⟨true, false⟩
  numbered := rfl

/-- A step that signs the checkpoint at a manifest, which the arbiter accepts. -/
def answers (snap : Snapshot) (snapshotID : String) : List SeqAnswer :=
  [.view (some snap), .flag true, .here, .copies [], .stats ⟨true, false⟩, .flag false,
    .entry (some ⟨snapshotID, ⟨1, 0, 0⟩, .empty⟩), .copies [], .tables [], .here, .result (.ok ()),
    .write .done, .result (.ok ()), .submitted .accepted, .here]

def fresh : SeqWorld := ⟨⟨none, some .empty⟩, keyA, keyA, .empty, []⟩

/-- The process of `signer` has signed the checkpoint at a manifest. -/
def signedBy (signer : String) (seq : Nat) (snapshotID : String) (before : CheckpointSeqs)
    (signed : List Signed) : SeqWorld :=
  ⟨⟨some [⟨1, signer, seq⟩], some (before.insert 1 ⟨1, signer, seq⟩)⟩, signer, signer,
    GoMap.empty.insert 1 (checkpoint seq snapshotID), ⟨signer, checkpoint seq snapshotID⟩ :: signed⟩

/-- The journal that a start finds after `signer` has signed. -/
def found (signer : String) (seq : Nat) : CheckpointSeqs := GoMap.empty.insert 1 ⟨1, signer, seq⟩

def first : SeqWorld := signedBy keyA 1 "s1" .empty []

/-- A second signature of the same process. -/
def again : SeqWorld := signedBy keyA 2 "s2" (found keyA 1) first.signed

def second : SeqWorld := signedBy keyB 1 "s2" (found keyA 1) first.signed

def third : SeqWorld := signedBy keyA 1 "s3" (found keyB 1) second.signed

end Rotation

theorem start_checkpointStep (cfg : ModeConfig)
    (may : SeqWorld → CheckpointSeqs → Nat → String → Nat → Bool) (w : SeqWorld) :
    (seqSystem cfg may).start () w (checkpointStep cfg).run := rfl

/-- The start with another key. -/
theorem reach_rotate {cfg : ModeConfig}
    {may : SeqWorld → CheckpointSeqs → Nat → String → Nat → Bool}
    (h : Reach (seqSystem cfg may) SeqFresh (.idle w)) (signer : String) :
    Reach (seqSystem cfg may) SeqFresh (.idle { w with configured := signer }.restart) :=
  (h.step (.env _ ⟨signer, rfl⟩)).step .crash

open Rotation in
/-- A member signs twice under one key, and once under the next. -/
theorem checkpoint_seq_signed_once_rotated :
    ∃ w, Reach (seqSystem cfg remembered) SeqFresh (.idle w) ∧
      w.signed.map (fun s => (s.signer, s.checkpoint.checkpointSeq)) =
        [(keyB, 1), (keyA, 2), (keyA, 1)] ∧ SignedOnce w.signed := by
  have hfirst : (seqMachine remembered).replay (checkpointStep cfg).run
      (answers (view none keyA) "s1") fresh = some (.ret (.ok ()), first) := rfl
  have hagain : (seqMachine remembered).replay (checkpointStep cfg).run
      (answers (view (some (checkpoint 1 "s1")) keyA) "s2") first = some (.ret (.ok ()), again) := rfl
  have hrotated : (seqMachine remembered).replay (checkpointStep cfg).run
      (answers (view (some (checkpoint 2 "s2")) keyA) "s3") { again with configured := keyB }.restart =
      some (.ret (.ok ()), signedBy keyB 1 "s3" (found keyA 2) again.signed) := rfl
  have h₀ : Reach (seqSystem cfg remembered) SeqFresh (.idle fresh) := .init fresh ⟨rfl, rfl, rfl⟩
  have h₂ := (h₀.runs (start_checkpointStep ..) hfirst).runs (start_checkpointStep ..) hagain
  have h₃ := (reach_rotate h₂ keyB).runs (start_checkpointStep ..) hrotated
  exact ⟨_, h₃, rfl, checkpoint_seq_signed_once cfg h₃⟩

open Rotation in
/-- After a rotation from one key to another and back, the sequence 1 is signed
    again, with another content. -/
theorem checkpoint_seq_signed_twice :
    Reach (seqSystem cfg fun _ _ _ _ _ => true) SeqFresh (.idle third) ∧ ¬ SignedOnce third.signed := by
  let may := fun (_ : SeqWorld) (_ : CheckpointSeqs) (_ : Nat) (_ : String) (_ : Nat) => true
  have hfirst : (seqMachine may).replay (checkpointStep cfg).run
      (answers (view none keyA) "s1") fresh = some (.ret (.ok ()), first) := rfl
  have hsecond : (seqMachine may).replay (checkpointStep cfg).run
      (answers (view (some (checkpoint 1 "s1")) keyA) "s2") { first with configured := keyB }.restart =
      some (.ret (.ok ()), second) := rfl
  have hthird : (seqMachine may).replay (checkpointStep cfg).run
      (answers (view (some (checkpoint 1 "s2")) keyB) "s3") { second with configured := keyA }.restart =
      some (.ret (.ok ()), third) := rfl
  have h₀ : Reach (seqSystem cfg may) SeqFresh (.idle fresh) := .init fresh ⟨rfl, rfl, rfl⟩
  have h₁ : Reach (seqSystem cfg may) SeqFresh (.idle first) :=
    h₀.runs (start_checkpointStep ..) hfirst
  have h₂ : Reach (seqSystem cfg may) SeqFresh (.idle second) :=
    (reach_rotate h₁ keyB).runs (start_checkpointStep ..) hsecond
  have h₃ : Reach (seqSystem cfg may) SeqFresh (.idle third) :=
    (reach_rotate h₂ keyA).runs (start_checkpointStep ..) hthird
  refine ⟨h₃, fun honce => ?_⟩
  have hsame := honce ⟨keyA, checkpoint 1 "s1"⟩ (by simp [third, second, first, signedBy])
    ⟨keyA, checkpoint 1 "s3"⟩ (by simp [third, signedBy]) rfl rfl rfl
  exact absurd (congrArg (·.snapshotID) hsame) (by decide)

end ArbiterCore.Checkpoint
