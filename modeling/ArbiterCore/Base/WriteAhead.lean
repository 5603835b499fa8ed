-- SUMMARY: A write-ahead publication protocol: numbered commands move a root, each is decided once.
import Mathlib.Algebra.Group.Basic
import Mathlib.Data.List.Basic
import Mathlib.Order.Nat
import Mathlib.Logic.Relation

/-!
# Write-ahead publication

A party receives numbered commands, each of which moves a root from a base by a
delta. It journals an intent before it publishes, and it decides every command
that it has not outrun: applied, once the root has moved, or refused. After a
crash only the root says whether the publication of a pending intent happened.

`Reachable.decided` is the safety of the protocol: what was ever sent about a
command is the truth about its publication, so two answers agree.
-/

namespace WriteAhead

/-- Commands with distinct sequence numbers and non-zero deltas. -/
structure Protocol (C G : Type) [AddCommGroup G] where
  seq : C → Nat
  base : C → G
  delta : C → G
  seq_injective : Function.Injective seq
  delta_ne_zero : ∀ c, delta c ≠ 0

/-- The state of the party. A decision is a command and whether it was applied. -/
structure State (C G : Type) where
  watermark : Nat
  base : G
  root : G
  intent : Option C
  decision : Option (C × Bool)
  /-- The published commands, oldest first. -/
  published : List C
  /-- The decisions ever sent. -/
  sent : List (C × Bool)

variable {C G : Type} [AddCommGroup G]

def State.initial : State C G := ⟨0, 0, 0, none, none, [], []⟩

inductive Step (P : Protocol C G) (s : State C G) : State C G → Prop where
  | begin (c : C) (hseq : s.watermark < P.seq c) (hbase : P.base c = s.base)
      (hfree : s.intent = none ∨ s.intent = some c) : Step P s { s with intent := some c }
  | publish (c : C) (hc : s.intent = some c) (hroot : s.root = s.base) :
      Step P s { s with root := s.root + P.delta c, published := s.published ++ [c] }
  | apply (c : C) (hc : s.intent = some c) (hroot : s.root = P.base c + P.delta c) :
      Step P s { s with
        watermark := P.seq c, base := s.root, intent := none, decision := some (c, true) }
  | refuse (c : C) (hseq : s.watermark < P.seq c)
      (hfree : s.intent = none ∨ s.intent = some c ∧ s.root = s.base) :
      Step P s { s with watermark := P.seq c, intent := none, decision := some (c, false) }
  | send (d : C × Bool) (hd : s.decision = some d) : Step P s { s with sent := s.sent ++ [d] }

/-- The states the protocol reaches. -/
def Reachable (P : Protocol C G) : State C G → Prop :=
  Relation.ReflTransGen (Step P) State.initial

/-! ## The invariant -/

/-- The truth about a decision: the command is published if and only if it was applied. -/
def Truthful (s : State C G) (d : C × Bool) : Prop := d.2 = true ↔ d.1 ∈ s.published

/-- Where the pending command `c` stands: not published, or published last. -/
inductive Standing (P : Protocol C G) (s : State C G) (c : C) : Prop where
  | waiting (hroot : s.root = s.base) (hold : ∀ d ∈ s.published, P.seq d ≤ s.watermark)
  | done (hroot : s.root = s.base + P.delta c) (old : List C) (hlast : s.published = old ++ [c])
      (hold : ∀ d ∈ old, P.seq d ≤ s.watermark)

structure Inv (P : Protocol C G) (s : State C G) : Prop where
  settled : s.intent = none → s.root = s.base ∧ ∀ d ∈ s.published, P.seq d ≤ s.watermark
  pending : ∀ c, s.intent = some c →
    s.watermark < P.seq c ∧ P.base c = s.base ∧ Standing P s c
  increasing : s.published.Pairwise (P.seq · < P.seq ·)
  decision : ∀ d, s.decision = some d → P.seq d.1 = s.watermark ∧ Truthful s d
  sent : ∀ d ∈ s.sent, P.seq d.1 ≤ s.watermark ∧ Truthful s d

namespace Inv

variable {P : Protocol C G} {s s' : State C G}

theorem initial (P : Protocol C G) : Inv P State.initial where
  settled _ := ⟨rfl, fun _ hd => by cases hd⟩
  pending c hc := by cases hc
  increasing := List.Pairwise.nil
  decision d hd := by cases hd
  sent d hd := by cases hd

/-- The root of a pending command tells whether it was published. -/
theorem waiting_of_root (h : Inv P s) {c : C} (hc : s.intent = some c) (hroot : s.root = s.base) :
    ∀ d ∈ s.published, P.seq d ≤ s.watermark := by
  obtain ⟨-, -, hstand⟩ := h.pending c hc
  cases hstand with
  | waiting _ hold => exact hold
  | done hmoved _ _ _ =>
    rw [hroot] at hmoved
    exact absurd (left_eq_add.mp hmoved) (P.delta_ne_zero c)

theorem done_of_root (h : Inv P s) {c : C} (hc : s.intent = some c)
    (hroot : s.root = P.base c + P.delta c) :
    ∃ old, s.published = old ++ [c] ∧ ∀ d ∈ old, P.seq d ≤ s.watermark := by
  obtain ⟨-, hbase, hstand⟩ := h.pending c hc
  cases hstand with
  | waiting hstay _ =>
    rw [hbase, hstay] at hroot
    exact absurd (left_eq_add.mp hroot) (P.delta_ne_zero c)
  | done _ old hlast hold => exact ⟨old, hlast, hold⟩

/-- No published command has outrun the watermark, unless it is the pending one. -/
theorem free_le (h : Inv P s) {c : C}
    (hfree : s.intent = none ∨ s.intent = some c ∧ s.root = s.base) :
    s.root = s.base ∧ ∀ d ∈ s.published, P.seq d ≤ s.watermark := by
  rcases hfree with hnone | ⟨hc, hroot⟩
  · exact h.settled hnone
  · exact ⟨hroot, h.waiting_of_root hc hroot⟩

/-- A command behind the watermark stays as truthful as it was. -/
theorem truthful_append {c : C} {d : C × Bool} (hd : P.seq d.1 ≤ s.watermark)
    (hc : s.watermark < P.seq c) (ht : Truthful s d) :
    Truthful { s with root := s.root + P.delta c, published := s.published ++ [c] } d := by
  have hne : d.1 ≠ c := fun h => by rw [h] at hd; omega
  simpa [Truthful, hne] using ht

theorem step (h : Inv P s) (hs : Step P s s') : Inv P s' := by
  cases hs with
  | begin c hseq hbase hfree =>
    refine ⟨nofun, fun d hd => ?_, h.increasing, h.decision, h.sent⟩
    cases hd
    rcases hfree with hnone | hc
    · obtain ⟨hroot, hold⟩ := h.settled hnone
      exact ⟨hseq, hbase, .waiting hroot hold⟩
    obtain ⟨-, -, hstand⟩ := h.pending c hc
    refine ⟨hseq, hbase, ?_⟩
    cases hstand with
    | waiting hroot hold => exact .waiting hroot hold
    | done hroot old hlast hold => exact .done hroot old hlast hold
  | publish c hc hroot =>
    have hold := h.waiting_of_root hc hroot
    obtain ⟨hseq, hbase, -⟩ := h.pending c hc
    refine ⟨fun hnone => ?_, fun d hd => ?_, ?_, fun d hd => ?_, fun d hd => ?_⟩
    · rw [hc] at hnone
      cases hnone
    · rw [hc] at hd
      cases hd
      exact ⟨hseq, hbase, .done (by rw [hroot]) s.published rfl hold⟩
    · rw [List.pairwise_append]
      refine ⟨h.increasing, List.pairwise_singleton _ _, fun d hd e he => ?_⟩
      rw [List.mem_singleton.mp he]
      exact lt_of_le_of_lt (hold d hd) hseq
    · obtain ⟨hw, ht⟩ := h.decision d hd
      exact ⟨hw, truthful_append hw.le hseq ht⟩
    · obtain ⟨hw, ht⟩ := h.sent d hd
      exact ⟨hw, truthful_append hw hseq ht⟩
  | apply c hc hroot =>
    obtain ⟨old, hlast, hold⟩ := h.done_of_root hc hroot
    obtain ⟨hseq, -, -⟩ := h.pending c hc
    refine ⟨fun _ => ⟨rfl, fun d hd => ?_⟩, nofun, h.increasing, fun d hd => ?_,
      fun d hd => ?_⟩
    · rw [hlast] at hd
      rcases List.mem_append.mp hd with hd | hd
      · exact (hold d hd).trans hseq.le
      · rw [List.mem_singleton.mp hd]
    · cases hd
      exact ⟨rfl, by simp [Truthful, hlast]⟩
    · obtain ⟨hw, ht⟩ := h.sent d hd
      exact ⟨hw.trans hseq.le, ht⟩
  | refuse c hseq hfree =>
    obtain ⟨hroot, hold⟩ := h.free_le hfree
    refine ⟨fun _ => ⟨hroot, fun d hd => (hold d hd).trans hseq.le⟩, nofun,
      h.increasing, fun d hd => ?_, fun d hd => ?_⟩
    · cases hd
      refine ⟨rfl, ?_⟩
      have hnot : c ∉ s.published := fun hmem => by have := hold c hmem; omega
      simp [Truthful, hnot]
    · obtain ⟨hw, ht⟩ := h.sent d hd
      exact ⟨hw.trans hseq.le, ht⟩
  | send d hd =>
    refine ⟨h.settled, fun c hc => ?_, h.increasing, h.decision, fun e he => ?_⟩
    · obtain ⟨hseq, hbase, hstand⟩ := h.pending c hc
      refine ⟨hseq, hbase, ?_⟩
      cases hstand with
      | waiting hroot hold => exact .waiting hroot hold
      | done hroot old hlast hold => exact .done hroot old hlast hold
    · rcases List.mem_append.mp he with he | he
      · exact h.sent e he
      · rw [List.mem_singleton.mp he]
        obtain ⟨hw, ht⟩ := h.decision d hd
        exact ⟨hw.le, ht⟩

end Inv

/-! ## Runs -/

variable {P : Protocol C G} {s : State C G}

theorem Reachable.inv (h : Reachable P s) : Inv P s := by
  induction h with
  | refl => exact Inv.initial P
  | tail _ hs ih => exact ih.step hs

/-- What was sent about a command is the truth about its publication. -/
theorem Reachable.decided (h : Reachable P s) {d : C × Bool} (hd : d ∈ s.sent) : Truthful s d :=
  (h.inv.sent d hd).2

/-- Two answers to one sequence number agree. -/
theorem Reachable.agree (h : Reachable P s) {d e : C × Bool} (hd : d ∈ s.sent) (he : e ∈ s.sent)
    (hseq : P.seq d.1 = P.seq e.1) : d = e := by
  have hc : d.1 = e.1 := P.seq_injective hseq
  have hb : d.2 = true ↔ e.2 = true := by
    rw [show d.2 = true ↔ _ from h.decided hd, show e.2 = true ↔ _ from h.decided he, hc]
  exact Prod.ext hc (Bool.eq_iff_iff.mpr hb)

end WriteAhead
