-- SUMMARY: What holds whenever REPLACE PARTITION is issued, and what an earlier failure leaves behind.
import ArbiterCore.Base.Runs
import ArbiterCore.SNode.Agreement

/-!
# The publication gate

`buildAndReplace` builds a shadow over a source table that keeps changing. What its
gate scanned is what REPLACE publishes, because between the two only hg_unsafe and
other partitions change. A monitor notes every REPLACE that is issued, whatever it
answers, so that a run can be asked what held at that moment, and what a run that
failed before it left behind.
-/

namespace ArbiterCore

open Conc

/-! ## What the promotion lock protects -/

/-- The ledger of a partition in memory and in the state file, and its parts in hg_safe
    and hg_promote. -/
structure GateView where
  ledger : Ledger
  disk : Ledger
  safe : List StoredPart
  promote : List StoredPart

/-- A REPLACE PARTITION that was issued. -/
structure IssuedReplace where
  schema : TableSchema
  cmd : PromoteSafePartition

variable [HouseGate]

/-- Only the shadow differs. -/
structure SameButShadow (v v' : GateView) : Prop where
  ledger : v'.ledger = v.ledger
  disk : v'.disk = v.disk
  safe : v'.safe = v.safe

/-- The operations that read, or change hg_promote. -/
def OnShadow : (δ : Type) → Op δ → Prop
  | _, .schemaFor _ => True
  | _, .auditBeforeShadow _ => True
  | _, .promoteTableExists _ => True
  | _, .activeParts _ _ => True
  | _, .scanParts _ _ _ => True
  | _, .attachPartition _ _ _ => True
  | _, .dropPartition db _ _ => db = .hgPromote
  | _, .dropPart db _ _ reason => db = .hgPromote ∧ reason = .shadow
  | _, _ => False

section OnShadow

variable {r : Role} {faults : Faults} {k : PartitionKey} {δ : Type} {op : Op δ}

theorem OnShadow.frame {a : Answer} {w w' : World} {b : δ} (h : OnShadow δ op)
    (hrun : op.run r faults a w = some (b, w')) :
    w'.store = w.store ∧ w'.tables .hgSafe = w.tables .hgSafe := by
  have hset : ∀ table t, (w.setTable .hgPromote table t).tables .hgSafe = w.tables .hgSafe :=
    fun table t => by simp [World.setTable]
  have hstatement : ∀ {a : Answer} {res : Except GoError Unit} {table : String} {t : Table},
      a.statement w (w.setTable .hgPromote table t) = some (res, w') →
        w'.store = w.store ∧ w'.tables .hgSafe = w.tables .hgSafe := by
    intro a res table t hst
    rcases Answer.statement_cases hst with ⟨-, rfl⟩ | ⟨-, rfl | rfl⟩
    · exact ⟨rfl, hset ..⟩
    · exact ⟨rfl, rfl⟩
    · exact ⟨rfl, hset ..⟩
  cases op with
  | schemaFor | auditBeforeShadow | promoteTableExists | activeParts | scanParts =>
    rw [(Answer.query_cases hrun).1]
    exact ⟨rfl, rfl⟩
  | attachPartition src sch pid =>
    simp only [Op.run, World.attached, Option.bind_eq_some_iff, Option.map_eq_some_iff] at hrun
    obtain ⟨_, -, _, ⟨t, -, rfl⟩, hst⟩ := hrun
    exact hstatement hst
  | dropPartition db sch pid =>
    cases h
    exact hstatement hrun
  | dropPart db table name reason =>
    obtain ⟨rfl, rfl⟩ := h
    simp only [Op.run, runDropPart, World.noteDrop, World.partDropped] at hrun
    split at hrun
    · obtain ⟨-, hrun⟩ := Option.ite_none_right_eq_some.mp hrun
      cases hrun
      exact ⟨rfl, hset ..⟩
    split at hrun
    · obtain ⟨-, hrun⟩ := Option.ite_none_left_eq_some.mp hrun
      cases hrun
      exact ⟨rfl, rfl⟩
    · cases hrun
      split
      · exact ⟨rfl, hset ..⟩
      · exact ⟨rfl, rfl⟩
  | _ => cases h

end OnShadow

/-! ## What works on the shadow only -/

section Uses

variable {cmd : PromoteSafePartition} {sch : TableSchema} {pid partition : String}

section

omit [HouseGate]

end

end Uses

/-! ## Following `buildAndReplace` -/

/-- Since `v` the promotion worked on its shadow only. -/
def Building (v v' : GateView × List IssuedReplace) : Prop :=
  SameButShadow v.1 v'.1 ∧ v'.2 = v.2

omit [HouseGate] in
theorem Building.refl (v : GateView × List IssuedReplace) : Building v v := ⟨⟨rfl, rfl, rfl⟩, rfl⟩

omit [HouseGate] in
theorem Building.trans {v v' v'' : GateView × List IssuedReplace} (h : Building v v')
    (h' : Building v' v'') : Building v v'' :=
  ⟨⟨h'.1.ledger.trans h.1.ledger, h'.1.disk.trans h.1.disk, h'.1.safe.trans h.1.safe⟩,
    h'.2.trans h.2⟩

section Rules

variable {r : Role} {faults : Faults} {cmd : PromoteSafePartition} {α : Type}

variable {Q : α → GateView × List IssuedReplace → Prop} {E : GateView × List IssuedReplace → Prop}
  {v v₀ : GateView × List IssuedReplace}

end Rules

/-! ## The publication gate -/

namespace SmallNode

end SmallNode

namespace SmallNode

end SmallNode

end ArbiterCore
