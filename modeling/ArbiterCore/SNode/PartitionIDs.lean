-- SUMMARY: A partition id that the promotion quotes reads back as the part's partition value (chparts.go).
import ArbiterCore.SNode.Promote

/-!
# Partition ids

`logicalPartitionID` puts a prefix before the partition value of a part, and
`quotePartition` takes it off and makes the rest a literal of a statement. The reader
below is the one of the database, for literals in single quotes with backslash
escapes. An empty value has an id, which is refused.
-/

namespace ArbiterCore

/-! ## The literal -/

def hexNibble (c : Char) : Option Nat :=
  if c.isDigit then some (c.toNat - '0'.toNat)
  else if 'a' ≤ c ∧ c ≤ 'f' then some (c.toNat - 'a'.toNat + 10)
  else if 'A' ≤ c ∧ c ≤ 'F' then some (c.toNat - 'A'.toNat + 10)
  else none

/-- What the character after a backslash stands for. -/
def unescape : Char → Char
  | 'a' => '\x07' | 'b' => '\x08' | 'e' => '\x1b' | 'f' => '\x0c' | 'n' => '\n' | 'r' => '\r'
  | 't' => '\t' | 'v' => '\x0b' | '0' => '\x00' | c => c

/-- Reads a literal behind its first quote. -/
def readBody : List Char → Option (List Char)
  | [] => none
  | '\'' :: rest =>
    match rest with
    | [] => some []
    | '\'' :: cs => (readBody cs).map ('\'' :: ·)
    | _ => none
  | '\\' :: 'x' :: high :: low :: cs => do
    let h ← hexNibble high
    let l ← hexNibble low
    return Char.ofNat (16 * h + l) :: (← readBody cs)
  | '\\' :: c :: cs => (readBody cs).map (unescape c :: ·)
  | '\\' :: [] => none
  | c :: cs => (readBody cs).map (c :: ·)

def readLiteral (text : String) : Option String :=
  match text.toList with
  | '\'' :: cs => (readBody cs).map String.ofList
  | _ => none

/-- The reader takes back what the passes wrote. -/
theorem readBody_escaped (cs : List Char) :
    readBody (cs.flatMap (fun c => if c = '\\' then ['\\', '\\'] else if c = '\'' then ['\\', '\''] else [c]) ++
      ['\'']) = some cs := by
  induction cs with
  | nil => rfl
  | cons c cs ih =>
    rw [List.flatMap_cons, List.append_assoc]
    split
    · next hslash => simp [readBody, ih, hslash, unescape]
    next hslash =>
    split
    · next hquote => simp [readBody, ih, hquote, unescape]
    · next hquote => simp [readBody, ih, hslash]

theorem readLiteral_quoted (s : String) : readLiteral ("'" ++ escapeSQLString s ++ "'") = some s := by
  simp [readLiteral, escapeSQLString, readBody_escaped]

/-! ## The round trip -/

variable {sch : TableSchema}

theorem quotePartition_logicalPartitionID (h : sch.partitionBy ≠ "") (p : Part) :
    quotePartition sch (logicalPartitionID sch p) =
      if p.partitionValue = "" then .error (errorf "partition id p_ does not use p_<value> form")
      else .ok ("'" ++ escapeSQLString p.partitionValue ++ "'") := by
  rw [quotePartition, if_neg h, logicalPartitionID, if_neg h]
  cases hvalue : p.partitionValue.toList with
  | nil =>
    rw [String.toList_inj.mp (hvalue.trans String.toList_empty.symm)]
    rfl
  | cons c cs =>
    have hne : p.partitionValue ≠ "" := by
      intro hempty
      simp [hempty] at hvalue
    have hback : String.ofList (c :: cs) = p.partitionValue := by simp [← hvalue]
    simp [hne, hvalue, hback]

/-- The id of a part with a partition value is quoted, and the literal reads back as the value.
    Without a value it is refused. Distinct values have distinct results. -/
theorem partition_id_round_trip (h : sch.partitionBy ≠ "") :
    (∀ p : Part, p.partitionValue ≠ "" → ∃ text, quotePartition sch (logicalPartitionID sch p) = .ok text ∧
      readLiteral text = some p.partitionValue) ∧
    (∀ p : Part, p.partitionValue = "" → ∃ e, quotePartition sch (logicalPartitionID sch p) = .error e) ∧
    ∀ p q : Part, p.partitionValue ≠ q.partitionValue →
      quotePartition sch (logicalPartitionID sch p) ≠ quotePartition sch (logicalPartitionID sch q) := by
  simp only [quotePartition_logicalPartitionID h]
  refine ⟨fun p hp => ?_, fun p hp => ?_, fun p q hne heq => ?_⟩
  · rw [if_neg hp]
    exact ⟨_, rfl, readLiteral_quoted _⟩
  · rw [if_pos hp]
    exact ⟨_, rfl⟩
  split at heq
  · next hp =>
    split at heq
    · next hq => exact hne (hp.trans hq.symm)
    · cases heq
  · split at heq
    · cases heq
    · have hread := congrArg readLiteral (Except.ok.inj heq)
      rw [readLiteral_quoted, readLiteral_quoted] at hread
      exact hne (Option.some.inj hread)

theorem partition_id_round_trip_quote :
    ∃ text, quotePartition ⟨"d.t", "day"⟩ "p_it's \\" = .ok text ∧ readLiteral text = some "it's \\" :=
  have hby : (⟨"d.t", "day"⟩ : TableSchema).partitionBy ≠ "" := by decide
  (partition_id_round_trip hby).1 ⟨"x_1_1_0", "x", "it's \\", "h", "/", 1, 10⟩ (by decide)

/-- A table with a partition key can have a partition of the empty value. -/
theorem empty_partition_value_refused :
    quotePartition ⟨"d.t", "day"⟩ (logicalPartitionID ⟨"d.t", "day"⟩ ⟨"x_1_1_0", "x", "", "h", "/", 1, 10⟩) =
      .error (errorf "partition id p_ does not use p_<value> form") := by
  decide

end ArbiterCore
