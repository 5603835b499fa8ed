-- SUMMARY: A value that is written to a file before it is used, with writes that fail.
import Mathlib.Logic.Basic

/-!
# Durable values

A process keeps a value in memory and in a file. It replaces the file atomically
(a temporary file, a rename, a sync of the directory) and then the value in memory.
A write may fail before its rename, which leaves the file as it was, or after it,
which leaves the file replaced and the memory as it was.
-/

namespace Durable

/-- How a write ends. -/
inductive Outcome where
  | done
  | failedBefore (err : String)
  | failedAfter (err : String)
  deriving DecidableEq

namespace Outcome

variable {F : Type}

/-- What the writer is told. -/
def result : Outcome → Except String Unit
  | .done => .ok ()
  | .failedBefore err | .failedAfter err => .error err

/-- The file after `new` was written over `old`. -/
def file (old new : F) : Outcome → F
  | .done | .failedAfter _ => new
  | .failedBefore _ => old

end Outcome

/-- A file with the content `F` and a value `M` in memory. -/
structure Store (F M : Type) where
  file : F
  memory : M

namespace Store

variable {F M : Type} {encode : M → F} {s : Store F M} {m : M}

/-- Writes `m`, which the file holds as `encode m`. -/
def write (encode : M → F) (s : Store F M) (m : M) : Outcome → Except String Unit × Store F M
  | .done => (.ok (), ⟨encode m, m⟩)
  | .failedBefore err => (.error err, s)
  | .failedAfter err => (.error err, { s with file := encode m })

/-- What holds of the file and of what is written holds of the file afterwards. -/
theorem file_write {P : F → Prop} (hold : P s.file) (hnew : P (encode m)) (o : Outcome) :
    P (write encode s m o).2.file := by
  cases o with
  | done => exact hnew
  | failedBefore err => exact hold
  | failedAfter err => exact hnew

/-- What holds of the memory and of what is written holds of the memory afterwards. -/
theorem memory_write {P : M → Prop} (hold : P s.memory) (hnew : P m) (o : Outcome) :
    P (write encode s m o).2.memory := by
  cases o with
  | done => exact hnew
  | failedBefore err => exact hold
  | failedAfter err => exact hold

end Store

end Durable
