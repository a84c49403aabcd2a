import PullStreams.Fault

namespace PullStreams

/-- Takes bytes; `write` answers how many it took, and may take fewer than it was given. `abandon`
is what becomes of a writer that is let go before its output was finished. -/
class ByteWriter (ω : Type u) where
  write : Bytes → ω → Except IoFault Nat × ω
  flush : ω → Except IoFault Unit × ω
  abandon : ω → ω := id

/-- No writer of the type is interrupted for ever. -/
class PatientWriter (ω : Type u) [ByteWriter ω] : Prop where
  wf : WellFounded fun v w : ω => ∃ bs e,
    ByteWriter.write bs w = (.error e, v) ∧ e.isInterrupted = true

namespace ByteWriter

structure Patience (ω : Type u) where
  state : ω

instance {ω : Type u} [ByteWriter ω] [PatientWriter ω] : WellFoundedRelation (Patience ω) :=
  invImage Patience.state ⟨_, PatientWriter.wf⟩

/-- Writes until nothing is left, and gives what is left when it fails. Short writes go on with the
rest, interrupted ones are repeated, and `nothingTaken` is the fault of a writer that takes nothing.
-/
def drain {ω : Type u} [ByteWriter ω] [PatientWriter ω] (nothingTaken : IoFault) (bs : Bytes)
    (w : ω) : Except IoFault Unit × Bytes × ω :=
  match bs with
  | [] => (.ok (), [], w)
  | b :: rest =>
    match _h : write (b :: rest) w with
    | (.ok 0, w) => (.error nothingTaken, b :: rest, w)
    | (.ok (n + 1), w) => drain nothingTaken (rest.drop n) w
    | (.error e, w) =>
      match _he : e.isInterrupted with
      | true => drain nothingTaken (b :: rest) w
      | false => (.error e, b :: rest, w)
termination_by (bs.length, Patience.mk w)
decreasing_by
  · exact .left _ _ (by simp only [List.length_cons, List.length_drop]; omega)
  · exact .right _ ⟨_, _, _h, _he⟩

section Drain
variable {ω : Type u} [ByteWriter ω] [PatientWriter ω] {nothingTaken e : IoFault} {bs rest : Bytes}
  {v w : ω}

theorem drain_of_nothing {b : UInt8} (h : write (b :: rest) w = (.ok 0, v)) :
    drain nothingTaken (b :: rest) w = (.error nothingTaken, b :: rest, v) := by
  rw [drain]
  split <;> simp_all

theorem drain_of_some {b : UInt8} {n : Nat} (h : write (b :: rest) w = (.ok (n + 1), v)) :
    drain nothingTaken (b :: rest) w = drain nothingTaken (rest.drop n) v := by
  rw [drain]
  split <;> simp_all

theorem drain_of_error {b : UInt8} (h : write (b :: rest) w = (.error e, v)) :
    drain nothingTaken (b :: rest) w =
      if e.isInterrupted then drain nothingTaken (b :: rest) v else (.error e, b :: rest, v) := by
  rw [drain]
  split
  · simp_all
  · simp_all
  · split <;> simp_all

theorem drain_ok_rest {u : Unit} (h : drain nothingTaken bs w = (.ok u, rest, v)) : rest = [] := by
  fun_induction drain nothingTaken bs w <;> simp_all

theorem drain_not_interrupted (hn : nothingTaken.isInterrupted = false)
    (h : drain nothingTaken bs w = (.error e, rest, v)) : e.isInterrupted = false := by
  fun_induction drain nothingTaken bs w <;> simp_all

end Drain

def nothingTaken : IoFault := ⟨.writeZero, "failed to write whole buffer"⟩

def writeAll {ω : Type u} [ByteWriter ω] [PatientWriter ω] (bs : Bytes) (w : ω) :
    Except IoFault Unit × ω :=
  let (result, _, w) := drain nothingTaken bs w
  (result, w)

end ByteWriter

/-- A writer whose output has an end of its own. -/
class FinishWriter (ω : Type u) extends ByteWriter ω where
  finish : ω → Except IoFault Unit × ω

end PullStreams
