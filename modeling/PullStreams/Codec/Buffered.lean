import PullStreams.ByteWriter
import PullStreams.Deque

namespace PullStreams

structure Buffered (ω : Type u) where
  target : ω
  pending : Deque UInt8 := {}

namespace Buffered
variable {ω : Type u} [ByteWriter ω] [PatientWriter ω]

def capacity : Nat := 8192

def nothingTaken : IoFault := ⟨.writeZero, "failed to write the buffered data"⟩

def drain (w : Buffered ω) : Except IoFault Unit × Buffered ω :=
  let (result, rest, target) := ByteWriter.drain nothingTaken w.pending.toList w.target
  (result, { target, pending := .ofList rest })

def makeRoom (n : Nat) (w : Buffered ω) : Except IoFault Unit × Buffered ω :=
  if n > capacity - w.pending.size then w.drain else (.ok (), w)

/-- Bytes that would fill the buffer on their own go straight through. -/
def write (bs : Bytes) (w : Buffered ω) : Except IoFault Nat × Buffered ω :=
  match w.makeRoom bs.length with
  | (.error e, w) => (.error e, w)
  | (.ok (), w) =>
    if bs.length < capacity then (.ok bs.length, { w with pending := w.pending.append bs })
    else (ByteWriter.write bs w.target).map id ({ w with target := · })

def flush (w : Buffered ω) : Except IoFault Unit × Buffered ω :=
  match w.drain with
  | (.ok (), w) => (ByteWriter.flush w.target).map id ({ w with target := · })
  | (.error e, w) => (.error e, w)

/-- What is pending still goes out, and no failure is told. -/
def abandon (w : Buffered ω) : Buffered ω :=
  let (_, w) := w.drain
  { w with target := ByteWriter.abandon w.target }

instance : FinishWriter (Buffered ω) where
  write := write
  flush := flush
  abandon := abandon
  finish w :=
    match w.flush with
    | (.ok (), w) => (.ok (), w)
    | (.error e, w) => (.error e, w.abandon)

theorem pending_of_drain {w v : Buffered ω} (h : w.drain = (.ok (), v)) : v.pending = {} := by
  simp only [drain, Prod.mk.injEq] at h
  rw [← h.2, ByteWriter.drain_ok_rest (Prod.ext h.1 rfl)]
  rfl

theorem drain_of_pending_nil {w : Buffered ω} (h : w.pending = {}) : w.drain = (.ok (), w) := by
  obtain ⟨target, pending⟩ := w
  subst h
  simp [drain, ByteWriter.drain]

theorem not_interrupted_of_makeRoom {n : Nat} {w v : Buffered ω} {e : IoFault}
    (h : w.makeRoom n = (.error e, v)) : e.isInterrupted = false := by
  unfold makeRoom at h
  split at h
  · simp only [drain, Prod.mk.injEq] at h
    exact ByteWriter.drain_not_interrupted rfl (Prod.ext h.1 rfl)
  · simp at h

theorem pending_of_makeRoom {n : Nat} {w v : Buffered ω} (hn : ¬n < capacity)
    (h : w.makeRoom n = (.ok (), v)) : v.pending = {} ∧ (w.pending = {} → v = w) := by
  unfold makeRoom at h
  split at h
  · exact ⟨pending_of_drain h, fun hp => by simpa [drain_of_pending_nil hp, eq_comm] using h⟩
  · simp only [Prod.mk.injEq, true_and] at h
    subst h
    exact ⟨Deque.eq_empty_of_size (by simp only [capacity] at *; omega), fun _ => rfl⟩

/-- Only a write that goes straight through can be interrupted, and then nothing is pending. -/
theorem straight_of_interrupted {bs : Bytes} {w v : Buffered ω} {e : IoFault}
    (h : w.write bs = (.error e, v)) (he : e.isInterrupted = true) :
    v.pending = {} ∧ (w.pending = {} → ByteWriter.write bs w.target = (.error e, v.target)) := by
  unfold write at h
  split at h
  · rename_i hr
    simp only [Prod.mk.injEq, Except.error.injEq] at h
    simp [← h.1, not_interrupted_of_makeRoom hr] at he
  · rename_i u hr
    split at h
    · simp at h
    · rename_i hn
      obtain ⟨hu, hw⟩ := pending_of_makeRoom hn hr
      simp only [Prod.ext_iff, Prod.map_fst, Prod.map_snd, id] at h
      refine ⟨by rw [← h.2]; exact hu, fun hp => ?_⟩
      rw [← hw hp]
      exact Prod.ext h.1 (by rw [← h.2])

instance : PatientWriter (Buffered ω) where
  wf := Subrelation.wf
    (fun {v w} ⟨bs, e, h, he⟩ => by
      obtain ⟨hv, hw⟩ := straight_of_interrupted h he
      change Prod.Lex (· < ·) _ (v.pending.size, v.target) (w.pending.size, w.target)
      by_cases hp : w.pending = {}
      · rw [hv, hp]
        exact .right _ ⟨bs, e, hw hp, he⟩
      · exact .left _ _ (by
          rw [hv]
          exact Nat.pos_of_ne_zero fun h => hp (Deque.eq_empty_of_size h)))
    (InvImage.wf (fun w : Buffered ω => (w.pending.size, w.target))
      (Prod.lex Nat.lt_wfRel ⟨_, PatientWriter.wf⟩).wf)

end Buffered
end PullStreams
