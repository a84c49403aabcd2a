import PullStreams.ByteWriter
import PullStreams.Codec.Checksum
import PullStreams.Deque

namespace PullStreams

structure Framing where
  /-- Goes out with the first bytes, before there is a block. -/
  opening : Bytes := []
  /-- Stands before the first block. -/
  preamble : Bytes := []
  blockSize : Nat
  /-- A block of at most `blockSize` bytes, which may be the last. -/
  block (isLast : Bool) (bs : Bytes) : Bytes
  /-- A flush writes a block even if it is empty. -/
  marksFlush : Bool := false
  /-- What follows the last block, given the checksum and the number of all bytes. -/
  trailer (checksum : UInt32) (count : Nat) : Bytes := []

structure Packed (f : Framing) (ω : Type u) where
  target : ω
  pending : Bytes := f.opening
  preamble : Bytes := f.preamble
  held : Deque UInt8 := {}
  checksum : UInt32 := Checksum.start
  count : Nat := 0

namespace Framing

/-- As many blocks as the bytes need, and one for no bytes. -/
def blocks (f : Framing) (isLast : Bool) (bs : Bytes) : Bytes :=
  if _h : bs.length ≤ f.blockSize ∨ f.blockSize = 0 then f.block isLast bs
  else f.block false (bs.take f.blockSize) ++ blocks f isLast (bs.drop f.blockSize)
termination_by bs.length
decreasing_by
  simp only [not_or, Nat.not_le] at _h
  simp only [List.length_drop]
  omega

end Framing

namespace Packed
variable {f : Framing} {ω : Type u} [ByteWriter ω] [PatientWriter ω]

def nothingTaken : IoFault := ⟨.writeZero, "write zero"⟩

def drain (w : Packed f ω) : Except IoFault Unit × Packed f ω :=
  let (result, pending, target) := ByteWriter.drain nothingTaken w.pending w.target
  (result, { w with target, pending })

/-- Puts what is held into blocks. -/
def pack (isLast : Bool) (w : Packed f ω) : Packed f ω :=
  { w with
    pending := w.pending ++ w.preamble ++ f.blocks isLast w.held.toList
    preamble := []
    held := {} }

def hold (bs : Bytes) (w : Packed f ω) : Packed f ω :=
  { w with
    held := w.held.append bs
    checksum := bs.foldl Checksum.update w.checksum
    count := w.count + bs.length }

def write (bs : Bytes) (w : Packed f ω) : Except IoFault Nat × Packed f ω :=
  match w.drain with
  | (.error e, w) => (.error e, w)
  | (.ok (), w) =>
    let w := w.hold bs
    (.ok bs.length, if w.held.size < f.blockSize then w else w.pack false)

def drainTwice (next : Packed f ω → Packed f ω) (w : Packed f ω) :
    Except IoFault Unit × Packed f ω :=
  match w.drain with
  | (.error e, w) => (.error e, w)
  | (.ok (), w) => (next w).drain

def flushTarget (w : Packed f ω) : Except IoFault Unit × Packed f ω :=
  (ByteWriter.flush w.target).map id ({ w with target := · })

def flush (w : Packed f ω) : Except IoFault Unit × Packed f ω :=
  match w.drainTwice fun w => if w.held.size = 0 && !f.marksFlush then w else w.pack false with
  | (.error e, w) => (.error e, w)
  | (.ok (), w) => w.flushTarget

def addTrailer (w : Packed f ω) : Packed f ω :=
  { w with pending := w.pending ++ f.trailer (Checksum.finish w.checksum) w.count }

/-- Writes the last block and the trailer. -/
def complete (w : Packed f ω) : Except IoFault Unit × Packed f ω :=
  match w.drainTwice (pack true) with
  | (.error e, w) => (.error e, w)
  | (.ok (), w) => w.addTrailer.drain

/-- A writer that is let go still completes its output, and no failure is told. -/
instance : FinishWriter (Packed f ω) where
  write := write
  flush := flush
  abandon w :=
    let (_, w) := w.complete
    { w with target := ByteWriter.abandon w.target }
  finish w :=
    match w.complete with
    | (.error e, w) => (.error e, w)
    | (.ok (), w) => w.flushTarget

theorem not_interrupted_of_write {bs : Bytes} {w v : Packed f ω} {e : IoFault}
    (h : w.write bs = (.error e, v)) : e.isInterrupted = false := by
  unfold write at h
  split at h
  · rename_i hd
    simp only [drain, Prod.mk.injEq] at hd
    simp only [Prod.mk.injEq, Except.error.injEq] at h
    rw [← h.1]
    exact ByteWriter.drain_not_interrupted rfl (Prod.ext hd.1 rfl)
  · simp at h

instance : PatientWriter (Packed f ω) where
  wf := ⟨fun w => ⟨_, fun v ⟨bs, e, h, he⟩ => by
    have := not_interrupted_of_write h
    simp_all⟩⟩

end Packed
end PullStreams
