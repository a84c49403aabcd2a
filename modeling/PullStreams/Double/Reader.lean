import PullStreams.ByteReader

namespace PullStreams.Double

/-- Hands out a feed in small pieces. With `interrupts`, every other read is interrupted, the first
one to begin with. -/
structure PieceReader where
  feed : Feed
  piece : Option Nat := none
  interrupts : Bool := false
  isReady : Bool := false

namespace PieceReader

def read (n : Nat) (r : PieceReader) : Except IoFault Bytes × PieceReader :=
  if r.interrupts && !r.isReady then
    (.error ⟨.interrupted, "operation interrupted"⟩, { r with isReady := true })
  else
    (r.feed.read ((r.piece.map (max 1)).elim n (min n))).map id
      ({ r with feed := ·, isReady := false })

instance : ByteReader PieceReader where
  read := read

instance : FiniteReader PieceReader where
  bounded := ⟨fun r => r.feed.bytes.length, fun r => if r.isReady then 0 else 1, fun n r t => by
    simp only [ByteReader.read, read]
    split
    · rename_i hr
      simp only [Bool.and_eq_true, Bool.not_eq_true'] at hr
      refine ⟨fun bs h => by simp at h, fun e h => ?_⟩
      simp only [Prod.mk.injEq] at h
      simp [← h.2, hr.2]
    · generalize hf : r.feed.read _ = p
      obtain ⟨x, f⟩ := p
      simp only [Prod.map, id, Prod.mk.injEq]
      refine ⟨fun bs h => ?_, fun e h => ?_⟩
      · rw [h.1] at hf
        simpa [← h.2] using Feed.length_of_read_ok hf
      · rw [h.1] at hf
        have := Feed.eq_of_read_error hf
        simp [← h.2, this]⟩

end PieceReader
end PullStreams.Double
