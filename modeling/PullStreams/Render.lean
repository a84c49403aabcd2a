import PullStreams.Source
import PullStreams.ByteWriter

namespace PullStreams

/-- How a stream of items is written. `record` is given the number of records before it; a record is
made up in full before any of it is written. -/
structure Format (α : Type u) where
  opening : Bytes := []
  record : Nat → α → Except StreamFault Bytes
  closing : Bytes := []

namespace Format
variable {σ : Type u} {α : Type v} [Source σ α] {ω : Type w} [ByteWriter ω] [PatientWriter ω]

/-- Writes the bytes, and gives a fault as that of a transfer that has got `count` records far. -/
def put (count : Nat) (bs : Bytes) (w : ω) : Except PartialTransfer Unit × ω :=
  (ByteWriter.writeAll bs w).map (·.mapError fun e => ⟨count, .io e⟩) id

def visit (f : Format α) (tally : Nat × ω) (t : σ) : Except (PartialTransfer × ω) (Nat × ω) :=
  let (count, w) := tally
  match f.record count (Source.current t) with
  | .error e => .error (⟨count, e⟩, w)
  | .ok bs =>
    match put count bs w with
    | (.ok (), w) => .ok (count + 1, w)
    | (.error e, w) => .error (e, w)

def finish (f : Format α) (count : Nat) (w : ω) : Except PartialTransfer Nat × ω :=
  match put count f.closing w with
  | (.error e, w) => (.error e, w)
  | (.ok (), w) =>
    match ByteWriter.flush w with
    | (.ok (), w) => (.ok count, w)
    | (.error e, w) => (.error ⟨count, .io e⟩, w)

/-- What a rendering begins with once the opening bytes are written. -/
def start (f : Format α) (w : ω) : Except (PartialTransfer × ω) (Nat × ω) :=
  match put 0 f.opening w with
  | (.ok (), w) => .ok (0, w)
  | (.error e, w) => .error (e, w)

/-- The answer when the sweep over the source has come to an end, with what it leaves. -/
def conclude (f : Format α) : Except (PartialTransfer × ω) (Nat × ω) × σ →
    Except PartialTransfer Nat × σ × ω
  | (.error (e, w), source) => (.error e, source, w)
  | (.ok (count, w), source) =>
    match failure? (Source.error source) with
    | some e => (.error ⟨count, e⟩, source, w)
    | none =>
      let (result, w) := f.finish count w
      (result, source, w)

/-- The opening bytes are refused, or the sweep over the source ends. -/
class RenderEnds (f : Format α) (source : σ) (w : ω) : Prop where
  acc : Acc (Source.GoesOn f.visit) (f.start w, source)

instance {f : Format α} {source : σ} {w : ω} [Source.Ends source] : RenderEnds f source w where
  acc := Source.acc_goesOn (f.start w) source

/-- Writes all that the source yields, and answers the number of records. A source that yields for
ever is written up to an item that is not encoded or a record that is refused. -/
def render (f : Format α) (source : σ) (w : ω) [hends : RenderEnds f source w] :
    Except PartialTransfer Nat × σ × ω :=
  f.conclude (Source.resume f.visit (f.start w, source) hends.acc)

section Render
variable {f : Format α} {source : σ} {tally : Nat × ω} {v w : ω}

theorem put_of_writeAll {bs : Bytes} {result : Except IoFault Unit}
    (h : ByteWriter.writeAll bs w = (result, v)) (count : Nat) :
    put count bs w = (result.mapError fun e => ⟨count, .io e⟩, v) := by
  rw [put, h]
  rfl

theorem start_of_writeAll {result : Except IoFault Unit}
    (h : ByteWriter.writeAll f.opening w = (result, v)) :
    f.start w = (result.map fun _ => (0, v)).mapError fun e => (⟨0, .io e⟩, v) := by
  rw [start, put_of_writeAll h]
  cases result <;> rfl

theorem RenderEnds.of_error {p : PartialTransfer × ω} (h : f.start w = .error p) :
    RenderEnds f source w where
  acc := .intro _ fun _ ⟨_, hs, _⟩ => by simp [h] at hs

theorem render_of_error {p : PartialTransfer × ω} (h : f.start w = .error p)
    [hends : RenderEnds f source w] : f.render source w = (.error p.1, source, p.2) := by
  rw [render, Source.resume_of_error hends.acc h, h]
  rfl

theorem RenderEnds.of_sweepsTo {answer : Except (PartialTransfer × ω) (Nat × ω) × σ}
    (h : f.start w = .ok tally) (hs : Source.SweepsTo f.visit tally source answer) :
    RenderEnds f source w where
  acc := h ▸ hs.ends.acc

theorem RenderEnds.sweepEnds [hends : RenderEnds f source w] (h : f.start w = .ok tally) :
    Source.SweepEnds f.visit tally source where
  acc := h ▸ hends.acc

theorem render_of_sweepsTo {answer : Except (PartialTransfer × ω) (Nat × ω) × σ}
    (h : f.start w = .ok tally) (hs : Source.SweepsTo f.visit tally source answer)
    [hends : RenderEnds f source w] : f.render source w = f.conclude answer :=
  congrArg f.conclude ((Source.sweepsTo_resume hends.acc h).unique hs)

end Render
end Format
end PullStreams
