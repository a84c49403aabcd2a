import PullStreams.Codec.Basic
import PullStreams.Codec.Zstd.Early
import PullStreams.Codec.Zstd.Frame

namespace PullStreams.Zstd

def mayBeSkipped : Bytes → Bool
  | [] => true
  | b :: rest => b &&& 0xf0 = 0x50 && (rest.take 3).isPrefixOf [0x2a, 0x4d, 0x18]

structure Memory where
  buffers : Buffers := {}
  early : EarlyBuffers := {}

def refuseShort (bytes : Bytes) (f : Flow) : Except Stop (Memory × Flow) :=
  if (bytes.take 4).isPrefixOf magic || mayBeSkipped bytes then f.incomplete
  else f.stop .unknownFormat

def skipFrame (b : UInt8) (f : Flow) : Except Stop Flow := do
  let (size, f) ← f.take 3
  let (_, f) ← f.take (LittleEndian.decode (b :: size))
  .ok f

/-- Reads a frame after its first five bytes. The frames of early versions are known only if these
are in one piece. -/
def readStarted (m : Memory) (start : Bytes) (isInPiece : Bool) (f : Flow) :
    Except Stop (Memory × Flow) := do
  let descriptor := start.getD 4 0
  let first := start.take 4
  if first = magic then
    let (fields, f) ← f.take (Header.width descriptor)
    let (buffers, f) ← readFrame (← f.orStop (Header.ofFields descriptor fields)) m.buffers f
    .ok ({ m with buffers }, f)
  else if mayBeSkipped first then
    .ok (m, ← skipFrame descriptor f)
  else
    match isInPiece, earlyVersion? first with
    | true, some version =>
      let (early, f) ← readEarlyFrame version descriptor m.early f
      .ok ({ m with early }, f)
    | _, _ => f.stop .unknownFormat

def readAnyFrame (m : Memory) (f : Flow) : Except Stop (Memory × Flow) :=
  let room := f.demand.size
  let piece := f.pieces.headD []
  match wholeFrame? room piece with
  | some (h, blocks, rest) => do
    let made ← f.orStop (h.decodeWhole room blocks)
    .ok (m, { f with pieces := rest :: f.pieces.tail, made })
  | none =>
    match f.take 5 with
    | .error _ => refuseShort f.pieces.flatten f
    | .ok (start, g) => readStarted m start ((piece.take 5).length = 5) g

theorem left_of_skipFrame {b : UInt8} {f g : Flow} (h : skipFrame b f = .ok g) :
    g.left ≤ f.left := by
  simp only [skipFrame, bind, Except.bind] at h
  split at h; · simp at h
  rename_i h₁
  split at h; · simp at h
  rename_i h₂
  have := Flow.left_of_take h₁
  have := Flow.left_of_take h₂
  simp only [Except.ok.injEq] at h
  simp only [← h]
  omega

theorem left_of_readStarted {m n : Memory} {start : Bytes} {isInPiece : Bool} {f g : Flow}
    (h : readStarted m start isInPiece f = .ok (n, g)) : g.left ≤ f.left := by
  simp only [readStarted, bind, Except.bind] at h
  split at h
  · split at h; · simp at h
    rename_i ht
    have := Flow.left_of_take ht
    split at h; · simp at h
    split at h; · simp at h
    rename_i hf
    have := left_of_readFrame hf
    simp only [Except.ok.injEq, Prod.mk.injEq] at h
    simp only [← h.2]
    omega
  · split at h
    · split at h; · simp at h
      rename_i hs
      simp only [Except.ok.injEq, Prod.mk.injEq] at h
      exact h.2 ▸ left_of_skipFrame hs
    · split at h
      · split at h; · simp at h
        rename_i he
        simp only [Except.ok.injEq, Prod.mk.injEq] at h
        exact Nat.le_of_lt (h.2 ▸ left_of_readEarlyFrame he)
      · simp [Flow.stop] at h

theorem left_of_readAnyFrame {m n : Memory} {f g : Flow} (h : readAnyFrame m f = .ok (n, g)) :
    g.left < f.left := by
  simp only [readAnyFrame, bind, Except.bind] at h
  split at h
  · rename_i hw
    have := length_of_wholeFrame? hw
    split at h; · simp at h
    simp only [Except.ok.injEq, Prod.mk.injEq] at h
    simp only [← h.2, Flow.left]
    cases hp : f.pieces with
    | nil => simp [hp] at this
    | cons piece rest =>
      simp only [hp, List.headD_cons] at this
      simp
      omega
  · split at h
    · unfold refuseShort at h
      split at h <;> simp [Flow.incomplete, Flow.stop] at h
    · rename_i ht
      have := Flow.left_of_take ht
      have := left_of_readStarted h
      omega

def readFrames (m : Memory) (f : Flow) : Except Stop Flow :=
  match _h : readAnyFrame m f.nextPiece with
  | .error e => .error e
  | .ok (m, g) => if g.isDone then .ok g.endRun else readFrames m g.endRun
termination_by f.left
decreasing_by
  have := left_of_readAnyFrame _h
  simpa [Flow.left_nextPiece] using this

/-- Where the data end too early, the fault of the reader counts if it has one. -/
def decode (demand : Demand) (f : Feed) : Feed :=
  match readFrames {} { pieces := f.pieces, demand } with
  | .ok g => .ofPieces g.runs.reverse f.fault
  | .error ⟨.incomplete, runs⟩ =>
    .ofPieces runs.reverse (f.fault.or (some Fault.incomplete.toIoFault))
  | .error ⟨e, runs⟩ => .ofPieces runs.reverse (some e.toIoFault)

/-- A frame of any number of bytes, with a window as large as a block. -/
def header : Bytes := magic ++ [0, 0x38]

def storedBlock (isLast : Bool) (bs : Bytes) : Bytes :=
  LittleEndian.encode 3 (8 * bs.length + if isLast then 1 else 0) ++ bs

def framing : Framing where
  preamble := header
  blockSize := blockLimit
  block := storedBlock

def codec : Codec :=
  { Packing.packed framing with
    name := "zstd"
    extensions := [".zst", ".zstd"]
    magic := some magic
    readSize := blockLimit + 3
    decode := fun demand f => .ok (decode demand f) }

end PullStreams.Zstd
