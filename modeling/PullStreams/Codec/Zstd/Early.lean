import PullStreams.Codec.Zstd.Flow

namespace PullStreams.Zstd

def earlyVersion? : Bytes → Option Nat
  | [0xfd, 0x2f, 0xb5, 0x1e] => some 1
  | [b, 0xb5, 0x2f, 0xfd] => if 0x22 ≤ b && b ≤ 0x27 then some (b.toNat - 0x20) else none
  | _ => none

structure EarlyHeader where
  /-- No block has to be there as a whole that has no more bytes. -/
  largestBlock : Nat
  /-- How many bytes of what is made are kept. -/
  room : Nat

namespace EarlyHeader

/-- Room for a window and one more block. -/
def ofWindow (window : Nat) : EarlyHeader :=
  let largestBlock := min window blockLimit
  { largestBlock, room := window + largestBlock + 16 }

/-- The descriptor has nothing but the size of the window in its low half. -/
def ofWindowOnly (descriptor : UInt8) (f : Flow) : Except Stop (EarlyHeader × Flow) :=
  if descriptor >>> 4 ≠ 0 then f.stop .unsupported
  else .ok ({ largestBlock := blockLimit, room := 1 <<< (descriptor.toNat + 11) }, f)

def ofWindowAndContent (descriptor : UInt8) (f : Flow) : Except Stop (EarlyHeader × Flow) := do
  let (_, f) ← f.take (#[0, 1, 2, 8].getD (descriptor >>> 6).toNat 0)
  if descriptor &&& 0x20 ≠ 0 then f.stop .unsupported
  else .ok (.ofWindow (1 <<< (descriptor.toNat % 16 + 12)), f)

def largestWindow : Nat := 1 <<< 27

/-- The fields are those of the present version, in narrower bounds. A window has 32 bits. -/
def ofFields (descriptor : UInt8) (f : Flow) : Except Stop (EarlyHeader × Flow) := do
  let (fields, f) ← f.take (Header.width descriptor)
  match Header.ofFields descriptor fields with
  | .error _ => f.stop .unsupported
  | .ok h =>
    let window := h.window % 0x100000000
    if window > largestWindow then f.stop .unsupported
    else if h.dictionary ≠ 0 then f.stop .otherDictionary
    else .ok (.ofWindow (max window 1024), f)

def read (version : Nat) (descriptor : UInt8) (f : Flow) : Except Stop (EarlyHeader × Flow) :=
  match version with
  | 4 | 5 => ofWindowOnly descriptor f
  | 6 => ofWindowAndContent descriptor f
  | 7 => ofFields descriptor f
  | _ => f.stop .oldVersion

theorem left_of_read {version : Nat} {descriptor : UInt8} {f g : Flow} {h : EarlyHeader}
    (hr : read version descriptor f = .ok (h, g)) : g.left ≤ f.left := by
  unfold read at hr
  split at hr
  case h_1 | h_2 =>
    simp only [ofWindowOnly, Flow.stop] at hr
    split at hr
    · simp at hr
    · simp only [Except.ok.injEq, Prod.mk.injEq] at hr
      simp [hr.2]
  case h_3 =>
    simp only [ofWindowAndContent, bind, Except.bind, Flow.stop] at hr
    split at hr; · simp at hr
    rename_i ht
    have := Flow.left_of_take ht
    split at hr; · simp at hr
    simp only [Except.ok.injEq, Prod.mk.injEq] at hr
    simp only [← hr.2]
    omega
  case h_4 =>
    simp only [ofFields, bind, Except.bind, Flow.stop] at hr
    split at hr; · simp at hr
    rename_i ht
    have := Flow.left_of_take ht
    split at hr; · simp at hr
    split at hr; · simp at hr
    split at hr; · simp at hr
    simp only [Except.ok.injEq, Prod.mk.injEq] at hr
    simp only [← hr.2]
    omega
  case h_5 => simp [Flow.stop] at hr

end EarlyHeader

/-- The sizes of the buffers for what is read and for what is made. Frames of one version use them
one after the other. -/
structure EarlyBuffers where
  version : Nat := 0
  input : Nat := 0
  output : Nat := 0

def EarlyBuffers.fit (version : Nat) (h : EarlyHeader) (b : EarlyBuffers) : EarlyBuffers :=
  if b.version = version then
    { version, input := max b.input h.largestBlock, output := max b.output h.room }
  else { version, input := h.largestBlock, output := h.room }

/-- Reads a block, whose bytes go to a place in the buffer, and gives back the place for the next.
A block of no bytes ends the frame as well as a block of the last kind. -/
def readEarlyBlock (h : EarlyHeader) (b : EarlyBuffers) (start : Nat) (f : Flow) :
    Except Stop (Option Nat × Flow) := do
  let (head, f) ← f.take 3
  let size := LittleEndian.decode head.reverse % 0x80000
  let kind := head.headD 0 >>> 6
  if kind = 2 then
    let (_, f) ← f.take 1
    f.stop .generic
  else if kind = 3 || size = 0 then .ok (none, f)
  else if f.isDone then f.incomplete
  else
    let f := f.nextPiece
    if size > b.input && ((f.pieces.headD []).take size).length < size then f.stop .corrupt
    else
      let (bs, f) ← f.take size
      let next := start + size
      if kind = 0 then f.stop (if size < blockLimit then .corrupt else .wrongSize)
      else if next > b.output then f.stop .noRoom
      else .ok (some (if next + h.largestBlock > b.output then 0 else next), f.make bs)

theorem left_of_readEarlyBlock {h : EarlyHeader} {b : EarlyBuffers} {start : Nat}
    {next : Option Nat} {f g : Flow} (hb : readEarlyBlock h b start f = .ok (next, g)) :
    g.left < f.left := by
  simp only [readEarlyBlock, bind, Except.bind, Flow.stop, Flow.incomplete] at hb
  split at hb; · simp at hb
  rename_i ht
  have := Flow.left_of_take ht
  split at hb
  · split at hb <;> simp at hb
  · split at hb
    · simp only [Except.ok.injEq, Prod.mk.injEq] at hb
      simp only [← hb.2]
      omega
    · split at hb; · simp at hb
      split at hb; · simp at hb
      split at hb; · simp at hb
      rename_i hs
      have := Flow.left_of_take hs
      split at hb; · simp at hb
      split at hb; · simp at hb
      simp only [Except.ok.injEq, Prod.mk.injEq] at hb
      simp only [← hb.2, Flow.left_make, Flow.left_nextPiece] at *
      omega

def readEarlyBlocks (h : EarlyHeader) (b : EarlyBuffers) (start : Nat) (f : Flow) :
    Except Stop Flow :=
  match _h : readEarlyBlock h b start f with
  | .error e => .error e
  | .ok (none, g) => .ok g
  | .ok (some next, g) => readEarlyBlocks h b next g
termination_by f.left
decreasing_by exact left_of_readEarlyBlock _h

theorem left_of_readEarlyBlocks {h : EarlyHeader} {b : EarlyBuffers} {start : Nat} {f g : Flow}
    (hb : readEarlyBlocks h b start f = .ok g) : g.left < f.left := by
  fun_induction readEarlyBlocks h b start f with
  | case1 => simp at hb
  | case2 _ _ _ hr =>
    simp only [Except.ok.injEq] at hb
    exact hb ▸ left_of_readEarlyBlock hr
  | case3 _ _ _ _ hr ih => exact Nat.lt_trans (ih hb) (left_of_readEarlyBlock hr)

def readEarlyFrame (version : Nat) (descriptor : UInt8) (b : EarlyBuffers) (f : Flow) :
    Except Stop (EarlyBuffers × Flow) := do
  let (h, f) ← EarlyHeader.read version descriptor f
  let b := b.fit version h
  .ok (b, ← readEarlyBlocks h b 0 f)

theorem left_of_readEarlyFrame {version : Nat} {descriptor : UInt8} {b c : EarlyBuffers}
    {f g : Flow} (h : readEarlyFrame version descriptor b f = .ok (c, g)) : g.left < f.left := by
  simp only [readEarlyFrame, bind, Except.bind] at h
  split at h; · simp at h
  rename_i hr
  split at h; · simp at h
  rename_i hb
  simp only [Except.ok.injEq, Prod.mk.injEq] at h
  exact h.2 ▸ Nat.lt_of_lt_of_le (left_of_readEarlyBlocks hb) (EarlyHeader.left_of_read hr)

end PullStreams.Zstd
