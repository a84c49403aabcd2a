import PullStreams.Codec.Zstd.Flow

namespace PullStreams.Zstd

def split? (n : Nat) (bs : Bytes) : Option (Bytes × Bytes) :=
  let part := bs.take n
  if part.length = n then some (part, bs.drop n) else none

theorem length_of_split? {n : Nat} {bs part rest : Bytes} (h : split? n bs = some (part, rest)) :
    rest.length + n = bs.length := by
  simp only [split?, Option.ite_none_right_eq_some, Option.some.injEq, Prod.mk.injEq,
    List.length_take] at h
  simp only [← h.2.2, List.length_drop]
  omega

def blocks? (bytes : Bytes) : Option (List (Block × Bytes) × Bytes) :=
  match _h : split? 3 bytes with
  | none => none
  | some (head, rest) =>
    let b := Block.ofBytes head
    if b.kind = .reserved then none
    else
      match _h' : split? b.stored rest with
      | none => none
      | some (stored, rest) =>
        if b.isLast then some ([(b, stored)], rest)
        else (blocks? rest).map (·.map ((b, stored) :: ·) id)
termination_by bytes.length
decreasing_by
  have := length_of_split? _h
  have := length_of_split? _h'
  omega

def contentOf (room : Nat) : List (Block × Bytes) → Except Fault Bytes
  | [] => .ok []
  | (b, stored) :: rest => do
    let bs ← b.content stored
    if bs.length > room then .error .noRoom
    else .ok (bs ++ (← contentOf (room - bs.length) rest))

namespace Header

/-- The blocks of a frame that is to be decoded in one go, and what follows it. -/
def whole? (h : Header) (room : Nat) (bytes : Bytes) : Option (List (Block × Bytes) × Bytes) :=
  if h.content.any (· ≤ room) then do
    let (blocks, rest) ← blocks? bytes
    let (_, rest) ← split? (if h.hasChecksum then 4 else 0) rest
    some (blocks, rest)
  else none

def decodeWhole (h : Header) (room : Nat) (blocks : List (Block × Bytes)) : Except Fault Bytes := do
  if h.dictionary ≠ 0 then .error .otherDictionary
  else
    let bytes ← contentOf room blocks
    if h.allows bytes.length then .ok bytes else .error .corrupt

end Header

def wholeFrame? (room : Nat) (piece : Bytes) : Option (Header × List (Block × Bytes) × Bytes) := do
  let (start, rest) ← split? 5 piece
  let descriptor := start.getD 4 0
  let (fields, rest) ← split? (Header.width descriptor) rest
  match start.take 4 == magic, Header.ofFields descriptor fields with
  | true, .ok h => (h.whole? room rest).map (h, ·)
  | _, _ => none

theorem length_of_blocks? {bytes rest : Bytes} {blocks : List (Block × Bytes)}
    (h : blocks? bytes = some (blocks, rest)) : rest.length < bytes.length := by
  fun_induction blocks? bytes generalizing blocks rest with
  | case1 => simp at h
  | case2 => simp at h
  | case3 => simp at h
  | case4 =>
    rename_i h₁ _ _ _ _ h₂ _
    have := length_of_split? h₁
    have := length_of_split? h₂
    simp only [Option.some.injEq, Prod.mk.injEq] at h
    simp only [← h.2]
    omega
  | case5 =>
    rename_i h₁ _ _ _ _ h₂ _ ih
    have := length_of_split? h₁
    have := length_of_split? h₂
    obtain ⟨⟨all, tail⟩, hr, ha⟩ := Option.map_eq_some_iff.1 h
    have := ih hr
    simp only [Prod.map, id, Prod.mk.injEq] at ha
    simp only [← ha.2]
    omega

theorem length_of_wholeFrame? {room : Nat} {piece rest : Bytes} {h : Header}
    {blocks : List (Block × Bytes)} (hw : wholeFrame? room piece = some (h, blocks, rest)) :
    rest.length < piece.length := by
  simp only [wholeFrame?, Option.bind_eq_bind, Option.bind_eq_some_iff, Prod.exists] at hw
  obtain ⟨start, fields', h₁, fields, body, h₂, hw⟩ := hw
  have := length_of_split? h₁
  have := length_of_split? h₂
  split at hw
  · obtain ⟨⟨all, tail⟩, hr, ha⟩ := Option.map_eq_some_iff.1 hw
    simp only [Header.whole?, Option.ite_none_right_eq_some, Option.bind_eq_bind,
      Option.bind_eq_some_iff, Prod.exists, Option.some.injEq, Prod.mk.injEq] at hr ha
    obtain ⟨-, _, _, hb, _, _, hs, -, rfl⟩ := hr
    have := length_of_blocks? hb
    have := length_of_split? hs
    simp only [← ha.2.2]
    omega
  · simp at hw

/-- The sizes of the buffers for what is read and for what is made. Frames use them one after the
other. -/
structure Buffers where
  input : Nat := 0
  output : Nat := 0

namespace Buffers

def largestWindow : Nat := 1 <<< 27 + 1

def smallestWindow : Nat := 1024

/-- Buffers that are large enough, new ones if those that there are do not do. -/
def fit (h : Header) (b : Buffers) : Except Fault Buffers :=
  let window := max h.window smallestWindow
  let input := max h.largestBlock 4
  let ring := window + 2 * h.largestBlock + 64
  let output := (h.content.map (min ring)).getD ring
  if window > largestWindow then .error .largeWindow
  else .ok (if b.input < input || b.output < output then { input, output } else b)

end Buffers

structure Progress where
  /-- Where the next bytes go in the buffer. -/
  start : Nat := 0
  count : Nat := 0

/-- Passes bytes of a block through the buffer; they end the data of the frame if `isEnd`. The
buffer is filled from its start again where it could not take one more block, unless it takes the
whole frame. -/
def put (h : Header) (capacity : Nat) (isEnd : Bool) (bs : Bytes) (p : Progress) (f : Flow) :
    Except Stop (Progress × Flow) :=
  let next := p.start + bs.length
  let count := p.count + bs.length
  if next > capacity then f.stop .noRoom
  else if bs.length > h.largestBlock || isEnd && !h.allows count then f.stop .corrupt
  else
    let isFull := h.content.all (capacity < ·) && next + h.largestBlock > capacity
    .ok ({ start := if isFull && !bs.isEmpty then 0 else next, count }, f.make bs)

/-- Passes on `n` bytes as they come in. -/
def putRaw (h : Header) (capacity : Nat) (isEnd : Bool) (n : Nat) (p : Progress) (f : Flow) :
    Except Stop (Progress × Flow) :=
  match _h : f.pieces with
  | [] => f.incomplete
  | piece :: rest =>
    let part := piece.take n
    let g := { f with pieces := piece.drop n :: rest }
    if part.length = n then put h capacity isEnd part p g
    else
      match _hp : put h capacity false part p g with
      | .error e => .error e
      | .ok (p, g) =>
        putRaw h capacity isEnd (n - part.length) p { g.endRun with pieces := rest }
termination_by f.pieces.length
decreasing_by simp [_h]

/-- Reads a block; `none` after the last one. -/
def readBlock (h : Header) (capacity : Nat) (p : Progress) (f : Flow) :
    Except Stop (Option Progress × Flow) := do
  let (head, f) ← f.take 3
  let b := Block.ofBytes head
  let further (p : Progress) := if b.isLast then none else some p
  if b.kind = .reserved || b.stored > h.largestBlock then f.stop .corrupt
  else if b.stored = 0 then .ok (further p, f)
  else if b.kind = .raw then
    let (p, f) ← putRaw h capacity b.isLast b.size p f
    .ok (further p, f)
  else
    let (stored, f) ← f.take b.stored
    match b.content stored with
    | .error e => f.stop e
    | .ok bs =>
      let (p, f) ← put h capacity b.isLast bs p f
      .ok (further p, f)

theorem left_of_put {h : Header} {capacity : Nat} {isEnd : Bool} {bs : Bytes} {p q : Progress}
    {f g : Flow} (hp : put h capacity isEnd bs p f = .ok (q, g)) : g.left = f.left := by
  simp only [put, Flow.stop] at hp
  split at hp
  · simp at hp
  · split at hp
    · simp at hp
    · simp only [Except.ok.injEq, Prod.mk.injEq] at hp
      simp [← hp.2]

theorem left_of_putRaw {h : Header} {capacity n : Nat} {isEnd : Bool} {p q : Progress}
    {f g : Flow} (hp : putRaw h capacity isEnd n p f = .ok (q, g)) : g.left ≤ f.left := by
  fun_induction putRaw h capacity isEnd n p f with
  | case1 => simp [Flow.incomplete, Flow.stop] at hp
  | case2 n p f piece rest hf part g' hn =>
    rw [left_of_put hp]
    simp [g', Flow.left, hf]
  | case3 => simp at hp
  | case4 n p f piece rest hf part g' hn p' g'' hput ih =>
    have := ih hp
    simp only [Flow.left, hf, List.flatten_cons, List.length_append] at *
    omega

theorem left_of_readBlock {h : Header} {capacity : Nat} {p : Progress} {q : Option Progress}
    {f g : Flow} (hb : readBlock h capacity p f = .ok (q, g)) : g.left < f.left := by
  simp only [readBlock, bind, Except.bind] at hb
  split at hb; · simp at hb
  rename_i ht
  have := Flow.left_of_take ht
  split at hb; · simp [Flow.stop] at hb
  split at hb
  · simp only [Except.ok.injEq, Prod.mk.injEq] at hb
    simp only [← hb.2]
    omega
  · split at hb
    · split at hb; · simp at hb
      rename_i hr
      have := left_of_putRaw hr
      simp only [Except.ok.injEq, Prod.mk.injEq] at hb
      simp only [← hb.2]
      omega
    · split at hb; · simp at hb
      rename_i hs
      have := Flow.left_of_take hs
      split at hb; · simp [Flow.stop] at hb
      split at hb; · simp at hb
      rename_i hput
      have := left_of_put hput
      simp only [Except.ok.injEq, Prod.mk.injEq] at hb
      simp only [← hb.2]
      omega

def readBlocks (h : Header) (capacity : Nat) (p : Progress) (f : Flow) : Except Stop Flow :=
  match _h : readBlock h capacity p f with
  | .error e => .error e
  | .ok (none, g) => .ok g
  | .ok (some p, g) => readBlocks h capacity p g
termination_by f.left
decreasing_by exact left_of_readBlock _h

theorem left_of_readBlocks {h : Header} {capacity : Nat} {p : Progress} {f g : Flow}
    (hb : readBlocks h capacity p f = .ok g) : g.left < f.left := by
  fun_induction readBlocks h capacity p f with
  | case1 => simp at hb
  | case2 _ _ _ hr =>
    simp only [Except.ok.injEq] at hb
    exact hb ▸ left_of_readBlock hr
  | case3 _ _ _ _ hr ih => exact Nat.lt_trans (ih hb) (left_of_readBlock hr)

def Flow.orStop {α : Type} (f : Flow) : Except Fault α → Except Stop α
  | .ok a => .ok a
  | .error e => f.stop e

def readFrame (h : Header) (b : Buffers) (f : Flow) : Except Stop (Buffers × Flow) := do
  if h.dictionary ≠ 0 then f.stop .otherDictionary
  else
    let b ← f.orStop (b.fit h)
    let f ← readBlocks h b.output {} f
    let (_, f) ← f.take (if h.hasChecksum then 4 else 0)
    .ok (b, f)

theorem left_of_readFrame {h : Header} {b c : Buffers} {f g : Flow}
    (hf : readFrame h b f = .ok (c, g)) : g.left < f.left := by
  simp only [readFrame, bind, Except.bind] at hf
  split at hf; · simp [Flow.stop] at hf
  split at hf; · simp at hf
  split at hf; · simp at hf
  rename_i hb
  have := left_of_readBlocks hb
  split at hf; · simp at hf
  rename_i ht
  have := Flow.left_of_take ht
  simp only [Except.ok.injEq, Prod.mk.injEq] at hf
  simp only [← hf.2]
  omega

end PullStreams.Zstd
