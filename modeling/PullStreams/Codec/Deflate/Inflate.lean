import PullStreams.Codec.Deflate.Huffman
import PullStreams.Codec.LittleEndian

namespace PullStreams.Deflate

inductive Token where
  | literal (b : UInt8)
  /-- `length` bytes that are the same as those `distance` bytes before them. -/
  | copy (length distance : Nat)
  | endOfBlock

structure Codes where
  literals : Code
  distances : Code

/-- The first length that a symbol from 257 on stands for, and the number of bits to add to it. -/
def lengthBases : Array (Nat × Nat) :=
  #[(3, 0), (4, 0), (5, 0), (6, 0), (7, 0), (8, 0), (9, 0), (10, 0), (11, 1), (13, 1), (15, 1),
    (17, 1), (19, 2), (23, 2), (27, 2), (31, 2), (35, 3), (43, 3), (51, 3), (59, 3), (67, 4),
    (83, 4), (99, 4), (115, 4), (131, 5), (163, 5), (195, 5), (227, 5), (258, 0)]

def distanceBases : Array (Nat × Nat) :=
  #[(1, 0), (2, 0), (3, 0), (4, 0), (5, 1), (7, 1), (9, 2), (13, 2), (17, 3), (25, 3), (33, 4),
    (49, 4), (65, 5), (97, 5), (129, 6), (193, 6), (257, 7), (385, 7), (513, 8), (769, 8),
    (1025, 9), (1537, 9), (2049, 10), (3073, 10), (4097, 11), (6145, 11), (8193, 12), (12289, 12),
    (16385, 13), (24577, 13)]

def readExtended (bases : Array (Nat × Nat)) (symbol : Nat) (r : BitReader) :
    Except Fault (Nat × BitReader) :=
  match bases[symbol]? with
  | none => r.refuse
  | some (base, width) => (r.number width).map fun p => (base + p.1, p.2)

def readToken (c : Codes) (r : BitReader) : Except Fault (Token × BitReader) := do
  let (symbol, r) ← c.literals.decode r
  if symbol < 256 then .ok (.literal (.ofNat symbol), r)
  else if symbol = 256 then .ok (.endOfBlock, r)
  else
    let (length, r) ← readExtended lengthBases (symbol - 257) r
    let (symbol, r) ← c.distances.decode r
    let (distance, r) ← readExtended distanceBases symbol r
    .ok (.copy length distance, r)

theorem left_of_readExtended {bases : Array (Nat × Nat)} {symbol n : Nat} {r t : BitReader}
    (h : readExtended bases symbol r = .ok (n, t)) : t.left ≤ r.left := by
  unfold readExtended at h
  split at h
  · simp at h
  · exact BitReader.left_of_map_number h

theorem left_of_readToken {c : Codes} {r t : BitReader} {token : Token}
    (h : readToken c r = .ok (token, t)) : t.left < r.left := by
  simp only [readToken, bind, Except.bind] at h
  split at h
  · simp at h
  · rename_i hs
    have := Code.left_of_decode hs
    split at h
    · simp_all
    · split at h
      · simp_all
      · split at h
        · simp at h
        · rename_i hl
          have := left_of_readExtended hl
          split at h
          · simp at h
          · rename_i hd
            have := Code.left_of_decode hd
            split at h
            · simp at h
            · rename_i he
              have := left_of_readExtended he
              simp only [Except.ok.injEq, Prod.mk.injEq] at h
              simp only [← h.2]
              omega

/-- What was written `distance` bytes ago; before the start there are zeros. -/
def byteAgo (distance : Nat) (out : Array UInt8) : UInt8 :=
  if distance ≤ out.size then out.getD (out.size - distance) 0 else 0

/-- Repeats what was written `distance` bytes ago; the copy may run into itself. -/
def copyBack (distance : Nat) : Nat → Array UInt8 → Array UInt8
  | 0, out => out
  | length + 1, out => copyBack distance length (out.push (byteAgo distance out))

def inflateTokens (c : Codes) (r : BitReader) (out : Array UInt8) :
    Except Fault BitReader × Array UInt8 :=
  match _h : readToken c r with
  | .error e => (.error e, out)
  | .ok (.endOfBlock, r) => (.ok r, out)
  | .ok (.literal b, r) => inflateTokens c r (out.push b)
  | .ok (.copy length distance, r) => inflateTokens c r (copyBack distance length out)
termination_by r.left
decreasing_by
  · exact left_of_readToken _h
  · exact left_of_readToken _h

/-- Bytes that are stored as they are. Their number is given twice, once with all bits reversed. -/
def inflateStored (r : BitReader) (out : Array UInt8) : Except Fault BitReader × Array UInt8 :=
  let bytes := r.align.bytes
  if bytes.length < 4 then (.error .short, out)
  else
    let n := LittleEndian.decode (bytes.take 2)
    let body := bytes.drop 4
    if n + LittleEndian.decode ((bytes.drop 2).take 2) ≠ 0xFFFF then
      (BitReader.refuse { bytes := body }, out)
    else
      (if body.length < n then .error .short else .ok { bytes := body.drop n },
        out ++ (body.take n).toArray)

def fixedLengths : List Nat :=
  List.replicate 144 8 ++ List.replicate 112 9 ++ List.replicate 24 7 ++ List.replicate 8 8

def fixedCodes : Option Codes := do
  some ⟨← Code.ofLengths? fixedLengths, ← Code.ofLengths? (List.replicate 32 5)⟩

/-- The order in which the lengths of the code for lengths are given. -/
def lengthOrder : List Nat := [16, 17, 18, 0, 8, 7, 9, 6, 10, 5, 11, 4, 12, 3, 13, 2, 14, 1, 15]

def readNumbers (width : Nat) : Nat → BitReader → Except Fault (List Nat × BitReader)
  | 0, r => .ok ([], r)
  | count + 1, r => do
    let (n, r) ← r.number width
    let (rest, r) ← readNumbers width count r
    .ok (n :: rest, r)

/-- Adds a length `base` times and as often as the next `width` bits say. -/
def addRepeated (length base width : Nat) (lengths : List Nat) (r : BitReader) :
    Except Fault (List Nat × BitReader) :=
  (r.number width).map fun p => (List.replicate (base + p.1) length ++ lengths, p.2)

/-- What a symbol adds to a list of lengths, the last first. -/
def readRepeated (symbol : Nat) (lengths : List Nat) (r : BitReader) :
    Except Fault (List Nat × BitReader) :=
  match symbol, lengths with
  | 16, [] => r.refuse
  | 16, last :: _ => addRepeated last 3 2 lengths r
  | 17, _ => addRepeated 0 3 3 lengths r
  | 18, _ => addRepeated 0 11 7 lengths r
  | n, _ => .ok (n :: lengths, r)

theorem left_of_addRepeated {length base width : Nat} {lengths all : List Nat} {r t : BitReader}
    (h : addRepeated length base width lengths r = .ok (all, t)) : t.left ≤ r.left :=
  BitReader.left_of_map_number (f := fun n => List.replicate (base + n) length ++ lengths) h

theorem left_of_readRepeated {symbol : Nat} {lengths all : List Nat} {r t : BitReader}
    (h : readRepeated symbol lengths r = .ok (all, t)) : t.left ≤ r.left := by
  unfold readRepeated at h
  split at h
  · simp at h
  · exact left_of_addRepeated h
  · exact left_of_addRepeated h
  · exact left_of_addRepeated h
  · simp only [Except.ok.injEq, Prod.mk.injEq] at h
    simp [h.2]

/-- Reads `count` lengths; `lengths` holds those read so far, the last first. -/
def readLengths (c : Code) (count : Nat) (lengths : List Nat) (r : BitReader) :
    Except Fault (List Nat × BitReader) :=
  if lengths.length < count then
    match _h : c.decode r with
    | .error e => .error e
    | .ok (symbol, s) =>
      match _h' : readRepeated symbol lengths s with
      | .error e => .error e
      | .ok (lengths, t) => readLengths c count lengths t
  else if lengths.length = count then .ok (lengths.reverse, r)
  else r.refuse
termination_by r.left
decreasing_by
  have := Code.left_of_decode _h
  have := left_of_readRepeated _h'
  omega

def orRefuse {α : Type} (r : BitReader) : Option α → Except Fault α
  | some a => .ok a
  | none => r.refuse

def readCodes (r : BitReader) : Except Fault (Codes × BitReader) := do
  let (literals, r) ← r.number 5
  let (distances, r) ← r.number 5
  let (count, r) ← r.number 4
  orRefuse r (if literals ≤ 29 ∧ distances ≤ 29 then some () else none)
  let (lengths, r) ← readNumbers 3 (count + 4) r
  let given := lengthOrder.zip lengths
  let c ← orRefuse r (Code.complete? ((List.range 19).map fun n => (given.lookup n).getD 0))
  let (lengths, r) ← readLengths c (literals + 257 + distances + 1) [] r
  let (literals, distances) := lengths.splitAt (literals + 257)
  .ok (⟨← orRefuse r (Code.ofLengths? literals), ← orRefuse r (Code.ofLengths? distances)⟩, r)

def inflateBlock (kind : Nat) (r : BitReader) (out : Array UInt8) :
    Except Fault BitReader × Array UInt8 :=
  match kind with
  | 0 => inflateStored r out
  | 1 =>
    match fixedCodes with
    | some c => inflateTokens c r out
    | none => (r.refuse, out)
  | 2 =>
    match readCodes r with
    | .ok (c, r) => inflateTokens c r out
    | .error e => (.error e, out)
  | _ => (r.refuse, out)

theorem left_of_inflateTokens {c : Codes} {r t : BitReader} {out all : Array UInt8}
    (h : inflateTokens c r out = (.ok t, all)) : t.left ≤ r.left := by
  fun_induction inflateTokens c r out with
  | case1 => simp at h
  | case2 _ _ _ hr =>
    have := left_of_readToken hr
    simp_all
    omega
  | case3 _ _ _ _ hr ih =>
    have := left_of_readToken hr
    have := ih h
    omega
  | case4 _ _ _ _ _ hr ih =>
    have := left_of_readToken hr
    have := ih h
    omega

theorem left_of_inflateStored {r t : BitReader} {out all : Array UInt8}
    (h : inflateStored r out = (.ok t, all)) : t.left ≤ r.left := by
  simp only [inflateStored] at h
  split at h
  · simp at h
  · split at h
    · simp at h
    · simp only [Prod.mk.injEq] at h
      split at h
      · simp at h
      · have := BitReader.left_align r
        simp only [Except.ok.injEq] at h
        simp only [← h.1, BitReader.left, List.length_nil, List.length_drop] at *
        omega

theorem left_of_readNumbers {width count : Nat} {numbers : List Nat} {r t : BitReader}
    (h : readNumbers width count r = .ok (numbers, t)) : t.left ≤ r.left := by
  induction count generalizing r t numbers with
  | zero => simp_all [readNumbers]
  | succ count ih =>
    simp only [readNumbers, bind, Except.bind] at h
    split at h
    · simp at h
    · rename_i hn
      have := BitReader.left_of_number hn
      split at h
      · simp at h
      · rename_i hr
        have := ih hr
        simp only [Except.ok.injEq, Prod.mk.injEq] at h
        simp only [← h.2]
        omega

theorem left_of_readLengths {c : Code} {count : Nat} {lengths all : List Nat} {r t : BitReader}
    (h : readLengths c count lengths r = .ok (all, t)) : t.left ≤ r.left := by
  fun_induction readLengths c count lengths r with
  | case1 => simp at h
  | case2 => simp at h
  | case3 _ _ _ _ _ hd _ _ hr ih =>
    have := Code.left_of_decode hd
    have := left_of_readRepeated hr
    have := ih h
    omega
  | case4 => simp_all
  | case5 => simp at h

theorem left_of_readCodes {c : Codes} {r t : BitReader} (h : readCodes r = .ok (c, t)) :
    t.left ≤ r.left := by
  simp only [readCodes, bind, Except.bind] at h
  split at h; · simp at h
  rename_i h₁
  split at h; · simp at h
  rename_i h₂
  split at h; · simp at h
  rename_i h₃
  split at h; · simp at h
  split at h; · simp at h
  rename_i h₄
  split at h; · simp at h
  split at h; · simp at h
  rename_i h₅
  split at h; · simp at h
  split at h; · simp at h
  have := BitReader.left_of_number h₁
  have := BitReader.left_of_number h₂
  have := BitReader.left_of_number h₃
  have := left_of_readNumbers h₄
  have := left_of_readLengths h₅
  simp only [Except.ok.injEq, Prod.mk.injEq] at h
  simp only [← h.2]
  omega

theorem left_of_inflateBlock {kind : Nat} {r t : BitReader} {out all : Array UInt8}
    (h : inflateBlock kind r out = (.ok t, all)) : t.left ≤ r.left := by
  unfold inflateBlock at h
  split at h
  · exact left_of_inflateStored h
  · split at h
    · exact left_of_inflateTokens h
    · simp at h
  · split at h
    · rename_i hc
      exact Nat.le_trans (left_of_inflateTokens h) (left_of_readCodes hc)
    · simp at h
  · simp at h

def inflate (r : BitReader) (out : Array UInt8) : Except Fault BitReader × Array UInt8 :=
  match _h : r.number 3 with
  | .error e => (.error e, out)
  | .ok (head, s) =>
    match _hb : inflateBlock (head / 2) s out with
    | (.error e, out) => (.error e, out)
    | (.ok t, out) => if head % 2 = 1 then (.ok t, out) else inflate t out
termination_by r.left
decreasing_by
  have := BitReader.left_of_number _h
  have := left_of_inflateBlock _hb
  omega

theorem left_of_inflate {r t : BitReader} {out all : Array UInt8}
    (h : inflate r out = (.ok t, all)) : t.left < r.left := by
  fun_induction inflate r out with
  | case1 => simp at h
  | case2 => simp at h
  | case3 _ _ _ _ hn _ _ hb _ =>
    have := BitReader.left_of_number hn
    have := left_of_inflateBlock hb
    simp_all
    omega
  | case4 _ _ _ _ hn _ _ hb _ ih =>
    have := BitReader.left_of_number hn
    have := left_of_inflateBlock hb
    have := ih h
    omega

end PullStreams.Deflate
