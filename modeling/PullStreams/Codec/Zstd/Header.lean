import PullStreams.Codec.LittleEndian
import PullStreams.Fault

namespace PullStreams.Zstd

inductive Fault where
  | unknownFormat
  | oldVersion
  | unsupported
  | largeWindow
  | otherDictionary
  | corrupt
  /-- A block has more bytes than there is room for. -/
  | noRoom
  | wrongSize
  | generic
  /-- The data ended within a frame. -/
  | incomplete
  deriving DecidableEq, Repr

def Fault.toIoFault : Fault → IoFault
  | .unknownFormat => ⟨.other, "Unknown frame descriptor"⟩
  | .oldVersion => ⟨.other, "Version not supported"⟩
  | .unsupported => ⟨.other, "Unsupported frame parameter"⟩
  | .largeWindow => ⟨.other, "Frame requires too much memory for decoding"⟩
  | .otherDictionary => ⟨.other, "Dictionary mismatch"⟩
  | .corrupt => ⟨.other, "Data corruption detected"⟩
  | .noRoom => ⟨.other, "Destination buffer is too small"⟩
  | .wrongSize => ⟨.other, "Src size is incorrect"⟩
  | .generic => ⟨.other, "Error (generic)"⟩
  | .incomplete => ⟨.unexpectedEnd, "incomplete frame"⟩

def magic : Bytes := [0x28, 0xb5, 0x2f, 0xfd]

def blockLimit : Nat := 128 * 1024

structure Header where
  /-- How many of the last bytes the blocks may refer to. -/
  window : Nat
  /-- The number of bytes in the frame, if it is told. -/
  content : Option Nat
  hasChecksum : Bool
  /-- There is none if it is zero. -/
  dictionary : Nat

namespace Header

/-- The frame is to be decoded into one piece of memory, which is its window. -/
def isSingle (descriptor : UInt8) : Bool := descriptor &&& 0x20 ≠ 0

def windowWidth (descriptor : UInt8) : Nat := if isSingle descriptor then 0 else 1

def dictionaryWidth (descriptor : UInt8) : Nat := #[0, 1, 2, 4].getD (descriptor &&& 3).toNat 0

def contentWidth (descriptor : UInt8) : Nat :=
  #[if isSingle descriptor then 1 else 0, 2, 4, 8].getD (descriptor >>> 6).toNat 0

def width (descriptor : UInt8) : Nat :=
  windowWidth descriptor + dictionaryWidth descriptor + contentWidth descriptor

/-- The value of a content field that tells nothing. -/
def unknown : Nat := 0xFFFFFFFFFFFFFFFF

/-- A window is a power of two and up to seven eighths more. -/
def windowSize (log eighths : Nat) : Nat := 1 <<< log + (1 <<< log) / 8 * eighths

def windowLog (b : UInt8) : Nat := b.toNat / 8 + 10

def largestWindowLog : Nat := 31

def ofFields (descriptor : UInt8) (fields : Bytes) : Except Fault Header :=
  let (windowField, fields) := fields.splitAt (windowWidth descriptor)
  let (dictionaryField, contentField) := fields.splitAt (dictionaryWidth descriptor)
  let told := LittleEndian.decode contentField + if contentField.length = 2 then 256 else 0
  let content := if contentField.isEmpty || told = unknown then none else some told
  let header (window : Nat) : Header :=
    { window, content, hasChecksum := descriptor &&& 4 ≠ 0,
      dictionary := LittleEndian.decode dictionaryField }
  if descriptor &&& 8 ≠ 0 then .error .unsupported
  else
    match windowField with
    | [] => .ok (header told)
    | b :: _ =>
      if windowLog b > largestWindowLog then .error .largeWindow
      else .ok (header (windowSize (windowLog b) (b.toNat % 8)))

def largestBlock (h : Header) : Nat := min h.window blockLimit

def allows (h : Header) (length : Nat) : Bool := h.content.all (· = length)

end Header

inductive BlockKind where
  /-- Bytes as they are. -/
  | raw
  /-- One byte many times. -/
  | repeated
  | compressed
  | reserved
  deriving DecidableEq, Repr

structure Block where
  isLast : Bool
  kind : BlockKind
  size : Nat

namespace Block

def ofBytes (head : Bytes) : Block :=
  let n := LittleEndian.decode head
  { isLast := n % 2 = 1
    kind := #[.raw, .repeated, .compressed].getD (n / 2 % 4) .reserved
    size := n / 8 }

def stored (b : Block) : Nat := if b.kind = .repeated then 1 else b.size

/-- What the stored bytes stand for. That compressed bytes stand for something is not known here. -/
def content (b : Block) (stored : Bytes) : Except Fault Bytes :=
  match b.kind with
  | .raw => .ok stored
  | .repeated => .ok (stored.flatMap (List.replicate b.size))
  | _ => .error .corrupt

end Block
end PullStreams.Zstd
