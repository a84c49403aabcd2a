import PullStreams.Codec.Basic
import PullStreams.Codec.Checksum
import PullStreams.Codec.Deflate.Delivery

namespace PullStreams.Gzip

inductive Fault where
  | cutShort
  | notGzip
  | longField
  | cutData
  | corruptData
  | mismatch
  deriving DecidableEq, Repr

namespace Fault

def isEnd : Fault → Bool
  | .cutShort | .cutData => true
  | _ => false

def toIoFault : Fault → IoFault
  | .cutShort => ⟨.unexpectedEnd, "unexpected end of file"⟩
  | .notGzip => ⟨.invalid, "invalid gzip header"⟩
  | .longField => ⟨.invalid, "gzip header field too long"⟩
  | .cutData => ⟨.invalid, "incomplete deflate stream"⟩
  | .corruptData => ⟨.invalid, "corrupt deflate stream"⟩
  | .mismatch => ⟨.invalid, "corrupt gzip stream does not have a matching checksum"⟩

end Fault

def magic : Bytes := [0x1f, 0x8b]

abbrev Skip := Bytes → Except Fault Bytes

namespace Skip

def bytes (n : Nat) : Skip := fun bs =>
  if bs.length < n then .error .cutShort else .ok (bs.drop n)

/-- A text, which ends with a zero, of at most `room` bytes. -/
def text : Nat → Skip
  | _, [] => .error .cutShort
  | room, b :: rest =>
    if b = 0 then .ok rest
    else
      match room with
      | 0 => .error .longField
      | room + 1 => text room rest

def counted : Skip := fun bs => (bytes 2 bs).bind (bytes (LittleEndian.decode (bs.take 2)))

/-- The low half of the checksum of what was read of `all` so far. -/
def halfChecksum (all : Bytes) : Skip := fun bs =>
  let checksum := Checksum.crc32 (all.take (all.length - bs.length))
  if bs.length < 2 then .error .cutShort
  else if LittleEndian.decode (bs.take 2) = checksum.toNat % 0x10000 then .ok (bs.drop 2)
  else .error .mismatch

def onlyIf (isThere : Bool) (p : Skip) : Skip := fun bs => if isThere then p bs else .ok bs

def andThen (p q : Skip) : Skip := fun bs => (p bs).bind q

def longestText : Nat := 65535

def optionalParts (all : Bytes) (flags : UInt8) : Skip :=
  (onlyIf (flags &&& 4 ≠ 0) counted).andThen <|
    (onlyIf (flags &&& 8 ≠ 0) (text longestText)).andThen <|
    (onlyIf (flags &&& 16 ≠ 0) (text longestText)).andThen <|
    onlyIf (flags &&& 2 ≠ 0) (halfChecksum all)

def header : Skip := fun all =>
  match all with
  | m₀ :: m₁ :: method :: flags :: _ :: _ :: _ :: _ :: _ :: _ :: rest =>
    if [m₀, m₁] ≠ magic || method ≠ 8 || flags &&& 0xe0 ≠ 0 then .error .notGzip
    else optionalParts all flags rest
  | _ => .error .cutShort

def trailer (out : Bytes) : Skip := fun bs =>
  if bs.length < 8 then .error .cutShort
  else if LittleEndian.decode (bs.take 4) = (Checksum.crc32 out).toNat ∧
      LittleEndian.decode ((bs.drop 4).take 4) = out.length % 0x100000000 then .ok (bs.drop 8)
  else .error .mismatch

def Shortens (p : Skip) : Prop := ∀ bs rest, p bs = .ok rest → rest.length ≤ bs.length

theorem shortens_bytes (n : Nat) : Shortens (bytes n) := fun bs rest h => by
  unfold bytes at h
  split at h <;> simp at h
  simp [← h]

theorem shortens_text (room : Nat) : Shortens (text room) := fun bs rest h => by
  fun_induction text room bs with
  | case1 => simp at h
  | case2 => simp_all
  | case3 => simp at h
  | case4 b bs hb room ih => exact Nat.le_succ_of_le (ih h)

theorem shortens_andThen {p q : Skip} (hp : Shortens p) (hq : Shortens q) :
    Shortens (p.andThen q) :=
  fun bs rest h => by
    unfold andThen at h
    cases hb : p bs with
    | error e => simp [hb, Except.bind] at h
    | ok t =>
      simp only [hb, Except.bind] at h
      exact Nat.le_trans (hq _ _ h) (hp _ _ hb)

theorem shortens_counted : Shortens counted := fun bs rest h =>
  shortens_andThen (shortens_bytes 2) (shortens_bytes _) bs rest h

theorem shortens_onlyIf {isThere : Bool} {p : Skip} (hp : Shortens p) :
    Shortens (onlyIf isThere p) := fun bs rest h => by
  unfold onlyIf at h
  split at h
  · exact hp _ _ h
  · simp_all

theorem shortens_halfChecksum (all : Bytes) : Shortens (halfChecksum all) := fun bs rest h => by
  simp only [halfChecksum] at h
  split at h
  · simp at h
  · split at h <;> simp at h
    simp [← h]

theorem shortens_trailer (out : Bytes) : Shortens (trailer out) := fun bs rest h => by
  unfold trailer at h
  split at h
  · simp at h
  · split at h <;> simp at h
    simp [← h]

theorem shortens_header : Shortens header := fun all rest h => by
  unfold header at h
  split at h
  · split at h
    · simp at h
    · have := shortens_andThen (shortens_onlyIf shortens_counted)
        (shortens_andThen (shortens_onlyIf (shortens_text _))
          (shortens_andThen (shortens_onlyIf (shortens_text _))
            (shortens_onlyIf (shortens_halfChecksum _)))) _ _ h
      simp only [List.length_cons]
      omega
  · simp at h

end Skip

/-- What is in a member, with what follows it or the fault that ends it. Each of `remainders` is the
number of bytes that are left after a piece, the last first. -/
def readMember (room : Nat) (remainders : List Nat) (bytes : Bytes) :
    Except Fault Bytes × Bytes :=
  match Skip.header bytes with
  | .error e => (.error e, [])
  | .ok rest =>
    match Deflate.inflate { bytes := rest } #[] with
    | (.error .short, out) => (.error .cutData, out.toList)
    | (.error (.corrupt left), out) =>
      let remainder := (remainders.find? fun n => left < 8 * n).getD rest.length
      let count := Deflate.delivered room rest (rest.length - remainder) out.size
      (.error .corruptData, out.toList.take count)
    | (.ok r, out) => (Skip.trailer out.toList r.bytes, out.toList)

theorem length_of_readMember {room : Nat} {remainders : List Nat} {bytes rest out : Bytes}
    (h : readMember room remainders bytes = (.ok rest, out)) : rest.length < bytes.length := by
  unfold readMember at h
  split at h
  · simp at h
  · rename_i hh
    have := Skip.shortens_header _ _ hh
    split at h
    · simp at h
    · simp at h
    · rename_i hi
      have := Deflate.left_of_inflate hi
      simp only [Prod.mk.injEq] at h
      have := Skip.shortens_trailer _ _ _ h.1
      simp only [Deflate.BitReader.left, List.length_nil] at *
      omega

/-- What is in each of a row of members, with the fault that ends it. -/
def readMembers (room : Nat) (remainders : List Nat) (bytes : Bytes) :
    List Bytes × Option Fault :=
  match _h : readMember room remainders bytes with
  | (.error e, out) => ([out], some e)
  | (.ok [], out) => ([out], none)
  | (.ok (b :: rest), out) => (readMembers room remainders (b :: rest)).map (out :: ·) id
termination_by bytes.length
decreasing_by exact length_of_readMember _h

/-- Where the data end too early, the fault of the reader counts if it has one. -/
def decode (demand : Demand) (f : Feed) : Feed :=
  match readMembers demand.size f.remainders f.bytes with
  | (members, none) => .ofPieces members f.fault
  | (members, some e) =>
    .ofPieces members ((if e.isEnd then f.fault else none).or (some e.toIoFault))

/-- A header without optional parts, of an unknown time and system. -/
def header : Bytes := magic ++ [8, 0, 0, 0, 0, 0, 0, 0xff]

def storedBlock (isLast : Bool) (bs : Bytes) : Bytes :=
  (if isLast then 1 else 0) :: LittleEndian.encode 2 bs.length ++
    LittleEndian.encode 2 (0xFFFF - bs.length) ++ bs

def framing : Framing where
  opening := header
  blockSize := 0xFFFF
  block := storedBlock
  marksFlush := true
  trailer checksum count :=
    LittleEndian.encode 4 checksum.toNat ++ LittleEndian.encode 4 count

def codec : Codec :=
  { Packing.packed framing with
    name := "gzip"
    extensions := [".gz", ".gzip"]
    magic := some magic
    readSize := 0x8000
    decode := fun demand f => .ok (decode demand f) }

end PullStreams.Gzip
