import PullStreams.Text.Utf8

namespace PullStreams.Deflate

inductive Fault where
  /-- The data end too early. -/
  | short
  /-- There are `left` bits after those that show it. -/
  | corrupt (left : Nat)
  deriving DecidableEq, Repr

/-- Bytes read bit by bit, the lowest bit of a byte first. `pending` is what is left of a byte. -/
structure BitReader where
  pending : List Bool := []
  bytes : Bytes

namespace BitReader

def left (r : BitReader) : Nat := r.pending.length + 8 * r.bytes.length

def next (r : BitReader) : Except Fault (Bool × BitReader) :=
  match r.pending, r.bytes with
  | bit :: pending, _ => .ok (bit, { r with pending })
  | [], b :: bytes =>
    .ok (b.toNat.testBit 0, ⟨[1, 2, 3, 4, 5, 6, 7].map b.toNat.testBit, bytes⟩)
  | [], [] => .error .short

/-- A number of `width` bits, the lowest first. -/
def number : Nat → BitReader → Except Fault (Nat × BitReader)
  | 0, r => .ok (0, r)
  | width + 1, r => do
    let (bit, r) ← r.next
    let (n, r) ← number width r
    .ok (bit.toNat + 2 * n, r)

@[simp] def refuse {α : Type} (r : BitReader) : Except Fault α := .error (.corrupt r.left)

def align (r : BitReader) : BitReader := { r with pending := [] }

theorem left_of_next {r t : BitReader} {bit : Bool} (h : r.next = .ok (bit, t)) :
    t.left + 1 = r.left := by
  obtain ⟨pending, bytes⟩ := r
  cases pending with
  | cons b pending =>
    simp only [next, Except.ok.injEq, Prod.mk.injEq] at h
    simp [left, ← h.2]
    omega
  | nil =>
    cases bytes with
    | nil => simp [next] at h
    | cons b bytes =>
      simp only [next, Except.ok.injEq, Prod.mk.injEq] at h
      simp [left, ← h.2]
      omega

theorem left_of_number {width n : Nat} {r t : BitReader} (h : r.number width = .ok (n, t)) :
    t.left + width = r.left := by
  induction width generalizing r t n with
  | zero =>
    simp only [number, Except.ok.injEq, Prod.mk.injEq] at h
    simp [h.2]
  | succ width ih =>
    simp only [number, bind, Except.bind] at h
    split at h
    · simp at h
    · rename_i p hp
      split at h
      · simp at h
      · rename_i q hq
        simp only [Except.ok.injEq, Prod.mk.injEq] at h
        have := left_of_next hp
        have := ih hq
        simp only [← h.2]
        omega

/-- What is made of the number has no part in this. -/
theorem left_of_map_number {α : Type u} {f : Nat → α} {a : α} {width : Nat} {r t : BitReader}
    (h : (r.number width).map (fun p => (f p.1, p.2)) = .ok (a, t)) : t.left ≤ r.left := by
  cases hn : r.number width with
  | error e => simp [hn, Except.map] at h
  | ok p =>
    have := left_of_number (n := p.1) (t := p.2) hn
    simp only [hn, Except.map, Except.ok.injEq, Prod.mk.injEq] at h
    simp only [← h.2]
    omega

theorem left_align (r : BitReader) : r.align.left ≤ r.left := by
  simp [align, left]

end BitReader
end PullStreams.Deflate
