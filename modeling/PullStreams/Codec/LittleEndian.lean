import PullStreams.Text.Utf8

namespace PullStreams.LittleEndian

def encode : Nat → Nat → Bytes
  | 0, _ => []
  | width + 1, n => UInt8.ofNat n :: encode width (n / 256)

def decode : Bytes → Nat
  | [] => 0
  | b :: rest => b.toNat + 256 * decode rest

@[simp] theorem length_encode (width n : Nat) : (encode width n).length = width := by
  induction width generalizing n with
  | zero => rfl
  | succ width ih => simp [encode, ih]

theorem decode_encode {width n : Nat} (h : n < Nat.pow 256 width) :
    decode (encode width n) = n := by
  induction width generalizing n with
  | zero => exact (Nat.lt_one_iff.1 h).symm
  | succ width ih =>
    have h : n < 256 * Nat.pow 256 width := Nat.mul_comm _ 256 ▸ h
    simp only [encode, decode, ih (Nat.div_lt_of_lt_mul h), UInt8.toNat_ofNat']
    omega

end PullStreams.LittleEndian
