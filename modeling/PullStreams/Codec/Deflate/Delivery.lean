import PullStreams.Codec.Deflate.Inflate

namespace PullStreams.Deflate

def windowSize : Nat := 0x8000

/-- How much gets out, to a reader with room for `room` bytes, of data whose first `count` bytes
were a piece and which are corrupt after `size` bytes of output. A window that is ended within the
room is not given alone. -/
def delivered (room : Nat) (bytes : Bytes) (count size : Nat) : Nat :=
  let atPiece := (inflate { bytes := bytes.take count } #[]).2.size
  let atWindow := windowSize * ((size - 1) / windowSize)
  if atPiece < atWindow && atWindow < atPiece + room then atPiece else max atPiece atWindow

end PullStreams.Deflate
