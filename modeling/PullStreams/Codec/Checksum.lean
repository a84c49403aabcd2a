import PullStreams.Text.Utf8

namespace PullStreams.Checksum

/-- The polynomial with its bits in reverse. -/
def polynomial : UInt32 := 0xEDB88320

def shift (c : UInt32) : UInt32 := if c &&& 1 = 1 then (c >>> 1) ^^^ polynomial else c >>> 1

def update (c : UInt32) (b : UInt8) : UInt32 :=
  shift (shift (shift (shift (shift (shift (shift (shift (c ^^^ b.toUInt32))))))))

def start : UInt32 := 0xFFFFFFFF

def finish (c : UInt32) : UInt32 := c ^^^ 0xFFFFFFFF

def crc32 (bs : Bytes) : UInt32 := finish (bs.foldl update start)

end PullStreams.Checksum
