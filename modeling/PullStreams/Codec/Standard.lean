import PullStreams.Codec.Gzip
import PullStreams.Codec.Zstd

namespace PullStreams

def Codec.standard : List Codec := [Gzip.codec, Zstd.codec]

end PullStreams
