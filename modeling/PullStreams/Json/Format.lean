import PullStreams.Render
import PullStreams.Json.Encode

namespace PullStreams.Json
variable {α : Type u}

def arrayFormat (encode : α → Except Fault Bytes) : Format α where
  opening := Utf8.bytesOf "["
  record count a :=
    match encode a with
    | .ok bs => .ok (if count = 0 then bs else Utf8.bytesOf "," ++ bs)
    | .error e => .error (.json e)
  closing := Utf8.bytesOf "]"

def linesFormat (encode : α → Except Fault Bytes) : Format α where
  record _ a :=
    match encode a with
    | .ok bs => .ok (bs ++ Utf8.bytesOf "\n")
    | .error e => .error (.json e)

end PullStreams.Json
