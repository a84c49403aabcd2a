import PullStreams.Codec.Basic
import PullStreams.Double.Writer

namespace PullStreams.Bench
open Double

inductive WriteStep where
  | bytes (bs : Bytes)
  | flush

def runWrites {ω : Type} [ByteWriter ω] [PatientWriter ω] :
    List WriteStep → ω → List (Except IoFault Unit) × ω
  | [], w => ([], w)
  | step :: rest, w =>
    let (result, w) :=
      match step with
      | .bytes bs => ByteWriter.writeAll bs w
      | .flush => ByteWriter.flush w
    (runWrites rest w).map (result :: ·) id

structure Written where
  results : List (Except IoFault Unit)
  /-- How many bytes the target had before the end. -/
  before : Nat
  /-- There is none if the writer was let go. -/
  ending : Option (Except IoFault Unit)
  bytes : Bytes

def writeThrough (c : Codec) (limit : Nat) (steps : List WriteStep) (finishes : Bool) :
    Except Report Written :=
  (c.openWriter ({ limit } : LimitedWriter)).map fun w =>
    let (results, w) := runWrites steps w
    let before := (c.target w).bytes.length
    if finishes then
      let (ending, w) := FinishWriter.finish w
      { results, before, ending := some ending, bytes := (c.target w).bytes }
    else { results, before, ending := none, bytes := (c.target (ByteWriter.abandon w)).bytes }

end PullStreams.Bench
