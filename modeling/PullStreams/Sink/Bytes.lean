import PullStreams.Sink
import PullStreams.ByteWriter

namespace PullStreams

/-- Writes byte strings to `writer`, and ends with `finish`. The first failure stays: it answers
every later write and flush, and the writer is not touched again. -/
structure ByteSink (ω : Type u) where
  writer : ω
  finish : ω → Except IoFault Unit × ω
  isOpen : Bool := true
  written : Nat := 0
  failure : Option StreamFault := none

namespace ByteSink
variable {ω : Type u} [ByteWriter ω]

def ofWriter (writer : ω) : ByteSink ω := { writer, finish := ByteWriter.flush }

def finishing (writer : ω) (finish : ω → Except IoFault Unit × ω) : ByteSink ω := { writer, finish }

def fail (d : ByteSink ω) (writer : ω) (e : IoFault) : StreamFault × ByteSink ω :=
  (.io e, { d with writer, failure := some (.io e) })

def write [PatientWriter ω] (bs : Bytes) (d : ByteSink ω) : Except StreamFault Nat × ByteSink ω :=
  match d.failure with
  | some e => (.error e, d)
  | none =>
    if d.isOpen then
      match ByteWriter.writeAll bs d.writer with
      | (.ok (), writer) => (.ok bs.length, { d with writer, written := d.written + bs.length })
      | (.error e, writer) => (d.fail writer e).map .error id
    else (.error .closed, d)

def flush (d : ByteSink ω) : Except StreamFault Unit × ByteSink ω :=
  match d.failure with
  | some e => (.error e, d)
  | none =>
    if d.isOpen then
      match ByteWriter.flush d.writer with
      | (.ok (), writer) => (.ok (), { d with writer })
      | (.error e, writer) => (d.fail writer e).map .error id
    else (.error .closed, d)

/-- A sink that has failed lets its writer go unfinished, and that is no new failure. -/
def close (d : ByteSink ω) : Except StreamFault Unit × ByteSink ω :=
  if d.isOpen then
    if d.failure.isSome then
      (.ok (), { d with writer := ByteWriter.abandon d.writer, isOpen := false })
    else
      match d.finish d.writer with
      | (.ok (), writer) => (.ok (), { d with writer, isOpen := false })
      | (.error e, writer) => (fail { d with isOpen := false } writer e).map .error id
  else (.ok (), d)

def release (d : ByteSink ω) : ω := if d.isOpen then ByteWriter.abandon d.writer else d.writer

instance [PatientWriter ω] : Sink (ByteSink ω) Bytes where
  write := write
  flush := flush
  close := close

end ByteSink
end PullStreams
