import PullStreams.Codec.Standard
import PullStreams.Csv.Format
import PullStreams.Csv.Source
import PullStreams.Directory
import PullStreams.Json.Lines
import PullStreams.Render
import PullStreams.Sink.Bytes

namespace PullStreams
namespace Directory

def openReader (d : Directory) (p : Path) : Except Report Feed :=
  match d.openFile p with
  | .error e => .error (.context s!"open {d.title p}" (.io e))
  | .ok f =>
    (Codec.reader Codec.standard (d.title p) (.buffer ByteReader.bufferSize) f).mapError
      (.context s!"setup decompression for {d.title p}")

def openLines (d : Directory) (p : Path) : Except Report (LineSource Feed) :=
  (d.openReader p).map .ofReader

def openJsonLines {β : Type u} (decode : String → Except Json.Fault β) (d : Directory)
    (p : Path) : Except Report (Json.LinesSource Feed decode true) :=
  (d.openReader p).map .ofReader

def openRows {β : Type u} (options : Csv.Options) (decode : Csv.RowDecoder β) (d : Directory)
    (p : Path) : Except Report (Csv.RowsSource Feed options.separator decode) :=
  (d.openReader p).map (.ofReader options.hasHeaders)

def codecOf (d : Directory) (p : Path) : Codec := Codec.ofPath Codec.standard (d.title p)

def makeParents (d : Directory) (p : Path) : Except Report Unit × Directory :=
  match p.parent? with
  | none => (.ok (), d)
  | some parent =>
    (d.makeWay parent).map
      (·.mapError fun e => .context s!"mkdir -p {d.title parent}" (.io e)) id

def createWriter (c : Codec) (d : Directory) (p : Path) :
    Except Report (c.Writer OpenFile) × Directory :=
  match d.makeParents p with
  | (.error e, d) => (.error e, d)
  | (.ok (), d) =>
    match d.createFile p with
    | .error e => (.error (.context s!"create {d.title p}" (.io e)), d)
    | .ok d => ((c.openWriter {}).mapError (.context s!"setup compression for {d.title p}"), d)

def keep (d : Directory) (p : Path) (f : OpenFile) : Directory := d.fill p f.contents

end Directory

structure FileSink where
  codec : Codec
  sink : ByteSink (codec.Writer OpenFile)

namespace FileSink

def ofWriter (c : Codec) (w : c.Writer OpenFile) : FileSink :=
  { codec := c, sink := .finishing w FinishWriter.finish }

instance : Sink FileSink Bytes where
  write bs d := (Sink.write bs d.sink).map id ({ d with sink := · })
  flush d := (Sink.flush d.sink).map id ({ d with sink := · })
  close d := (Sink.close d.sink).map id ({ d with sink := · })

def written (d : FileSink) : Nat := d.sink.written

def release (d : FileSink) : OpenFile := d.codec.target d.sink.release

end FileSink

namespace Directory

def createSinkThrough (c : Codec) (d : Directory) (p : Path) :
    Except Report FileSink × Directory :=
  (d.createWriter c p).map (·.map (.ofWriter c)) id

/-- A sink whose file is complete once the sink has been closed. -/
def createSink (d : Directory) (p : Path) : Except Report FileSink × Directory :=
  d.createSinkThrough (d.codecOf p) p

def writeThrough {σ : Type u} {α : Type v} [Source σ α] [FiniteSource σ] (format : Format α)
    (source : σ) (c : Codec) (d : Directory) (p : Path) : Except Report Nat × Directory :=
  match d.createWriter c p with
  | (.error e, d) => (.error e, d)
  | (.ok w, d) =>
    match format.render source w with
    | (.error e, _, w) =>
      (.error (.context s!"write {d.title p}" (.ofChain e.chain)),
        d.keep p (c.target (ByteWriter.abandon w)))
    | (.ok n, _, w) =>
      let (result, w) := FinishWriter.finish w
      ((result.mapError fun e => .context s!"finish {d.title p}" (.io e)).map fun _ => n,
        d.keep p (c.target w))

/-- Renders a source into a file, and answers the number of records. -/
def writeToPath {σ : Type u} {α : Type v} [Source σ α] [FiniteSource σ] (format : Format α)
    (source : σ) (d : Directory) (p : Path) : Except Report Nat × Directory :=
  d.writeThrough format source (d.codecOf p) p

end Directory
end PullStreams
