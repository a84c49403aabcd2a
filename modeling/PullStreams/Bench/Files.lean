import PullStreams.Bench.Session
import PullStreams.Files

namespace PullStreams.Bench

inductive FileStep where
  | write (path : Path) (bs : Bytes)
  | makeDirectory (path : Path)
  | rename (path target : Path)
  | contains (path : Path)
  | read (path : Path)
  | head (path : Path) (n : Nat)
  | tail (path : Path) (n : Nat)
  | lines (path : Path)
  | jsonLines (shape : Shape) (path : Path)
  | rows (options : Csv.Options) (shape : Shape) (path : Path)
  | sink (path : Path) (calls : List SinkCall)
  | render (format : Format Value) (plan : Plan) (path : Path)
  /-- Reads the lines of a file that is there for the time of the step. -/
  | temporary (file : Option (String × Bytes))

structure Contents where
  items : List Value
  error : Option StreamFault
  close : Except StreamFault Unit

inductive FileAnswer where
  | done (result : Except IoFault Unit)
  | bool (b : Bool)
  | bytes (result : Except IoFault Bytes)
  | part (result : Except IoFault Bytes)
  | contents (result : Except Report Contents)
  | sink (result : Except Report (List Answer × Nat))
  | rendered (result : Except Report Nat)
  | temporary (contents : Except Report Contents) (isNamed existed isLeft : Bool)

def Contents.ofSource {σ : Type u} {α : Type v} [Source σ α] [FiniteSource σ] (view : α → Value)
    (s : σ) : Contents :=
  let (items, s) := Source.drain s
  { items := items.map view, error := Source.error s, close := (Source.close s).1 }

def Contents.ofRows {sep : Csv.Separator} {decode : Csv.RowDecoder Value} [Inhabited Value]
    (s : Csv.RowsSource Feed sep decode) : Contents :=
  .ofSource id s

def contentsOfLines (d : Directory) (path : Path) : Except Report Contents :=
  (d.openLines path).map (.ofSource .text)

def runCalls {τ : Type u} [Sink τ Value] : List SinkCall → τ → List Answer × τ
  | [], d => ([], d)
  | call :: rest, d =>
    let (answer, d) := call.apply d
    (runCalls rest d).map (answer :: ·) id

def writeFile (sink : FileSink) (calls : List SinkCall) : (List Answer × Nat) × OpenFile :=
  let start : Converted FileSink Value.toBytes := ⟨sink⟩
  let (answers, ⟨sink⟩) := runCalls calls start
  ((answers, sink.written), sink.release)

def readFile (d : Directory) (path : Path) : Except IoFault Bytes :=
  (d.openFile path).bind fun f => f.fault.elim (.ok f.bytes) .error

def writeBytes (d : Directory) (path : Path) (bs : Bytes) : Except IoFault Directory :=
  (d.createFile path).map (·.fill path bs)

def readTemporary (d : Directory) (ending : String) (bs : Bytes) : FileAnswer :=
  let before : Directory := { name := d.name }
  let name := ".tmp" ++ ending
  let path := Path.ofText name
  let there := (writeBytes before path bs).toOption.getD before
  .temporary (contentsOfLines there path) (name.endsWith ending) (there.contains path)
    (before.contains path)

def changed (d : Directory) (result : Except IoFault Directory) : FileAnswer × Directory :=
  match result with
  | .ok d => (.done (.ok ()), d)
  | .error e => (.done (.error e), d)

def FileStep.apply (d : Directory) : FileStep → FileAnswer × Directory
  | .write path bs => changed d (writeBytes d path bs)
  | .makeDirectory path => changed d (d.makeDirectory path)
  | .rename path target => changed d (d.rename path target)
  | .contains path => (.bool (d.contains path), d)
  | .read path => (.bytes (readFile d path), d)
  | .head path n => (.part ((readFile d path).map (·.take n)), d)
  | .tail path n => (.part ((readFile d path).map fun bs => bs.drop (bs.length - n)), d)
  | .lines path => (.contents (contentsOfLines d path), d)
  | .jsonLines shape path =>
    let _ : Inhabited Value := ⟨shape.blank⟩
    (.contents ((d.openJsonLines (Json.decode shape) path).map (.ofSource id)), d)
  | .rows options shape path =>
    let _ : Inhabited Value := ⟨shape.blank⟩
    (.contents ((d.openRows options (Csv.decode shape) path).map .ofRows), d)
  | .sink path calls =>
    match d.createSink path with
    | (.error e, d) => (.sink (.error e), d)
    | (.ok opened, d) =>
      let (answers, f) := writeFile opened calls
      (.sink (.ok answers), d.keep path f)
  | .render format plan path => (d.writeToPath format plan.stream.state path).map .rendered id
  | .temporary none => (readTemporary d "" [], d)
  | .temporary (some (extension, bs)) => (readTemporary d ("." ++ extension) bs, d)

end PullStreams.Bench
