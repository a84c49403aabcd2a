import PullStreams.Bench.Sink
import PullStreams.Bench.Stream
import PullStreams.Consume
import PullStreams.Items
import PullStreams.Render
import PullStreams.Transfer

namespace PullStreams.Bench
open Double

inductive Target where
  | fickle (writer : FickleWriter)
  | limited (writer : LimitedWriter)

inductive StreamStep where
  | advance
  | current
  | error
  | close
  /-- Advances and looks. -/
  | look
  | probe
  | drain (limit : Nat)
  | collect
  | collectUnflagged
  | fold (r : Reducer) (tally : Value)
  | foldList (r : ListReducer)
  | foldMap (r : MapReducer) (key : Key)
  /-- Puts an operator over the stream, pulls some items and takes the operator away. -/
  | borrow (operator : Operator) (limit : Nat)
  | render (format : Format Value) (target : Target)

inductive ItemsStep where
  | next
  | all
  | closeFailure

inductive SinkCall where
  | write (v : Value)
  | flush
  | close
  | writeAll (items : List Value)

inductive Step where
  | stream (name : String) (step : StreamStep)
  /-- Makes an iterator of a stream. -/
  | items (name : String)
  | ofItems (name : String) (step : ItemsStep)
  | drop (name : String)
  | copy (name sink : String)
  | copyToEach (name : String) (sinks : List String)
  | sink (name : String) (call : SinkCall)
  | lookAtSink (name : String)
  /-- Takes a sink apart for its items. -/
  | intoItems (name : String)
  | counters
  | send (channel : String) (v : Value)
  | hangUp (channel : String)

inductive Answer where
  /-- There is nothing of the name, or nothing to say. -/
  | nothing
  | bool (b : Bool)
  | count (n : Nat)
  | value (v : Value)
  | fault (e : Option StreamFault)
  | done (result : Except StreamFault Unit)
  | seen (advanced : Bool) (v : Value) (e : Option StreamFault)
  | drained (items : List Value) (e : Option StreamFault)
  | collected (result : Except StreamFault (List Value))
  | folded (result : Except StreamFault Value)
  | table (result : Except StreamFault (List (String × List Value)))
  | rendered (result : Except PartialTransfer Nat) (target : Target)
  | ready
  | next (x : Option (Except StreamFault Value))
  | rest (xs : List (Except StreamFault Value))
  | dropped
  | copied (result : Except PartialTransfer Nat)
  | copiedToEach (result : Except PartialMulticast (List Nat))
  | written (result : Except StreamFault Nat)
  | sink (view : SinkView)
  | items (items : List Value)
  | counters (counters : List (String × Nat))

def takeItems {σ : Type u} {α : Type v} [Source σ α] : Nat → σ → List α × σ
  | 0, s => ([], s)
  | limit + 1, s =>
    match Source.advance s with
    | (true, s) =>
      let (items, t) := takeItems limit s
      (Source.current s :: items, t)
    | (false, s) => ([], s)

def Target.render {σ : Type u} [Source σ Value] [FiniteSource σ] (format : Format Value) (s : σ) :
    Target → Answer × σ
  | .fickle w =>
    let (result, s, w) := format.render s w
    (.rendered result (.fickle w), s)
  | .limited w =>
    let (result, s, w) := format.render s w
    (.rendered result (.limited w), s)

/-- The calls of the operator's function are the last part of the answer. -/
def borrow {σ : Type} [Source σ Value] [FiniteSource σ] (operator : Operator) (limit : Nat)
    (s : σ) : Answer × σ × List (String × Nat) :=
  let a := Stream.Applied.of s operator
  let (items, t) := takeItems limit a.state
  (.drained (items.map a.view) (Source.error t), a.inner t, a.counters t)

def collectPair (key : Key) (tally : Deque (String × Value)) (v : Value) :
    Deque (String × Value) :=
  tally.push ((key.of v tally.size).plain, v)

def MapReducer.table (r : MapReducer) (pairs : List (String × Value)) :
    List (String × List Value) :=
  (groupByKey pairs).map (·.map id r.apply)

namespace Stream

/-- The last part of the answer is for parts that are gone with the step. -/
def step (stream : Stream) : StreamStep → Answer × Stream × List (String × Nat)
  | .advance =>
    let (more, s) := Source.advance stream.state
    (.bool more, { stream with state := s }, [])
  | .current => (.value (Source.current stream.state), stream, [])
  | .error => (.fault (Source.error stream.state), stream, [])
  | .close =>
    let (result, s) := Source.close stream.state
    (.done result, { stream with state := s }, [])
  | .look =>
    let (more, s) := Source.advance stream.state
    (.seen more (Source.current s) (Source.error s), { stream with state := s }, [])
  | .probe => ((stream.probe stream.state).elim .nothing .count, stream, [])
  | .drain limit =>
    let (items, s) := takeItems limit stream.state
    (.drained items (Source.error s), { stream with state := s }, [])
  | .collect =>
    let (result, s) := Source.collect stream.state
    (.collected result, { stream with state := s }, [])
  | .collectUnflagged =>
    let (items, s) := Source.collectUnflagged stream.state
    (.collected (.ok items), { stream with state := s }, [])
  | .fold r tally =>
    let (result, s) := Source.fold r.apply tally stream.state
    (.folded result, { stream with state := s }, [])
  | .foldList r =>
    let (result, s) := Source.fold r.apply {} stream.state
    (.collected (result.map (·.toList)), { stream with state := s }, [])
  | .foldMap r key =>
    let (result, s) := Source.fold (collectPair key) {} stream.state
    (.table (result.map (r.table ·.toList)), { stream with state := s }, [])
  | .borrow operator limit =>
    let (answer, s, counters) := borrow operator limit stream.state
    (answer, { stream with state := s }, counters)
  | .render format target =>
    let (answer, s) := target.render format stream.state
    (answer, { stream with state := s }, [])

end Stream

inductive Held : Type 1 where
  | stream (s : Stream)
  | iterator (s : Stream) (items : Items s.State)

namespace Held

def counters : Held → List (String × Nat)
  | .stream s => s.counters s.state
  | .iterator s items => s.counters items.source

/-- An iterator that is let go before its end closes its source. -/
def release : Held → Held
  | .stream s => .stream s
  | .iterator s items => .iterator s items.finish

def send (channel : String) (v : Value) : Held → Option Held
  | .stream s => (s.send channel v s.state).map fun t => .stream { s with state := t }
  | .iterator s items =>
    (s.send channel v items.source).map fun source => .iterator s { items with source }

def step (step : ItemsStep) : Held → Answer × Held
  | .stream s => (.nothing, .stream s)
  | .iterator s items =>
    match step with
    | .next =>
      let (x, items) := items.next
      (.next x, .iterator s items)
    | .all =>
      let (xs, items) := items.toList
      (.rest xs, .iterator s items)
    | .closeFailure => (.fault items.closeFailure, .iterator s items)

end Held

def SinkCall.apply {τ : Type u} [Sink τ Value] (d : τ) : SinkCall → Answer × τ
  | .write v => (Sink.write v d).map .written id
  | .flush => (Sink.flush d).map .done id
  | .close => (Sink.close d).map .done id
  | .writeAll items => (Transfer.writeAll items d).map .written id

structure Session where
  streams : List (String × Held)
  sinks : List (String × Destination)
  /-- Channels whose sending end is still held. -/
  channels : List String := []
  /-- The counters of streams that are gone. -/
  past : List (String × Nat) := []

namespace Session

def put {β : Type u} (key : String) (b : β) (all : List (String × β)) : List (String × β) :=
  all.map fun (k, old) => if k = key then (k, b) else (k, old)

def remove {β : Type u} (key : String) (all : List (String × β)) : List (String × β) :=
  all.filter (·.1 ≠ key)

def putStream (w : Session) (name : String) (held : Held) : Session :=
  { w with streams := put name held w.streams }

def putSink (w : Session) (name : String) (d : Destination) : Session :=
  { w with sinks := put name d w.sinks }

def onStream (w : Session) (name : String) (f : Stream → Answer × Session) : Answer × Session :=
  match w.streams.lookup name with
  | some (.stream s) => f s
  | _ => (.nothing, w)

def onSink (w : Session) (name : String) (f : Destination → Answer × Session) : Answer × Session :=
  (w.sinks.lookup name).elim (.nothing, w) f

def sendToFirst (channel : String) (v : Value) :
    List (String × Held) → Option (List (String × Held))
  | [] => none
  | (name, held) :: rest =>
    match held.send channel v with
    | some held => some ((name, held) :: rest)
    | none => (sendToFirst channel v rest).map ((name, held) :: ·)

def sinksOf (w : Session) (names : List String) : Option (List (String × Destination)) :=
  names.mapM fun name => (w.sinks.lookup name).map (name, ·)

def copyToEach (w : Session) (name : String) (s : Stream) (all : List (String × Destination)) :
    Answer × Session :=
  let states : List ((i : Fin all.length) × all[i].2.State) :=
    (List.finRange all.length).map fun i => ⟨i, all[i].2.state⟩
  let (result, t, states) := Transfer.copyToEach s.state states
  let keep (w : Session) : (i : Fin all.length) × all[i].2.State → Session
    | ⟨i, d⟩ => w.putSink all[i].1 { all[i].2 with state := d }
  (.copiedToEach result, states.foldl keep (w.putStream name (.stream { s with state := t })))

def step (w : Session) : Step → Answer × Session
  | .stream name step =>
    w.onStream name fun s =>
      let (answer, s, past) := s.step step
      (answer, { w.putStream name (.stream s) with past := w.past ++ past })
  | .items name =>
    w.onStream name fun s => (.ready, w.putStream name (.iterator s (.ofSource s.state)))
  | .ofItems name step =>
    match w.streams.lookup name with
    | none => (.nothing, w)
    | some held =>
      let (answer, held) := held.step step
      (answer, w.putStream name held)
  | .drop name =>
    match w.streams.lookup name with
    | none => (.nothing, w)
    | some held =>
      (.dropped,
        { w with streams := remove name w.streams, past := w.past ++ held.release.counters })
  | .copy name sink =>
    w.onStream name fun s => w.onSink sink fun d =>
      let (result, t, e) := Transfer.copy s.state d.state
      (.copied result,
        (w.putStream name (.stream { s with state := t })).putSink sink { d with state := e })
  | .copyToEach name sinks =>
    w.onStream name fun s => (w.sinksOf sinks).elim (.nothing, w) (w.copyToEach name s)
  | .sink name call =>
    w.onSink name fun d =>
      let (answer, s) := call.apply d.state
      (answer, w.putSink name { d with state := s })
  | .lookAtSink name => w.onSink name fun d => (.sink (d.look d.state), w)
  | .intoItems name =>
    w.onSink name fun d =>
      (match d.look d.state with
        | .items items => .items items
        | _ => .nothing,
        { w with sinks := remove name w.sinks })
  | .counters => (.counters (w.past ++ w.streams.flatMap (·.2.counters)), w)
  | .send channel v =>
    if channel ∈ w.channels then
      match sendToFirst channel v w.streams with
      | some streams => (.bool true, { w with streams })
      | none => (.bool false, w)
    else (.nothing, w)
  | .hangUp channel =>
    (.bool (w.channels.contains channel), { w with channels := w.channels.erase channel })

end Session
end PullStreams.Bench
