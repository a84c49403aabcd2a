import PullStreams.Source
import PullStreams.Sink

namespace PullStreams.Transfer
variable {σ : Type u} {α : Type v} [Source σ α] {τ : Type w} [Sink τ α]

/-- Offers the sink the current item, and adds up the units taken. -/
def offer (tally : Nat × τ) (t : σ) : Except (PartialTransfer × τ) (Nat × τ) :=
  match Sink.write (Source.current t) tally.2 with
  | (.ok n, sink) => .ok (tally.1 + n, sink)
  | (.error e, sink) => .error (⟨tally.1, e⟩, sink)

/-- Copies into one sink. A source that yields for ever is copied up to an item that is refused. -/
def copy (source : σ) (sink : τ) [Source.SweepEnds offer (0, sink) source] :
    Except PartialTransfer Nat × σ × τ :=
  match Source.sweep offer (0, sink) source with
  | (.error (e, sink), source) => (.error e, source, sink)
  | (.ok (n, sink), source) =>
    match failure? (Source.error source) with
    | some e => (.error ⟨n, e⟩, source, sink)
    | none =>
      match Sink.flush sink with
      | (.ok (), sink) => (.ok n, source, sink)
      | (.error e, sink) => (.error ⟨n, e⟩, source, sink)

structure Destination (τ : Type w) where
  sink : τ
  written : Nat := 0

def partialCopy (all : List (Destination τ)) (e : StreamFault) : PartialMulticast :=
  ⟨all.map (·.written), e⟩

def writeEach (a : α) : List (Destination τ) → Except StreamFault Unit × List (Destination τ)
  | [] => (.ok (), [])
  | d :: rest =>
    match Sink.write a d.sink with
    | (.error e, sink) => (.error e, { d with sink } :: rest)
    | (.ok n, sink) => (writeEach a rest).map id ({ sink, written := d.written + n } :: ·)

def flushEach : List (Destination τ) → Except StreamFault Unit × List (Destination τ)
  | [] => (.ok (), [])
  | d :: rest =>
    match Sink.flush d.sink with
    | (.error e, sink) => (.error e, { d with sink } :: rest)
    | (.ok (), sink) => (flushEach rest).map id ({ d with sink } :: ·)

def offerEach (all : List (Destination τ)) (t : σ) :
    Except (StreamFault × List (Destination τ)) (List (Destination τ)) :=
  match writeEach (Source.current t) all with
  | (.ok (), all) => .ok all
  | (.error e, all) => .error (e, all)

def settle (result : Except StreamFault Unit) (source : σ) (all : List (Destination τ)) :
    Except PartialMulticast (List Nat) × σ × List τ :=
  (match result with
    | .ok () => .ok (all.map (·.written))
    | .error e => .error (partialCopy all e),
    source, all.map (·.sink))

/-- Copying comes to an end. With no sink there is nothing to wait for. -/
class CopyEnds (source : σ) (sinks : List τ) : Prop where
  sweepEnds : sinks ≠ [] → Source.SweepEnds offerEach (sinks.map ({ sink := · })) source

instance {source : σ} {sinks : List τ} [Source.Ends source] : CopyEnds source sinks where
  sweepEnds _ := inferInstance

/-- Copies into many sinks. With none, the source is not touched. -/
def copyToEach (source : σ) (sinks : List τ) [hends : CopyEnds source sinks] :
    Except PartialMulticast (List Nat) × σ × List τ :=
  if h : sinks = [] then (.ok [], source, [])
  else
    haveI := hends.sweepEnds h
    match Source.sweep offerEach (sinks.map ({ sink := · })) source with
    | (.error (e, all), source) => settle (.error e) source all
    | (.ok all, source) =>
      match failure? (Source.error source) with
      | some e => settle (.error e) source all
      | none =>
        let (result, all) := flushEach all
        settle result source all

/-- Writes the items of a list, then flushes. -/
def writeAll (items : List α) (sink : τ) : Except StreamFault Nat × τ :=
  go 0 items sink
where
  go (written : Nat) : List α → τ → Except StreamFault Nat × τ
    | [], sink => (Sink.flush sink).map (·.map fun _ => written) id
    | a :: rest, sink =>
      match Sink.write a sink with
      | (.ok n, sink) => go (written + n) rest sink
      | (.error e, sink) => (.error e, sink)

end PullStreams.Transfer
