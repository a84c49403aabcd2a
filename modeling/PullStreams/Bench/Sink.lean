import PullStreams.Value
import PullStreams.Sink.Bytes
import PullStreams.Sink.Converted
import PullStreams.Double.Sink
import PullStreams.Double.Writer

namespace PullStreams.Bench
open Double

inductive SinkView where
  | items (items : List Value)
  | flushed (items : List Value) (flushes : Nat)
  | closed (items : List Value) (flushes closes : Nat)
  /-- The bytes are out of sight once the sink is closed. -/
  | bytes (bytes : Option Bytes) (written : Nat)
  | writer (writer : FickleWriter) (written : Nat) (isOpen : Bool)

structure Destination where
  State : Type
  [sink : Sink State Value]
  state : State
  look : State → SinkView

attribute [instance] Destination.sink

inductive SinkPlan where
  | list
  | limitedItems (limit : Option Nat)
  | limitedBytes (limit : Nat)
  | writer (writer : FickleWriter)
      (finish : FickleWriter → Except IoFault Unit × FickleWriter)
  | script (sink : ScriptedSink Value)

def SinkPlan.destination : SinkPlan → Destination
  | .list =>
    { State := ListSink Value
      state := {}
      look := fun d => .items d.items }
  | .limitedItems limit =>
    { State := LimitedSink Value
      state := { limit }
      look := fun d => .flushed d.items d.flushes }
  | .limitedBytes limit =>
    { State := Converted (ByteSink LimitedWriter) Value.toBytes
      state := ⟨.ofWriter { limit }⟩
      look := fun ⟨d⟩ => .bytes (if d.isOpen then some d.writer.bytes else none) d.written }
  | .writer w finish =>
    { State := Converted (ByteSink FickleWriter) Value.toBytes
      state := ⟨.finishing w finish⟩
      look := fun ⟨d⟩ => .writer d.writer d.written d.isOpen }
  | .script d =>
    { State := ScriptedSink Value
      state := d
      look := fun d => .closed d.items d.flushes d.closes }

end PullStreams.Bench
