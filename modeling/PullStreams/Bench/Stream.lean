import PullStreams.Bench.Callback
import PullStreams.Source.Listed
import PullStreams.Source.Supplied
import PullStreams.Source.Choice
import PullStreams.Source.Concat
import PullStreams.Source.Viewed
import PullStreams.Operator.Filter
import PullStreams.Operator.Batch
import PullStreams.Operator.Group
import PullStreams.Operator.Flatten
import PullStreams.Json.Decode
import PullStreams.Json.Lines
import PullStreams.Csv.Decode
import PullStreams.Csv.Source
import PullStreams.Double.Reader
import PullStreams.Double.Source
import PullStreams.Double.Cursor
import PullStreams.Double.Supply

namespace PullStreams.Bench
open Double

/-- A source of values of any type, with what can be seen and done from outside. -/
structure Stream where
  State : Type
  [source : Source State Value]
  [finite : FiniteSource State]
  state : State
  /-- How often the named parts were called. -/
  counters : State → List (String × Nat) := fun _ => []
  probe : State → Option Nat := fun _ => none
  /-- Sends a value over the channel of the given name, if its receiver is within and listens. -/
  send : String → Value → State → Option State := fun _ _ _ => none

attribute [instance] Stream.source Stream.finite

inductive Operator where
  | map (name : Option String) (f : Function)
  | tryMap (name : Option String) (f : Attempt)
  | filter (name : Option String) (t : Test)
  | filterMap (name : Option String) (f : Selection)
  | batch (size : Nat)
  | group (name : Option String) (key : Key)
  | compact
  | flatten

inductive Plan where
  | values (items : List Value) (failure : Option StreamFault)
  | integers (items : List Int) (failure : Option StreamFault)
  | texts (items : List String) (failure : Option StreamFault)
  | iterator (name : Option String) (items : List Value)
  | counter (name : Option String) (start step : Int) (count : Nat)
  | channel (name : Option String) (items : List Value)
  | receiver (name : Option String) (items : List Value)
  | cursor (name : Option String) (cursor : ListCursor Value)
  | lines (reader : PieceReader)
  | jsonLines (shape : Shape) (skipsBlank : Bool) (reader : PieceReader)
  | rows (options : Csv.Options) (shape : Shape) (reader : PieceReader)
  | script (name : Option String) (script : ScriptedSource Value)
  | concat (members : List Plan)
  | chain (first second : Plan)
  | boxed (inner : Plan)
  | counted (name : Option String) (inner : Plan)
  | apply (operator : Operator) (inner : Plan)

def labelled (name : Option String) (n : Nat) : List (String × Nat) :=
  (name.map fun name => (name, n)).toList

namespace Stream

instance : Inhabited Stream := ⟨{ State := ListSource Value, state := .ofList [] }⟩

def listed {α : Type} [Inhabited α] (items : List α) (failure : Option StreamFault) :
    ListSource α :=
  { items, ending := failure.getD .ended }

/-- Sends to the first member that takes the value. -/
def sendToMember {σ : Type} (send : σ → Option σ) : List σ → Option (List σ)
  | [] => none
  | s :: rest =>
    match send s with
    | some s => some (s :: rest)
    | none => (sendToMember send rest).map (s :: ·)

def concatOf {σ : Type} [Source σ Value] [FiniteSource σ] (members : List σ)
    (counters : σ → List (String × Nat)) (send : String → Value → σ → Option σ) : Stream where
  State := Concat σ
  state := .ofList members
  counters c := (c.passed ++ c.ahead).flatMap counters
  send name v c :=
    match sendToMember (send name v) c.passed with
    | some passed => some { c with passed }
    | none => (sendToMember (send name v) c.ahead).map ({ c with ahead := · })

def concat (members : List Stream) : Stream :=
  let member (i : Fin members.length) : Stream := members[i]
  concatOf ((List.finRange members.length).map fun i =>
    (⟨i, (member i).state⟩ : (i : _) × (member i).State))
    (fun ⟨i, s⟩ => (member i).counters s)
    (fun name v ⟨i, s⟩ => ((member i).send name v s).map (⟨i, ·⟩))

def chain (a b : Stream) : Stream :=
  concatOf [.inl a.state, .inr b.state] (Sum.elim a.counters b.counters) fun name v s =>
    match s with
    | .inl s => (a.send name v s).map .inl
    | .inr s => (b.send name v s).map .inr

def around (b : Stream) {σ α : Type} [Source σ α] [FiniteSource σ] (view : α → Value) (state : σ)
    (inner : σ → b.State) (replace : σ → b.State → σ) (own : σ → List (String × Nat)) : Stream where
  State := Viewed σ view
  state := ⟨state⟩
  counters s := b.counters (inner s.inner) ++ own s.inner
  send name v s := (b.send name v (inner s.inner)).map fun t => ⟨replace s.inner t⟩

structure Applied (σ : Type) where
  State : Type
  Item : Type
  [source : Source State Item]
  [finite : FiniteSource State]
  view : Item → Value
  state : State
  inner : State → σ
  replace : State → σ → State
  counters : State → List (String × Nat)

attribute [instance] Applied.source Applied.finite

def Applied.of {σ : Type} [Source σ Value] [FiniteSource σ] (s : σ) : Operator → Applied σ
  | .map name f =>
    { State := Map σ (counting fun v call => f.apply v call), Item := Value, view := id
      state := { inner := s, memory := 0 }
      inner := Map.inner, replace := fun t s => { t with inner := s }
      counters := fun t => labelled name t.memory }
  | .tryMap name f =>
    { State := TryMap σ (counting fun v call => f.apply v call), Item := Value, view := id
      state := { inner := s, memory := 0 }
      inner := TryMap.inner, replace := fun t s => { t with inner := s }
      counters := fun t => labelled name t.memory }
  | .filter name p =>
    { State := Filter σ (counting fun v call => p.holds v call), Item := Value, view := id
      state := { inner := s, memory := 0 }
      inner := Filter.inner, replace := fun t s => { t with inner := s }
      counters := fun t => labelled name t.memory }
  | .filterMap name f =>
    { State := FilterMap σ (counting fun v call => f.apply v call), Item := Value, view := id
      state := { inner := s, memory := 0 }
      inner := FilterMap.inner, replace := fun t s => { t with inner := s }
      counters := fun t => labelled name t.memory }
  | .batch size =>
    { State := Batch σ size, Item := List Value, view := .list
      state := { inner := s }
      inner := Batch.inner, replace := fun t s => { t with inner := s }
      counters := fun _ => [] }
  | .group name key =>
    { State := Group σ (counting fun v call => key.of v call), Item := List Value, view := .list
      state := { inner := s, memory := 0 }
      inner := Group.inner, replace := fun t s => { t with inner := s }
      counters := fun t => labelled name t.memory }
  | .compact =>
    { State := Compact σ Value, Item := List Value, view := .list
      state := { inner := s, memory := () }
      inner := Group.inner, replace := fun t s => { t with inner := s }
      counters := fun _ => [] }
  | .flatten =>
    { State := Flatten (Viewed σ Value.elements) Value, Item := Value, view := id
      state := { inner := ⟨s⟩ }
      inner := fun t => t.inner.inner, replace := fun t s => { t with inner := ⟨s⟩ }
      counters := fun _ => [] }

def applied (b : Stream) (operator : Operator) : Stream :=
  let a := Applied.of b.state operator
  b.around a.view a.state a.inner a.replace a.counters

end Stream

mutual

def Plan.stream : Plan → Stream
  | .values items failure =>
    { State := ListSource Value
      state := Stream.listed items failure
      probe := fun s => some s.remaining }
  | .integers items failure =>
    { State := Viewed (ListSource Int) Value.int
      state := ⟨Stream.listed items failure⟩
      probe := fun s => some s.inner.remaining }
  | .texts items failure =>
    { State := Viewed (ListSource String) Value.text
      state := ⟨Stream.listed items failure⟩
      probe := fun s => some s.inner.remaining }
  | .iterator name items =>
    { State := SupplySource (List Value) Value
      state := .ofSupply items
      counters := fun s => labelled name (items.length - s.supply.length) }
  | .counter name start step count =>
    { State := SupplySource Counter Value
      state := .ofSupply ⟨start, step, count⟩
      counters := fun s => labelled name (count - s.supply.left) }
  | .channel name items =>
    { State := ChannelSource (Channel Value) Value
      state := .ofReceiver ⟨items⟩
      send := fun channel v s =>
        if name = some channel && s.isOpen then some { s with receiver := s.receiver.send v }
        else none }
  | .receiver name items =>
    { State := ChannelSource (CountedSupply (Channel Value)) Value
      state := .ofReceiver ⟨⟨items⟩, 0⟩
      counters := fun s => labelled name s.receiver.calls }
  | .cursor name cursor =>
    { State := CursorSource (ListCursor Value)
      state := .ofCursor cursor
      counters := fun s => labelled name s.cursor.closes }
  | .lines reader =>
    { State := Viewed (LineSource PieceReader) Value.text
      state := ⟨.ofReader reader⟩
      probe := fun s => some s.inner.linesRead }
  | .jsonLines shape skipsBlank reader =>
    let _ : Inhabited Value := ⟨shape.blank⟩
    { State := Json.LinesSource PieceReader (Json.decode shape) skipsBlank
      state := .ofReader reader }
  | .rows options shape reader =>
    let _ : Inhabited Value := ⟨shape.blank⟩
    { State := Csv.RowsSource PieceReader options.separator (Csv.decode shape)
      state := .ofReader options.hasHeaders reader }
  | .script name script =>
    { State := ScriptedSource Value
      state := script
      counters := fun s => labelled name s.closes }
  | .concat members => .concat (streams members)
  | .chain a b => .chain a.stream b.stream
  | .boxed p => { p.stream with probe := fun _ => none }
  | .counted name p =>
    let b := p.stream
    let state : CountedSource b.State := { inner := b.state }
    b.around id state CountedSource.inner (fun s t => { s with inner := t })
      fun s => labelled name s.closes
  | .apply operator p => p.stream.applied operator

def streams : List Plan → List Stream
  | [] => []
  | p :: rest => p.stream :: streams rest

end

end PullStreams.Bench
