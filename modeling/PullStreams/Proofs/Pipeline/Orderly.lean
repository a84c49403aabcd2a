import PullStreams.Proofs.Operator.Orderly
import PullStreams.Proofs.Pipeline.Meaning
import PullStreams.Proofs.Source.Orderly

namespace PullStreams
open Source History

/-- Leaves of every kind: what is at hand, any receiver, any cursor, and text as lines, as JSON
lines and as rows. -/
inductive Origin : (α : Type) → [Inhabited α] → Type 1
  | stored {α : Type} [Inhabited α] (store : Store α) : Origin α
  | channel {ι α : Type} [Inhabited α] [Supply ι α] [FiniteSupply ι] (receiver : ι) : Origin α
  | cursor {γ α : Type} [Inhabited α] [Cursor γ α] [FiniteCursor γ] (cursor : γ) : Origin α
  | lines {ρ : Type} [ByteReader ρ] [FiniteReader ρ] (reader : ρ) : Origin String
  | jsonLines {ρ β : Type} [Inhabited β] [ByteReader ρ] [FiniteReader ρ]
    (decode : String → Except Json.Fault β) (skipsBlank : Bool) (reader : ρ) : Origin β
  | rows {ρ β : Type} [Inhabited β] [ByteReader ρ] [FiniteReader ρ] (sep : Csv.Separator)
    (decode : Csv.RowDecoder β) (hasHeaders : Bool) (reader : ρ) : Origin β

namespace Origin

instance : LeafKind Origin where
  source
    | @stored _ _ store => LeafKind.source store
    | @channel ι α _ _ _ receiver => { State := ChannelSource ι α, start := .ofReceiver receiver }
    | @cursor γ _ _ _ _ c => { State := CursorSource γ, start := .ofCursor c }
    | @lines ρ _ _ reader => { State := LineSource ρ, start := .ofReader reader }
    | @jsonLines ρ _ _ _ _ decode skipsBlank reader =>
      { State := Json.LinesSource ρ decode skipsBlank, start := .ofReader reader }
    | @rows ρ _ _ _ _ sep decode hasHeaders reader =>
      { State := Csv.RowsSource ρ sep decode, start := .ofReader hasHeaders reader }

theorem orderly {α : Type} [Inhabited α] (origin : Origin α) :
    Orderly ⟨(LeafKind.source origin).start, false, false⟩ := by
  cases origin with
  | stored store =>
    cases store with
    | list items ending => exact ListSource.orderly items ending
    | iterator supply => exact SupplySource.orderly supply
    | channel queue => exact ChannelSource.orderly (⟨queue⟩ : Channel α)
    | cursor c => exact CursorSource.orderly c
  | channel receiver => exact ChannelSource.orderly receiver
  | cursor c => exact CursorSource.orderly c
  | lines reader => exact LineSource.orderly reader
  | jsonLines decode skipsBlank reader => exact Json.LinesSource.orderly reader
  | rows sep decode hasHeaders reader => exact Csv.RowsSource.orderly hasHeaders reader

end Origin

namespace Pipeline

theorem orderly {α : Type} [Inhabited α] (p : Pipeline Origin α) :
    Orderly ⟨p.source.start, false, false⟩ := by
  induction p with
  | leaf origin => exact origin.orderly
  | map f memory p ih => exact Map.orderly f ih memory
  | tryMap f memory p ih => exact TryMap.orderly f ih memory
  | filter f memory p ih => exact Filter.orderly f ih memory
  | filterMap f memory p ih => exact FilterMap.orderly f ih memory
  | batch size p ih => exact Batch.orderly size ih
  | group key memory p ih => exact Group.orderly key ih memory
  | flatten p ih => exact Flatten.orderly ih
  | concat members ih =>
    apply Concat.orderly
    intro m hm
    obtain ⟨i, -, rfl⟩ := List.mem_map.1 hm
    exact (orderly_map_iff (passes_sigma i) ⟨_, false, false⟩).2 (ih i)
  | boxed p ih => exact ih
  | counted p ih => exact (orderly_map_iff passes_counted ⟨_, false, false⟩).1 ih

/-- After any calls in any order there is nothing current without an item, there is no error with
one, and nothing follows a stop or a `close`. -/
theorem sound_after {α : Type} [Inhabited α] (p : Pipeline Origin α) (calls : List Call) :
    (after calls p.source.start).Sound :=
  p.orderly calls

end Pipeline
end PullStreams
