import PullStreams.Proofs.Pipeline
import PullStreams.Proofs.Source.Stored

namespace PullStreams
open Source

/-- Leaves whose items are at hand. A list may end in a failure; a channel has been hung up. -/
inductive Store : (α : Type) → [Inhabited α] → Type 1
  | list {α : Type} [Inhabited α] (items : List α) (ending : StreamFault) : Store α
  | iterator {ι α : Type} [Inhabited α] [Supply ι α] [FiniteSupply ι] (supply : ι) : Store α
  | channel {α : Type} [Inhabited α] (queue : List α) : Store α
  | cursor {α : Type} [Inhabited α] (cursor : Double.ListCursor α) : Store α

namespace Store

instance : LeafKind Store where
  source
    | @list α _ items ending => { State := ListSource α, start := .failing items ending }
    | @iterator ι α _ _ _ supply => { State := SupplySource ι α, start := .ofSupply supply }
    | @channel α _ queue => { State := ChannelSource (Channel α) α, start := .ofReceiver ⟨queue⟩ }
    | @cursor α _ c => { State := CursorSource (Double.ListCursor α), start := .ofCursor c }

def meaning {α : Type} [Inhabited α] : Store α → Outcome α
  | @list _ _ items ending => ⟨items, failure? (some ending)⟩
  | @iterator _ _ _ _ _ supply => ⟨Supply.toList supply, none⟩
  | @channel _ _ queue => ⟨queue, none⟩
  | @cursor _ _ c => c.outcome

theorem denotes_meaning {α : Type} [Inhabited α] (origin : Store α) :
    Denotes (LeafKind.source origin).start origin.meaning := by
  cases origin with
  | list items ending => exact ListSource.denotes items ending
  | iterator supply => exact SupplySource.denotes supply
  | channel queue =>
    have h := ChannelSource.denotes (⟨queue⟩ : Channel α)
    rw [Supply.toList_channel] at h
    exact h
  | cursor c => exact CursorSource.denotes c

end Store

namespace Pipeline

def meaning {α : Type} [Inhabited α] : Pipeline Store α → Outcome α
  | @leaf _ _ _ origin => origin.meaning
  | @map _ _ _ _ _ _ f memory p => ⟨f.mapList memory p.meaning.items, p.meaning.failure⟩
  | @tryMap _ _ _ _ _ _ f memory p => p.meaning.attempt f memory
  | @filter _ _ _ _ f memory p => ⟨f.filterList memory p.meaning.items, p.meaning.failure⟩
  | @filterMap _ _ _ _ _ _ f memory p =>
    ⟨f.filterMapList memory p.meaning.items, p.meaning.failure⟩
  | @batch _ _ _ size p => ⟨Batch.chunks size p.meaning.items, p.meaning.failure⟩
  | @group _ _ _ _ _ _ key memory p =>
    ⟨Group.runs (key.keyed.mapList memory p.meaning.items), p.meaning.failure⟩
  | @flatten _ _ _ p => ⟨p.meaning.items.flatten, p.meaning.failure⟩
  | @concat _ _ _ n members =>
    Outcome.concat ((List.finRange n).map fun i => (members i).meaning)
  | @boxed _ _ _ p => p.meaning
  | @counted _ _ _ p => p.meaning

theorem meaning_chain {α : Type} [Inhabited α] (p q : Pipeline Store α) :
    (chain p q).meaning = p.meaning.append q.meaning := by
  show p.meaning.append (q.meaning.append ⟨[], none⟩) = _
  rw [Outcome.append_nil]

/-- Reading on from the start comes to a stop, past the items of the meaning, with its failure. -/
theorem drains_meaning {α : Type} [Inhabited α] (p : Pipeline Store α) :
    ∃ t, Drains p.source.start p.meaning.items t ∧ failure? (error t) = p.meaning.failure := by
  show Denotes p.source.start p.meaning
  induction p with
  | leaf origin => exact origin.denotes_meaning
  | map f memory p ih => exact Map.denotes f ih memory
  | tryMap f memory p ih => exact TryMap.denotes f ih memory
  | filter f memory p ih => exact Filter.denotes f ih memory
  | filterMap f memory p ih => exact FilterMap.denotes f ih memory
  | batch size p ih => exact Batch.denotes size ih
  | group key memory p ih => exact Group.denotes key ih memory
  | flatten p ih => exact Flatten.denotes ih
  | @concat α _ n members ih =>
    apply Concat.denotes
    rw [List.forall₂_map_left_iff, List.forall₂_map_right_iff, List.forall₂_same]
    exact fun i _ => (passes_sigma i).denotes (ih i)
  | boxed p ih => exact ih
  | counted p ih => exact passes_counted.denotes_of ih

example :
    (batch 2 (chain (leaf (.list [1] .ended)) (leaf (.list [2, 3] .closed))) :
      Pipeline Store (List Nat)).meaning = ⟨[[1, 2], [3]], some .closed⟩ := by
  cbv

end Pipeline
end PullStreams
