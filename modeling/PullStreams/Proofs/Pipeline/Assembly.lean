import PullStreams.Double.Source
import PullStreams.Operator.Filter
import PullStreams.Operator.Flatten
import PullStreams.Source.Choice
import PullStreams.Source.Concat

namespace PullStreams
open Source

/-- A tree over leaves of the kinds `L`, with the type and the first state of its source. `boxed`
stands for a box as well as for a borrow: both pass everything on. -/
inductive Assembly (L : (σ α : Type) → [Inhabited α] → [Source σ α] → σ → Type 1) :
    (σ α : Type) → [Inhabited α] → [Source σ α] → σ → Type 1
  | leaf {σ α : Type} [Inhabited α] [Source σ α] {s : σ} (origin : L σ α s) : Assembly L σ α s
  | map {σ α β κ : Type} [Inhabited α] [Inhabited β] [Source σ α] {s : σ} (f : Callback α κ β)
    (memory : κ) (inner : Assembly L σ α s) : Assembly L (Map σ f) β { inner := s, memory }
  | tryMap {σ α β κ : Type} [Inhabited α] [Inhabited β] [Source σ α] {s : σ}
    (f : Callback α κ (Except Report β)) (memory : κ) (inner : Assembly L σ α s) :
    Assembly L (TryMap σ f) β { inner := s, memory }
  | filter {σ α κ : Type} [Inhabited α] [Source σ α] {s : σ} (p : Callback α κ Bool)
    [SweepsEnd σ (Filter.visit p)] (memory : κ) (inner : Assembly L σ α s) :
    Assembly L (Filter σ p) α { inner := s, memory }
  | filterMap {σ α β κ : Type} [Inhabited α] [Inhabited β] [Source σ α] {s : σ}
    (f : Callback α κ (Option β)) [SweepsEnd σ (FilterMap.visit f)] (memory : κ)
    (inner : Assembly L σ α s) : Assembly L (FilterMap σ f) β { inner := s, memory }
  | batch {σ α : Type} [Inhabited α] [Source σ α] {s : σ} (size : Nat)
    (inner : Assembly L σ α s) : Assembly L (Batch σ size) (List α) { inner := s }
  | group {σ α κ ξ : Type} [Inhabited α] [Source σ α] [BEq ξ] {s : σ} (key : Callback α κ ξ)
    [∀ k, SweepsEnd σ (Group.visit key k)] (memory : κ) (inner : Assembly L σ α s) :
    Assembly L (Group σ key) (List α) { inner := s, memory }
  | flatten {σ α : Type} [Inhabited α] [Source σ (List α)] [NonemptyAtLast σ] {s : σ}
    (inner : Assembly L σ (List α) s) : Assembly L (Flatten σ α) α { inner := s }
  | concat {α : Type} [Inhabited α] {n : Nat} {σ : Fin n → Type} [∀ i, Source (σ i) α]
    {s : (i : Fin n) → σ i} (members : (i : Fin n) → Assembly L (σ i) α (s i)) :
    Assembly L (Concat ((i : Fin n) × σ i)) α (.ofList ((List.finRange n).map fun i => ⟨i, s i⟩))
  | boxed {σ α : Type} [Inhabited α] [Source σ α] {s : σ} (inner : Assembly L σ α s) :
    Assembly L σ α s
  | counted {σ α : Type} [Inhabited α] [Source σ α] {s : σ} (inner : Assembly L σ α s) :
    Assembly L (Double.CountedSource σ) α { inner := s }

end PullStreams
