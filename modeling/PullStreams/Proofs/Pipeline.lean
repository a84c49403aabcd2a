import PullStreams.Double.Source
import PullStreams.Operator.Filter
import PullStreams.Operator.Flatten
import PullStreams.Source.Choice
import PullStreams.Source.Concat

namespace PullStreams

structure AnySource (α : Type) where
  State : Type
  [source : Source State α]
  [finite : FiniteSource State]
  start : State

attribute [instance] AnySource.source AnySource.finite

/-- The kinds of leaf that a tree may have, with the source that each stands for. -/
class LeafKind (L : (α : Type) → [Inhabited α] → Type 1) where
  source : {α : Type} → [Inhabited α] → L α → AnySource α

/-- `boxed` stands for a box as well as for a borrow: both pass everything on. -/
inductive Pipeline (L : (α : Type) → [Inhabited α] → Type 1) : (α : Type) → [Inhabited α] → Type 1
  | leaf {α : Type} [Inhabited α] (origin : L α) : Pipeline L α
  | map {α β κ : Type} [Inhabited α] [Inhabited β] (f : Callback α κ β) (memory : κ)
    (inner : Pipeline L α) : Pipeline L β
  | tryMap {α β κ : Type} [Inhabited α] [Inhabited β] (f : Callback α κ (Except Report β))
    (memory : κ) (inner : Pipeline L α) : Pipeline L β
  | filter {α κ : Type} [Inhabited α] (p : Callback α κ Bool) (memory : κ)
    (inner : Pipeline L α) : Pipeline L α
  | filterMap {α β κ : Type} [Inhabited α] [Inhabited β] (f : Callback α κ (Option β))
    (memory : κ) (inner : Pipeline L α) : Pipeline L β
  | batch {α : Type} [Inhabited α] (size : Nat) (inner : Pipeline L α) : Pipeline L (List α)
  | group {α κ ξ : Type} [Inhabited α] [BEq ξ] (key : Callback α κ ξ) (memory : κ)
    (inner : Pipeline L α) : Pipeline L (List α)
  | flatten {α : Type} [Inhabited α] (inner : Pipeline L (List α)) : Pipeline L α
  | concat {α : Type} [Inhabited α] {n : Nat} (members : Fin n → Pipeline L α) : Pipeline L α
  | boxed {α : Type} [Inhabited α] (inner : Pipeline L α) : Pipeline L α
  | counted {α : Type} [Inhabited α] (inner : Pipeline L α) : Pipeline L α

namespace Pipeline
variable {L : (α : Type) → [Inhabited α] → Type 1} {α : Type} [Inhabited α]

def compact [BEq α] (p : Pipeline L α) : Pipeline L (List α) :=
  .group (fun (a : α) (memory : Unit) => (a, memory)) () p

def chain (p q : Pipeline L α) : Pipeline L α := .concat (n := 2) fun i => if i = 0 then p else q

def source [LeafKind L] {α : Type} [Inhabited α] : Pipeline L α → AnySource α
  | @leaf _ _ _ origin => LeafKind.source origin
  | @map _ _ _ _ _ _ f memory p =>
    { State := Map p.source.State f, start := { inner := p.source.start, memory } }
  | @tryMap _ _ _ _ _ _ f memory p =>
    { State := TryMap p.source.State f, start := { inner := p.source.start, memory } }
  | @filter _ _ _ _ f memory p =>
    { State := Filter p.source.State f, start := { inner := p.source.start, memory } }
  | @filterMap _ _ _ _ _ _ f memory p =>
    { State := FilterMap p.source.State f, start := { inner := p.source.start, memory } }
  | @batch _ _ _ size p =>
    { State := Batch p.source.State size, start := { inner := p.source.start } }
  | @group _ _ _ _ _ _ key memory p =>
    { State := Group p.source.State key, start := { inner := p.source.start, memory } }
  | @flatten _ α _ p =>
    { State := Flatten p.source.State α, start := { inner := p.source.start } }
  | @concat _ _ _ n members =>
    { State := Concat ((i : Fin n) × (members i).source.State)
      start := .ofList ((List.finRange n).map fun i => ⟨i, (members i).source.start⟩) }
  | @boxed _ _ _ p => p.source
  | @counted _ _ _ p =>
    { State := Double.CountedSource p.source.State, start := { inner := p.source.start } }

end Pipeline
end PullStreams
