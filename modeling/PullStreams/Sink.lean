import PullStreams.Deque
import PullStreams.Fault

namespace PullStreams

class Sink (τ : Type u) (α : outParam (Type v)) where
  write : α → τ → Except StreamFault Nat × τ
  flush : τ → Except StreamFault Unit × τ
  close : τ → Except StreamFault Unit × τ

instance {ι : Type u} {τ : ι → Type v} {α : Type w} [∀ i, Sink (τ i) α] :
    Sink ((i : ι) × τ i) α where
  write := fun a ⟨i, d⟩ => (Sink.write a d).map id (⟨i, ·⟩)
  flush := fun ⟨i, d⟩ => (Sink.flush d).map id (⟨i, ·⟩)
  close := fun ⟨i, d⟩ => (Sink.close d).map id (⟨i, ·⟩)

structure ListSink (α : Type u) where
  kept : Deque α := {}
  isClosed : Bool := false

def ListSink.items {α : Type u} (d : ListSink α) : List α := d.kept.toList

instance {α : Type u} : Sink (ListSink α) α where
  write a d :=
    if d.isClosed then (.error .closed, d) else (.ok 1, { d with kept := d.kept.push a })
  flush d := (.ok (), d)
  close d := (.ok (), { d with isClosed := true })

end PullStreams
