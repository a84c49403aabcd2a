import PullStreams.Sink

namespace PullStreams

structure Converted (τ : Type u) {α : Type v} {β : Type w} (convert : β → α) where
  inner : τ

instance {τ : Type u} {α : Type v} {β : Type w} {convert : β → α} [Sink τ α] :
    Sink (Converted τ convert) β where
  write b d := (Sink.write (convert b) d.inner).map id (⟨·⟩)
  flush d := (Sink.flush d.inner).map id (⟨·⟩)
  close d := (Sink.close d.inner).map id (⟨·⟩)

end PullStreams
