import PullStreams.Source

namespace PullStreams

/-- A source whose items are looked at through `view`, also while there is none. -/
structure Viewed (σ : Type u) {α : Type v} {β : Type w} (view : α → β) where
  inner : σ

instance {σ : Type u} {α : Type v} {β : Type w} {view : α → β} [Source σ α] :
    Source (Viewed σ view) β where
  advance s := (Source.advance s.inner).map id (⟨·⟩)
  current s := view (Source.current s.inner)
  error s := Source.error s.inner
  close s := (Source.close s.inner).map id (⟨·⟩)

instance {σ : Type u} {α : Type v} {β : Type w} {view : α → β} [Source σ α] [FiniteSource σ] :
    FiniteSource (Viewed σ view) :=
  .of_inner Viewed.inner fun ⟨t⟩ ⟨s⟩ h => by
    simp only [Source.After, Source.advance, Prod.ext_iff, Prod.map_fst, Prod.map_snd,
      Viewed.mk.injEq] at h
    exact .single (Prod.ext h.1 h.2)

end PullStreams
