import PullStreams.Source

namespace PullStreams

/-- A caller's function that may remember something from one call to the next. -/
abbrev Callback (α : Type u) (κ : Type v) (β : Type w) := α → κ → β × κ

structure Map (σ : Type u) {α : Type v} {κ : Type w} {β : Type x} (f : Callback α κ β) where
  inner : σ
  memory : κ
  slot : Option β := none

namespace Map
variable {σ : Type u} {α : Type v} {κ : Type w} {β : Type x} {f : Callback α κ β} [Source σ α]

def advance (s : Map σ f) : Bool × Map σ f :=
  match Source.advance s.inner with
  | (false, inner) => (false, { s with inner, slot := none })
  | (true, inner) =>
    let (b, memory) := f (Source.current inner) s.memory
    (true, { inner, memory, slot := some b })

instance [Inhabited β] : Source (Map σ f) β where
  advance := advance
  current s := s.slot.getD default
  error s := Source.error s.inner
  close s := (Source.close s.inner).map id ({ s with inner := ·, slot := none })

instance [Inhabited β] [FiniteSource σ] : FiniteSource (Map σ f) :=
  .of_inner inner fun t s h => by
    change s.advance = (true, t) at h
    unfold advance at h
    split at h
    · simp at h
    · rename_i hi
      simp at h
      exact h ▸ .single hi

end Map

/-- Each item through a function that may fail. Its first failure ends the source, before any later
fault of the source within. -/
structure TryMap (σ : Type u) {α : Type v} {κ : Type w} {β : Type x}
    (f : Callback α κ (Except Report β)) where
  inner : σ
  memory : κ
  slot : Option β := none
  stopped : Option StreamFault := none

namespace TryMap
variable {σ : Type u} {α : Type v} {κ : Type w} {β : Type x}
  {f : Callback α κ (Except Report β)} [Source σ α]

def advance (s : TryMap σ f) : Bool × TryMap σ f :=
  if s.stopped.isSome then (false, { s with slot := none })
  else
    match Source.advance s.inner with
    | (false, inner) => (false, { s with inner, slot := none })
    | (true, inner) =>
      match f (Source.current inner) s.memory with
      | (.ok b, memory) => (true, { inner, memory, slot := some b })
      | (.error e, memory) => (false, { inner, memory, stopped := some e.toStreamFault })

instance [Inhabited β] : Source (TryMap σ f) β where
  advance := advance
  current s := s.slot.getD default
  error s := s.stopped.or (Source.error s.inner)
  close s := (Source.close s.inner).map id ({ s with inner := ·, slot := none })

instance [Inhabited β] [FiniteSource σ] : FiniteSource (TryMap σ f) :=
  .of_inner inner fun t s h => by
    change s.advance = (true, t) at h
    unfold advance at h
    split at h
    · simp at h
    · split at h
      · simp at h
      · rename_i hi
        split at h
        · simp at h
          exact h ▸ .single hi
        · simp at h

end TryMap
end PullStreams
