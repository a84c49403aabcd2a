import PullStreams.Operator.Map

namespace PullStreams

/-- The items on which `p` holds. Nothing is cached: the item is read from the source within. -/
structure Filter (σ : Type u) {α : Type v} {κ : Type w} (p : Callback α κ Bool) where
  inner : σ
  memory : κ
  isMatched : Bool := false

namespace Filter
variable {σ : Type u} {α : Type v} {κ : Type w} {p : Callback α κ Bool} [Source σ α]

def visit (p : Callback α κ Bool) (memory : κ) (t : σ) : Except κ κ :=
  let (holds, memory) := p (Source.current t) memory
  if holds then .error memory else .ok memory

def advance [Source.SweepsEnd σ (visit p)] (s : Filter σ p) : Bool × Filter σ p :=
  match Source.sweep (visit p) s.memory s.inner with
  | (.error memory, inner) => (true, { inner, memory, isMatched := true })
  | (.ok memory, inner) => (false, { inner, memory })

instance [Inhabited α] [Source.SweepsEnd σ (visit p)] : Source (Filter σ p) α where
  advance := advance
  current s := if s.isMatched then Source.current s.inner else default
  error s := Source.error s.inner
  close s := (Source.close s.inner).map id ({ s with inner := ·, isMatched := false })

instance [Inhabited α] [FiniteSource σ] : FiniteSource (Filter σ p) :=
  .of_inner inner fun t s h => by
    change s.advance = (true, t) at h
    unfold advance at h
    split at h
    · rename_i hi
      simp at h
      exact h ▸ Source.after_of_sweep_eq_error hi
    · simp at h

end Filter

structure FilterMap (σ : Type u) {α : Type v} {κ : Type w} {β : Type x}
    (f : Callback α κ (Option β)) where
  inner : σ
  memory : κ
  slot : Option β := none

namespace FilterMap
variable {σ : Type u} {α : Type v} {κ : Type w} {β : Type x} {f : Callback α κ (Option β)}
  [Source σ α]

def visit (f : Callback α κ (Option β)) (memory : κ) (t : σ) : Except (β × κ) κ :=
  match f (Source.current t) memory with
  | (some b, memory) => .error (b, memory)
  | (none, memory) => .ok memory

def advance [Source.SweepsEnd σ (visit f)] (s : FilterMap σ f) : Bool × FilterMap σ f :=
  match Source.sweep (visit f) s.memory s.inner with
  | (.error (b, memory), inner) => (true, { inner, memory, slot := some b })
  | (.ok memory, inner) => (false, { inner, memory })

instance [Inhabited β] [Source.SweepsEnd σ (visit f)] : Source (FilterMap σ f) β where
  advance := advance
  current s := s.slot.getD default
  error s := Source.error s.inner
  close s := (Source.close s.inner).map id ({ s with inner := ·, slot := none })

instance [Inhabited β] [FiniteSource σ] : FiniteSource (FilterMap σ f) :=
  .of_inner inner fun t s h => by
    change s.advance = (true, t) at h
    unfold advance at h
    split at h
    · rename_i hi
      simp at h
      exact h ▸ Source.after_of_sweep_eq_error hi
    · simp at h

end FilterMap
end PullStreams
