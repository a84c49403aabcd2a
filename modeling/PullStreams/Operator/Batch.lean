import PullStreams.Source
import PullStreams.Operator.Ending

namespace PullStreams

/-- Lists of `size` items, the last maybe shorter; a size of zero counts as one. -/
structure Batch (σ : Type u) {α : Type v} [Source σ α] (size : Nat) where
  inner : σ
  slot : Option (List α) := none
  ending : Ending := .running

namespace Batch
variable {σ : Type u} {α : Type v} [Source σ α] {size : Nat}

/-- Pulls up to `room` items; the flag says that the source stopped. -/
def fill : Nat → List α → σ → List α × Bool × σ
  | 0, buffer, s => (buffer.reverse, false, s)
  | room + 1, buffer, s =>
    match Source.advance s with
    | (false, s) => (buffer.reverse, true, s)
    | (true, s) => fill room (Source.current s :: buffer) s

def advance (s : Batch σ size) : Bool × Batch σ size :=
  if s.ending.isRunning then
    match fill (max size 1) [] s.inner with
    | ([], _, inner) => (false, { inner, ending := (Ending.ofError (Source.error inner)).settle })
    | (items, stopped, inner) =>
      (true,
        { inner
          slot := some items
          ending := if stopped then .ofError (Source.error inner) else .running })
  else (false, { s with slot := none, ending := s.ending.settle })

instance : Source (Batch σ size) (List α) where
  advance := advance
  current s := s.slot.getD []
  error s := s.ending.error
  close s := (Source.close s.inner).map id ({ s with inner := ·, slot := none })

theorem after_of_fill {room : Nat} {buffer items : List α} {s t : σ}
    (h : fill room buffer s = (items, false, t)) :
    t = s ∧ room = 0 ∨ Relation.TransGen Source.After t s := by
  induction room generalizing buffer s with
  | zero => simp [fill] at h; exact .inl ⟨h.2.symm, rfl⟩
  | succ room ih =>
    unfold fill at h
    split at h
    · simp at h
    · rename_i u hu
      rcases ih h with ⟨rfl, _⟩ | h
      · exact .inr (.single hu)
      · exact .inr (h.tail hu)

def phase (s : Batch σ size) : Nat := if s.ending.isRunning then 1 else 0

instance [FiniteSource σ] : FiniteSource (Batch σ size) :=
  .of_phase phase inner fun t s h => by
    change s.advance = (true, t) at h
    unfold advance at h
    split at h
    · rename_i hr
      split at h
      · simp at h
      · rename_i items stopped inner _ hf
        simp only [Prod.mk.injEq, true_and] at h
        subst h
        cases stopped with
        | true => exact .inl (by simp [phase, hr])
        | false =>
          rcases after_of_fill hf with ⟨_, h0⟩ | h
          · omega
          · exact .inr ⟨by simp [phase, hr], h⟩
    · simp at h

end Batch
end PullStreams
