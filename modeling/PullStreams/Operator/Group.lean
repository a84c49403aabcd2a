import PullStreams.Source
import PullStreams.Operator.Ending
import PullStreams.Operator.Map

namespace PullStreams

/-- Lists of neighbouring items whose keys equal the key of the first. The item that ends a group
has been pulled already and waits in `pending` with its key. -/
structure Group (σ : Type u) {α : Type v} {κ : Type w} {ξ : Type x} (key : Callback α κ ξ) where
  inner : σ
  memory : κ
  pending : Option (ξ × α) := none
  slot : Option (List α) := none
  ending : Ending := .running

abbrev Compact (σ : Type u) (α : Type v) :=
  Group σ (fun (a : α) (memory : Unit) => (a, memory))

namespace Group
variable {σ : Type u} {α : Type v} {κ : Type w} {ξ : Type x} {key : Callback α κ ξ} [Source σ α]
  [BEq ξ]

/-- The tally is the group so far, last item first. -/
def visit (key : Callback α κ ξ) (first : ξ) (tally : List α × κ) (t : σ) :
    Except (List α × κ × ξ × α) (List α × κ) :=
  let a := Source.current t
  let (k, memory) := key a tally.2
  if k == first then .ok (a :: tally.1, memory) else .error (tally.1, memory, k, a)

def gather [∀ k, Source.SweepsEnd σ (visit key k)] (k : ξ) (a : α) (s : Group σ key) :
    Group σ key :=
  if s.ending.isRunning then
    match Source.sweep (visit key k) ([a], s.memory) s.inner with
    | (.error (group, memory, next), inner) =>
      { inner, memory, pending := some next, slot := some group.reverse }
    | (.ok (group, memory), inner) =>
      { inner, memory, slot := some group.reverse, ending := .ofError (Source.error inner) }
  else { s with pending := none, slot := some [a] }

def advance [∀ k, Source.SweepsEnd σ (visit key k)] (s : Group σ key) : Bool × Group σ key :=
  match s.pending with
  | some (k, a) => (true, s.gather k a)
  | none =>
    if s.ending.isRunning then
      match Source.advance s.inner with
      | (false, inner) =>
        (false,
          { s with inner, slot := none, ending := (Ending.ofError (Source.error inner)).settle })
      | (true, inner) =>
        let a := Source.current inner
        let (k, memory) := key a s.memory
        (true, gather k a { s with inner, memory })
    else (false, { s with slot := none, ending := s.ending.settle })

instance [∀ k, Source.SweepsEnd σ (visit key k)] : Source (Group σ key) (List α) where
  advance := advance
  current s := s.slot.getD []
  error s := s.ending.error
  close s := (Source.close s.inner).map id ({ s with inner := ·, slot := none, pending := none })

def phase (s : Group σ key) : Nat :=
  if s.ending.isRunning then 2 else if s.pending.isSome then 1 else 0

theorem phase_gather [FiniteSource σ] (k : ξ) (a : α) (s : Group σ key)
    (hr : s.ending.isRunning) :
    (s.gather k a).phase < s.phase ∨
      (s.gather k a).phase = s.phase ∧
        Relation.TransGen Source.After (s.gather k a).inner s.inner := by
  unfold gather
  rw [if_pos hr]
  split
  · rename_i h
    exact .inr ⟨by simp [phase, hr], Source.after_of_sweep_eq_error h⟩
  · exact .inl (by simp [phase, hr])

instance [FiniteSource σ] : FiniteSource (Group σ key) :=
  .of_phase phase inner fun t s h => by
    change s.advance = (true, t) at h
    unfold advance at h
    split at h
    · rename_i k a hp
      simp only [Prod.mk.injEq, true_and] at h
      subst h
      by_cases hr : s.ending.isRunning
      · exact phase_gather k a s hr
      · exact .inl (by simp [gather, phase, hr, hp])
    · split at h
      · rename_i hr
        split at h
        · simp at h
        · rename_i u hu
          simp only [Prod.mk.injEq, true_and] at h
          subst h
          let s' : Group σ key :=
            { s with inner := u, memory := (key (Source.current u) s.memory).2 }
          have hs : s'.phase = s.phase := rfl
          rcases phase_gather (key (Source.current u) s.memory).1 (Source.current u) s' hr with
            h | h
          · exact .inl (hs ▸ h)
          · exact .inr ⟨hs ▸ h.1, h.2.tail hu⟩
      · simp at h

end Group
end PullStreams
