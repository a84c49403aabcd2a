import PullStreams.Proofs.Calls

namespace PullStreams.Source
open History
variable {σ : Type u} {α : Type v} [Source σ α]

/-- One advance of a source with its item in `slot`, which stops once it is done. -/
inductive SlotStep (slot : σ → Option α) (isDone : σ → Bool) (s : σ) : Bool × σ → Prop
  | item {t : σ} (hs : isDone s = false) (ht : isDone t = false) (he : error t = error s) :
    SlotStep slot isDone s (true, t)
  | stop {t : σ} (hn : slot t = none) (ht : isDone t = true) : SlotStep slot isDone s (false, t)

variable [Inhabited α]

structure Slotted (slot : σ → Option α) (isDone : σ → Bool) : Prop where
  current (s : σ) : current s = (slot s).getD default
  step (s : σ) : SlotStep slot isDone s (advance s)
  close (s : σ) : (isDone s = true → slot s = none) →
    slot (close s).2 = none ∧ isDone (close s).2 = true

namespace Slotted
variable {slot : σ → Option α} {isDone : σ → Bool}

structure Tidy (slot : σ → Option α) (isDone : σ → Bool) (h : History σ) : Prop where
  empty : h.hasItem = false → slot h.state = none
  live : h.hasItem = true → isDone h.state = false
  finished : h.isOver = true → isDone h.state = true
  quiet : isDone h.state = false → error h.state = none

theorem keeps (hs : Slotted slot isDone) : Keeps (Tidy slot isDone) where
  sound {h} hi := by
    refine ⟨fun hf => ?_, fun ht => hi.quiet (hi.live ht), fun ho => ?_⟩
    · rw [hs.current, hi.empty hf]
      rfl
    · have hd := hi.finished ho
      have hstep := hs.step h.state
      generalize advance h.state = r at hstep ⊢
      cases hstep with
      | item hn ht he => exact hd.symm.trans hn
      | stop => rfl
  item {s t i} hi h := by
    have hstep := hs.step s
    rw [h] at hstep
    cases hstep with
    | item hn ht he =>
      refine ⟨by simp, fun _ => ht, by simp, fun _ => ?_⟩
      rw [he]
      exact hi.quiet hn
  stop {s t i o} _ h := by
    have hstep := hs.step s
    rw [h] at hstep
    cases hstep with
    | stop hn ht => exact ⟨fun _ => hn, by simp, fun _ => ht, by simp [ht]⟩
  close {s i o} hi := by
    have hempty : isDone s = true → slot s = none := by
      intro hd
      apply hi.empty
      cases i with
      | false => rfl
      | true => exact hd.symm.trans (hi.live rfl)
    obtain ⟨hn, hd⟩ := hs.close s hempty
    exact ⟨fun _ => hn, by simp, fun _ => hd, by simp [hd]⟩

theorem orderly (hs : Slotted slot isDone) {s : σ} (hn : slot s = none) (he : error s = none) :
    Orderly ⟨s, false, false⟩ :=
  hs.keeps.orderly ⟨fun _ => hn, by simp, by simp, fun _ => he⟩

end Slotted
end PullStreams.Source
