import PullStreams.Proofs.Calls

namespace PullStreams.Source
open History
variable {τ : Type u} {σ : Type v} {α : Type w} {β : Type x} [Source τ β] [Source σ α]

/-- One advance: the source within is read on to an item or to its stop, unless the operator has
stopped itself. An operator is idle while it has no item. -/
inductive RelayStep (inner : τ → σ) (stopped : τ → Option StreamFault) (IsIdle : τ → Prop) (s : τ) :
    Bool × τ → Prop
  | item {t : τ} {xs : List α} (hs : stopped s = none) (h : Reads (inner s) xs (inner t))
    (hne : xs ≠ []) (ht : stopped t = none) : RelayStep inner stopped IsIdle s (true, t)
  | fail {t : τ} {xs : List α} (hs : stopped s = none) (h : Reads (inner s) xs (inner t))
    (hne : xs ≠ []) (ht : stopped t ≠ none) (hi : IsIdle t) :
    RelayStep inner stopped IsIdle s (false, t)
  | stop {t : τ} {xs : List α} (hs : stopped s = none) (h : Drains (inner s) xs (inner t))
    (hi : IsIdle t) : RelayStep inner stopped IsIdle s (false, t)
  | rest {t : τ} (hs : stopped s ≠ none) (ht : stopped t = stopped s) (h : inner t = inner s)
    (hi : IsIdle t) : RelayStep inner stopped IsIdle s (false, t)

variable [Inhabited α] [Inhabited β]

structure Relays (inner : τ → σ) (stopped : τ → Option StreamFault) (IsIdle : τ → Prop) : Prop where
  current {s : τ} : IsIdle s → current s = default
  error (s : τ) : error s = (stopped s).or (error (inner s))
  step (s : τ) : RelayStep inner stopped IsIdle s (advance s)
  close (s : τ) : inner (close s).2 = (close (inner s)).2 ∧ IsIdle (close s).2

namespace Relays
variable {inner : τ → σ} {stopped : τ → Option StreamFault} {IsIdle : τ → Prop}

structure Tidy (inner : τ → σ) (stopped : τ → Option StreamFault) (IsIdle : τ → Prop)
    (h : History τ) : Prop where
  idle : h.hasItem = false → IsIdle h.state
  live : h.hasItem = true → stopped h.state = none
  within : ∃ i o, Orderly ⟨inner h.state, i, o⟩ ∧ (h.hasItem = true → i = true) ∧
    (h.isOver = true → stopped h.state = none → o = true)

theorem keeps (hr : Relays inner stopped IsIdle) : Keeps (Tidy inner stopped IsIdle) where
  sound {h} hi := by
    obtain ⟨s, i, o⟩ := h
    obtain ⟨i', o', ho, hitem, hover⟩ := hi.within
    refine ⟨fun hf => hr.current (hi.idle hf), fun ht => ?_, fun hv => ?_⟩
    · rw [hr.error, hi.live ht]
      exact ho.sound.error (hitem ht)
    · have hstep := hr.step s
      generalize advance s = r at hstep ⊢
      cases hstep with
      | item hs h hne ht =>
        -- The source within is over as well and could not have been read on.
        have hf := (ho.of_reads h hne).1
        rw [hover hv hs] at hf
        exact hf
      | fail => rfl
      | stop => rfl
      | rest => rfl
  item {s t i} hi h := by
    obtain ⟨i', o', ho, -, -⟩ := hi.within
    have hstep := hr.step s
    rw [h] at hstep
    cases hstep with
    | item hs h hne ht =>
      exact ⟨by simp, fun _ => ht, true, false, (ho.of_reads h hne).2, fun _ => rfl, by simp⟩
  stop {s t i o} hi h := by
    obtain ⟨i', o', ho, -, -⟩ := hi.within
    have hstep := hr.step s
    rw [h] at hstep
    cases hstep with
    | fail hs h hne ht hidle =>
      exact ⟨fun _ => hidle, by simp, true, false, (ho.of_reads h hne).2, by simp,
        fun _ hn => absurd hn ht⟩
    | stop hs h hidle =>
      exact ⟨fun _ => hidle, by simp, false, true, ho.of_drains h, by simp, fun _ _ => rfl⟩
    | rest hs ht h hidle =>
      rw [← h] at ho
      exact ⟨fun _ => hidle, by simp, i', o', ho, by simp, fun _ hn => absurd (ht.symm.trans hn) hs⟩
  close {s i o} hi := by
    obtain ⟨i', o', ho, -, -⟩ := hi.within
    obtain ⟨hc, hidle⟩ := hr.close s
    have ho' := ho.of_close
    rw [← hc] at ho'
    exact ⟨fun _ => hidle, by simp, false, true, ho', by simp, fun _ _ => rfl⟩

theorem orderly (hr : Relays inner stopped IsIdle) {s : τ} (hs : stopped s = none) (hi : IsIdle s)
    (h : Orderly ⟨inner s, false, false⟩) : Orderly ⟨s, false, false⟩ :=
  hr.keeps.orderly ⟨fun _ => hi, fun _ => hs, false, false, h, by simp, by simp⟩

end Relays
end PullStreams.Source
