import PullStreams.Proofs.Lists
import PullStreams.Proofs.Run

namespace PullStreams.Group
open Source
variable {σ : Type u} {α : Type v} {κ : Type w} {ξ : Type x} {key : Callback α κ ξ} [Source σ α]
  [BEq ξ]

/-- The items, read with `memory` to begin with, have keys that equal `k`. -/
def SameKey (key : Callback α κ ξ) (k : ξ) (memory : κ) (xs : List α) : Prop :=
  ∀ x ∈ key.keyed.mapList memory xs, (x.1 == k) = true

theorem sameKey_nil (k : ξ) (memory : κ) : SameKey key k memory [] := by
  intro x hx
  cases hx

theorem sameKey_cons {k : ξ} {memory : κ} {a : α} {xs : List α}
    (ha : ((key a memory).1 == k) = true) (h : SameKey key k (key a memory).2 xs) :
    SameKey key k memory (a :: xs) := by
  intro x hx
  rcases List.mem_cons.1 hx with rfl | hx
  · exact ha
  · exact h x hx

/-- A sweep for a group: the source stops, or an item has another key. -/
theorem sweep_visit_cases (key : Callback α κ ξ) [∀ k, SweepsEnd σ (visit key k)] (k : ξ)
    (group : List α) (memory : κ) (s : σ) :
    (∃ xs t, Drains s xs t ∧ SameKey key k memory xs ∧
      sweep (visit key k) (group, memory) s =
        (.ok (xs.reverse ++ group, key.after memory xs), t)) ∨
    ∃ xs t k' memory', Reads s (xs ++ [current t]) t ∧ SameKey key k memory xs ∧
      key (current t) (key.after memory xs) = (k', memory') ∧ (k' == k) = false ∧
      sweep (visit key k) (group, memory) s =
        (.error (xs.reverse ++ group, memory', k', current t), t) := by
  -- The group so far is kept last item first, so what is read is added reversed in front of it.
  have hs : SweepsTo (visit key k) (group, memory) s (sweep (visit key k) (group, memory) s) :=
    sweepsTo_sweep
  generalize sweep (visit key k) (group, memory) s = answer at hs ⊢
  generalize htally : (group, memory) = tally at hs
  induction hs generalizing group memory with
  | @stop tally s t ha =>
    subst htally
    exact .inl ⟨[], t, .stop ha, sameKey_nil k memory, rfl⟩
  | @halt tally s t e ha hv =>
    subst htally
    by_cases hk : ((key (current t) memory).1 == k) = true
    · simp [visit, hk] at hv
    · simp only [visit, hk, Bool.false_eq_true, if_false, Except.error.injEq] at hv
      subst hv
      exact .inr ⟨[], t, _, _, .single ha, sameKey_nil k memory, rfl, by simpa using hk, rfl⟩
  | @pass tally tally' s t answer ha hv rest ih =>
    subst htally
    by_cases hk : ((key (current t) memory).1 == k) = true
    · simp only [visit, hk, if_true, Except.ok.injEq] at hv
      rcases ih _ _ hv with ⟨xs, u, hd, hx, rfl⟩ | ⟨xs, u, k', memory', hr, hx, hk', hne, rfl⟩
      · exact .inl ⟨current t :: xs, u, .item ha hd, sameKey_cons hk hx, by simp⟩
      · exact .inr ⟨current t :: xs, u, k', memory', .cons ha hr, sameKey_cons hk hx, hk', hne,
          by simp⟩
    · simp [visit, hk] at hv

variable [∀ k, SweepsEnd σ (visit key k)]

/-- The group that starts with `a`, whose key is `k`, while the source within has not stopped. -/
inductive Gathered (k : ξ) (a : α) (s : Group σ key) : Group σ key → Prop
  | next {xs : List α} {t : σ} {k' : ξ} {memory' : κ} (h : Reads s.inner (xs ++ [current t]) t)
    (hx : SameKey key k s.memory xs) (hk : key (current t) (key.after s.memory xs) = (k', memory'))
    (hne : (k' == k) = false) :
    Gathered k a s
      { inner := t, memory := memory', pending := some (k', current t), slot := some (a :: xs) }
  | last {xs : List α} {t : σ} (h : Drains s.inner xs t) (hx : SameKey key k s.memory xs) :
    Gathered k a s
      { inner := t, memory := key.after s.memory xs, slot := some (a :: xs),
        ending := .ofError (Source.error t) }

theorem gathered_gather (k : ξ) (a : α) {s : Group σ key} (hr : s.ending.isRunning = true) :
    Gathered k a s (s.gather k a) := by
  unfold gather
  rw [if_pos hr]
  rcases sweep_visit_cases key k [a] s.memory s.inner with
    ⟨xs, t, h, hx, he⟩ | ⟨xs, t, k', memory', h, hx, hk, hne, he⟩
  · rw [he]
    simpa using Gathered.last h hx
  · rw [he]
    simpa using Gathered.next h hx hk hne

theorem advance_of_pending {s : Group σ key} {k : ξ} {a : α} (hp : s.pending = some (k, a)) :
    s.advance = (true, s.gather k a) := by
  simp [advance, hp]

theorem advance_of_stop {s : Group σ key} {t : σ} (hp : s.pending = none)
    (hr : s.ending.isRunning = true) (h : Source.advance s.inner = (false, t)) :
    s.advance =
      (false,
        { s with
          inner := t
          slot := none
          ending := (Ending.ofError (Source.error t)).settle }) := by
  simp [advance, hp, hr, h]

theorem advance_of_item {s : Group σ key} {t : σ} (hp : s.pending = none)
    (hr : s.ending.isRunning = true) (h : Source.advance s.inner = (true, t)) :
    s.advance =
      (true, gather (key (current t) s.memory).1 (current t)
        { s with inner := t, memory := (key (current t) s.memory).2 }) := by
  simp [advance, hp, hr, h]

theorem advance_of_not_running {s : Group σ key} (hp : s.pending = none)
    (hr : s.ending.isRunning = false) :
    s.advance = (false, { s with slot := none, ending := s.ending.settle }) := by
  simp [advance, hp, hr]

end PullStreams.Group
