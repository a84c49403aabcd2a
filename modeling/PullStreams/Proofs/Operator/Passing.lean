import PullStreams.Operator.Batch
import PullStreams.Proofs.Operator.Group
import PullStreams.Proofs.Passing

namespace PullStreams
open Source

namespace Batch
variable {σ : Type u} {τ : Type v} {α : Type w} [Source σ α] [Source τ α] {size : Nat}

def mapInner (f : σ → τ) (s : Batch σ size) : Batch τ size := { s with inner := f s.inner }

theorem fill_mapInner {f : σ → τ} (hf : Passes f) (room : Nat) (buffer : List α) (s : σ) :
    fill room buffer (f s) = (fill room buffer s).map id (Prod.map id f) := by
  induction room generalizing buffer s with
  | zero => rfl
  | succ room ih =>
    match h : Source.advance s with
    | (false, t) =>
      rw [fill, fill, h, hf.advance_eq h]
      rfl
    | (true, t) =>
      rw [fill, fill, h, hf.advance_eq h]
      simp only [hf.current]
      exact ih _ t

theorem passes_mapInner {f : σ → τ} (hf : Passes f) :
    Passes (mapInner f : Batch σ size → Batch τ size) where
  advance s := by
    show advance (mapInner f s) = s.advance.map id (mapInner f)
    unfold advance mapInner
    simp only [fill_mapInner hf]
    split
    · obtain ⟨items, stopped, t⟩ := fill (max size 1) [] s.inner
      simp only [Prod.map, id]
      cases items with
      | nil => simp [hf.error]
      | cons a items => simp [hf.error]
    · rfl
  current _ := rfl
  error _ := rfl
  close s := by
    simp only [Source.close, mapInner, hf.close]
    rfl

end Batch

namespace Group
variable {σ : Type u} {τ : Type v} {α : Type w} [Source σ α] [Source τ α] {κ : Type x}
  {ξ : Type y} [BEq ξ] {key : Callback α κ ξ} [∀ k, SweepsEnd σ (visit key k)]
  [∀ k, SweepsEnd τ (visit key k)]

omit [Source σ α] [Source τ α] [BEq ξ] [∀ k, SweepsEnd σ (visit key k)]
  [∀ k, SweepsEnd τ (visit key k)] in
def mapInner (f : σ → τ) (s : Group σ key) : Group τ key := { s with inner := f s.inner }

theorem gather_mapInner {f : σ → τ} (hf : Passes f) (k : ξ) (a : α) (s : Group σ key) :
    gather k a (mapInner f s) = mapInner f (gather k a s) := by
  have hv : (fun tally t => visit key k tally (f t)) = visit key k := by
    funext tally t
    simp only [visit, hf.current]
  have hs : sweep (visit key k) ([a], s.memory) (f s.inner) =
      (sweep (visit key k) ([a], s.memory) s.inner).map id f := by
    apply SweepsTo.sweep_eq
    apply hf.sweepsTo
    rw [hv]
    exact sweepsTo_sweep
  unfold gather mapInner
  simp only [hs]
  split
  · obtain ⟨result, t⟩ := sweep (visit key k) ([a], s.memory) s.inner
    cases result with
    | error halt => rfl
    | ok tally => simp [hf.error]
  · rfl

theorem passes_mapInner {f : σ → τ} (hf : Passes f) :
    Passes (mapInner f : Group σ key → Group τ key) where
  advance s := by
    show advance (mapInner f s) = s.advance.map id (mapInner f)
    cases hp : s.pending with
    | some next =>
      obtain ⟨k, a⟩ := next
      rw [advance_of_pending hp, advance_of_pending (s := mapInner f s) hp, gather_mapInner hf]
      rfl
    | none =>
      cases hr : s.ending.isRunning with
      | false =>
        rw [advance_of_not_running hp hr, advance_of_not_running (s := mapInner f s) hp hr]
        rfl
      | true =>
        match h : Source.advance s.inner with
        | (false, t) =>
          rw [advance_of_stop hp hr h, advance_of_stop (s := mapInner f s) hp hr (hf.advance_eq h),
            hf.error]
          rfl
        | (true, t) =>
          rw [advance_of_item hp hr h, advance_of_item (s := mapInner f s) hp hr (hf.advance_eq h),
            hf.current]
          exact Prod.ext rfl (gather_mapInner hf _ _
            { s with inner := t, memory := (key (Source.current t) s.memory).2 })
  current _ := rfl
  error _ := rfl
  close s := by
    simp only [Source.close, mapInner, hf.close]
    rfl

end Group
end PullStreams
