import PullStreams.Double.Source
import PullStreams.Proofs.Run
import PullStreams.Source.Choice

namespace PullStreams.Source

/-- What is asked of `s` and of `f s` gets the same answers, for ever. -/
structure Passes {σ : Type u} {τ : Type v} {α : Type w} [Source σ α] [Source τ α] (f : σ → τ) :
    Prop where
  advance (s : σ) : advance (f s) = (advance s).map id f
  current (s : σ) : current (f s) = current s
  error (s : σ) : error (f s) = error s
  close (s : σ) : close (f s) = (close s).map id f

theorem passes_sigma {ι : Type u} {σ : ι → Type v} {α : Type w} [∀ i, Source (σ i) α] (i : ι) :
    Passes (Sigma.mk i : σ i → (i : ι) × σ i) where
  advance _ := rfl
  current _ := rfl
  error _ := rfl
  close _ := rfl

theorem passes_id {σ : Type u} {α : Type v} [Source σ α] : Passes (id : σ → σ) where
  advance _ := rfl
  current _ := rfl
  error _ := rfl
  close _ := rfl

theorem passes_inl {σ : Type u} {τ : Type v} {α : Type w} [Source σ α] [Source τ α] :
    Passes (Sum.inl : σ → σ ⊕ τ) where
  advance _ := rfl
  current _ := rfl
  error _ := rfl
  close _ := rfl

theorem passes_inr {σ : Type u} {τ : Type v} {α : Type w} [Source σ α] [Source τ α] :
    Passes (Sum.inr : τ → σ ⊕ τ) where
  advance _ := rfl
  current _ := rfl
  error _ := rfl
  close _ := rfl

theorem passes_counted {σ : Type u} {α : Type v} [Source σ α] :
    Passes (Double.CountedSource.inner : Double.CountedSource σ → σ) where
  advance _ := rfl
  current _ := rfl
  error _ := rfl
  close _ := rfl

namespace Passes
variable {σ : Type u} {τ : Type v} {α : Type w} [Source σ α] [Source τ α] {f : σ → τ}
  {s t : σ} {t' : τ} {xs : List α} {b : Bool}

theorem comp {υ : Type x} [Source υ α] {g : τ → υ} (hg : Passes g) (hf : Passes f) :
    Passes (g ∘ f) where
  advance s := by
    show Source.advance (g (f s)) = _
    rw [hg.advance, hf.advance]
    rfl
  current s := (hg.current (f s)).trans (hf.current s)
  error s := (hg.error (f s)).trans (hf.error s)
  close s := by
    show Source.close (g (f s)) = _
    rw [hg.close, hf.close]
    rfl

theorem advance_eq (hf : Passes f) (h : Source.advance s = (b, t)) :
    Source.advance (f s) = (b, f t) := by
  rw [hf.advance, h]
  rfl

theorem exists_advance_eq (hf : Passes f) (h : Source.advance (f s) = (b, t')) :
    ∃ t, f t = t' ∧ Source.advance s = (b, t) := by
  rw [hf.advance] at h
  obtain ⟨h1, h2⟩ := Prod.mk.inj h
  exact ⟨_, h2, Prod.ext h1 rfl⟩

theorem drains (hf : Passes f) (h : Drains s xs t) : Drains (f s) xs (f t) := by
  induction h with
  | stop h => exact .stop (hf.advance_eq h)
  | @item s t u xs h _ ih =>
    rw [← hf.current]
    exact .item (hf.advance_eq h) ih

theorem reads (hf : Passes f) (h : Reads s xs t) : Reads (f s) xs (f t) := by
  induction h with
  | nil s => exact .nil (f s)
  | @cons s t u xs h _ ih =>
    rw [← hf.current]
    exact .cons (hf.advance_eq h) ih

theorem exists_drains (hf : Passes f) (h : Drains (f s) xs t') : ∃ t, f t = t' ∧ Drains s xs t := by
  generalize hs : f s = s' at h
  induction h generalizing s with
  | stop h =>
    subst hs
    obtain ⟨t, rfl, ht⟩ := hf.exists_advance_eq h
    exact ⟨t, rfl, .stop ht⟩
  | item h _ ih =>
    subst hs
    obtain ⟨t, rfl, ht⟩ := hf.exists_advance_eq h
    obtain ⟨u, rfl, hu⟩ := ih rfl
    refine ⟨u, rfl, ?_⟩
    rw [hf.current]
    exact .item ht hu

theorem sweepsTo (hf : Passes f) {β : Type x} {ε : Type y} {visit : β → τ → Except ε β}
    {tally : β} {answer : Except ε β × σ}
    (h : SweepsTo (fun tally t => visit tally (f t)) tally s answer) :
    SweepsTo visit tally (f s) (answer.map id f) := by
  induction h with
  | stop ha => exact .stop (hf.advance_eq ha)
  | halt ha hv => exact .halt (hf.advance_eq ha) hv
  | pass ha hv _ ih => exact .pass (hf.advance_eq ha) hv ih

theorem sweep (hf : Passes f) {β : Type x} {ε : Type y} (visit : β → τ → Except ε β) (tally : β)
    (s : σ) [SweepEnds (fun tally t => visit tally (f t)) tally s] [SweepEnds visit tally (f s)] :
    sweep visit tally (f s) = (sweep (fun tally t => visit tally (f t)) tally s).map id f :=
  (hf.sweepsTo sweepsTo_sweep).sweep_eq

end Passes
end PullStreams.Source
