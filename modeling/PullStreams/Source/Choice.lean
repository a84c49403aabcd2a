import PullStreams.Source

namespace PullStreams

instance {σ : Type u} {τ : Type v} {α : Type w} [Source σ α] [Source τ α] : Source (σ ⊕ τ) α where
  advance
    | .inl s => (Source.advance s).map id .inl
    | .inr s => (Source.advance s).map id .inr
  current := Sum.elim Source.current Source.current
  error := Sum.elim Source.error Source.error
  close
    | .inl s => (Source.close s).map id .inl
    | .inr s => (Source.close s).map id .inr

instance {σ : Type u} {τ : Type v} {α : Type w} [Source σ α] [Source τ α] [FiniteSource σ]
    [FiniteSource τ] : FiniteSource (σ ⊕ τ) where
  wf := by
    refine ⟨fun s => ?_⟩
    cases s with
    | inl s =>
      induction s using (FiniteSource.wf (σ := σ)).induction with
      | _ s ih =>
        refine ⟨_, fun t h => ?_⟩
        cases t <;> simp [Source.After, Source.advance, Prod.ext_iff] at h
        exact ih _ (Prod.ext h.1 h.2)
    | inr s =>
      induction s using (FiniteSource.wf (σ := τ)).induction with
      | _ s ih =>
        refine ⟨_, fun t h => ?_⟩
        cases t <;> simp [Source.After, Source.advance, Prod.ext_iff] at h
        exact ih _ (Prod.ext h.1 h.2)

instance {ι : Type u} {σ : ι → Type v} {α : Type w} [∀ i, Source (σ i) α] :
    Source ((i : ι) × σ i) α where
  advance := fun ⟨i, s⟩ => (Source.advance s).map id (⟨i, ·⟩)
  current := fun ⟨_, s⟩ => Source.current s
  error := fun ⟨_, s⟩ => Source.error s
  close := fun ⟨i, s⟩ => (Source.close s).map id (⟨i, ·⟩)

instance {ι : Type u} {σ : ι → Type v} {α : Type w} [∀ i, Source (σ i) α]
    [∀ i, FiniteSource (σ i)] : FiniteSource ((i : ι) × σ i) where
  wf := by
    refine ⟨fun ⟨i, s⟩ => ?_⟩
    induction s using (FiniteSource.wf (σ := σ i)).induction with
    | _ s ih =>
      refine ⟨_, fun ⟨j, t⟩ h => ?_⟩
      simp only [Source.After, Source.advance, Prod.ext_iff, Prod.map_fst, Prod.map_snd,
        Sigma.mk.injEq] at h
      obtain ⟨ha, rfl, ht⟩ := h
      exact ih _ (Prod.ext ha (eq_of_heq ht))

end PullStreams
