import PullStreams.Source.Concat

namespace PullStreams.Concat
variable {σ : Type u} {α : Type v} [Source σ α]

theorem advance_nil (passed : List σ) :
    advance { passed, ahead := [] } = (false, { passed, ahead := [] }) := rfl

theorem advance_of_item {s t : σ} (h : Source.advance s = (true, t)) (passed rest : List σ) :
    advance { passed, ahead := s :: rest } = (true, { passed, ahead := t :: rest }) := by
  simp [advance, seek, h]

theorem advance_of_failure {s t : σ} (h : Source.advance s = (false, t)) {e : StreamFault}
    (he : failure? (Source.error t) = some e) (passed rest : List σ) :
    advance { passed, ahead := s :: rest } =
      (false, { passed, ahead := t :: rest, stopped := some e }) := by
  simp [advance, seek, h, he]

/-- A member that ends is passed over in the same advance. -/
theorem advance_of_end {s t : σ} (h : Source.advance s = (false, t))
    (he : failure? (Source.error t) = none) (passed rest : List σ) :
    advance { passed, ahead := s :: rest } =
      advance { passed := passed ++ [t], ahead := rest } := by
  simp [advance, seek, h, he]

end PullStreams.Concat
