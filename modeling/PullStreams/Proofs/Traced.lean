import PullStreams.Source

namespace PullStreams.Source

inductive Touch (α : Type u) where
  | item (a : α)
  | stop (error : Option StreamFault)
  | close (answer : Except StreamFault Unit)

structure Traced (σ : Type u) {α : Type v} [Source σ α] where
  inner : σ
  log : List (Touch α) := []

namespace Traced
variable {σ : Type u} {α : Type v} [Source σ α]

def advance (r : Traced σ) : Bool × Traced σ :=
  match Source.advance r.inner with
  | (true, t) => (true, ⟨t, r.log ++ [.item (Source.current t)]⟩)
  | (false, t) => (false, ⟨t, r.log ++ [.stop (Source.error t)]⟩)

def close (r : Traced σ) : Except StreamFault Unit × Traced σ :=
  let (answer, t) := Source.close r.inner
  (answer, ⟨t, r.log ++ [.close answer]⟩)

instance : Source (Traced σ) α where
  advance := advance
  current r := Source.current r.inner
  error r := Source.error r.inner
  close := close

variable {s t : σ} {log : List (Touch α)}

theorem advance_of_item (h : Source.advance s = (true, t)) :
    Source.advance (⟨s, log⟩ : Traced σ) = (true, ⟨t, log ++ [.item (Source.current t)]⟩) := by
  show advance _ = _
  simp [advance, h]

theorem advance_of_stop (h : Source.advance s = (false, t)) :
    Source.advance (⟨s, log⟩ : Traced σ) = (false, ⟨t, log ++ [.stop (Source.error t)]⟩) := by
  show advance _ = _
  simp [advance, h]

variable {r r' : Traced σ}

theorem log_of_item (h : Source.advance r = (true, r')) :
    r'.log = r.log ++ [.item (Source.current r')] := by
  change r.advance = (true, r') at h
  unfold advance at h
  split at h
  · obtain rfl := (Prod.mk.inj h).2
    rfl
  · simp at h

theorem log_of_stop (h : Source.advance r = (false, r')) :
    r'.log = r.log ++ [.stop (Source.error r')] := by
  change r.advance = (false, r') at h
  unfold advance at h
  split at h
  · simp at h
  · obtain rfl := (Prod.mk.inj h).2
    rfl

theorem log_close (r : Traced σ) :
    (Source.close r).2.log = r.log ++ [.close (Source.close r).1] := rfl

end Traced
end PullStreams.Source
