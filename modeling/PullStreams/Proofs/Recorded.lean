import PullStreams.Proofs.Passing

namespace PullStreams.Source

/-- What an advance found. -/
inductive Finding (α : Type u) where
  | item (a : α)
  | stop (error : Option StreamFault)
  deriving DecidableEq

structure Recorded (σ : Type u) {α : Type v} [Source σ α] where
  inner : σ
  log : List (Finding α) := []

namespace Recorded
variable {σ : Type u} {α : Type v} [Source σ α]

def advance (r : Recorded σ) : Bool × Recorded σ :=
  match Source.advance r.inner with
  | (true, t) => (true, ⟨t, r.log ++ [.item (Source.current t)]⟩)
  | (false, t) => (false, ⟨t, r.log ++ [.stop (Source.error t)]⟩)

instance : Source (Recorded σ) α where
  advance := advance
  current r := Source.current r.inner
  error r := Source.error r.inner
  close r := (Source.close r.inner).map id ({ r with inner := · })

theorem passes_inner : Passes (inner : Recorded σ → σ) where
  advance r := by
    show Source.advance r.inner = r.advance.map id inner
    unfold advance
    split <;> assumption
  current _ := rfl
  error _ := rfl
  close _ := rfl

instance [FiniteSource σ] : FiniteSource (Recorded σ) :=
  .of_inner inner fun _ _ h => .single (passes_inner.advance_eq h)

variable {r r' : Recorded σ} {xs : List α}

theorem log_of_item (h : Source.advance r = (true, r')) :
    r'.log = r.log ++ [.item (Source.current r')] := by
  change r.advance = (true, r') at h
  unfold advance at h
  split at h
  · obtain rfl := (Prod.mk.inj h).2
    rfl
  · simp at h

theorem log_of_stop (h : Source.advance r = (false, r')) :
    r'.log = r.log ++ [.stop (Source.error r')] := by
  change r.advance = (false, r') at h
  unfold advance at h
  split at h
  · simp at h
  · obtain rfl := (Prod.mk.inj h).2
    rfl

theorem log_of_reads (h : Reads r xs r') : r'.log = r.log ++ xs.map .item := by
  induction h with
  | nil => simp
  | cons h _ ih =>
    rw [ih, log_of_item h]
    simp

theorem log_of_drains (h : Drains r xs r') :
    r'.log = r.log ++ xs.map .item ++ [.stop (Source.error r')] := by
  induction h with
  | stop h =>
    rw [log_of_stop h]
    simp
  | item h _ ih =>
    rw [ih, log_of_item h]
    simp

end Recorded

/-- The log of a source that has not stopped is not that of one that has. -/
theorem Finding.map_item_ne {α : Type u} (xs ys : List α) (e : Option StreamFault) :
    xs.map Finding.item ≠ ys.map .item ++ [.stop e] := by
  intro h
  have hm : Finding.stop e ∈ xs.map .item := by
    rw [h]
    simp
  simp at hm

theorem Finding.append_stop_inj {α : Type u} {xs ys : List α} {e e' : Option StreamFault}
    (h : xs.map Finding.item ++ [.stop e] = ys.map .item ++ [.stop e']) : xs = ys ∧ e = e' := by
  obtain ⟨hx, he⟩ := List.append_inj' h rfl
  have hinj : ∀ a b : α, Finding.item a = .item b → a = b := by
    intro a b hab
    cases hab
    rfl
  exact ⟨(List.map_inj_right hinj).1 hx, by simpa using he⟩

end PullStreams.Source
