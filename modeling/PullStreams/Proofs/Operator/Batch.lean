import PullStreams.Proofs.Run
import PullStreams.Operator.Batch

namespace PullStreams.Batch
open Source
variable {σ : Type u} {α : Type v} [Source σ α] {size : Nat}

theorem fill_of_reads {s t : σ} {xs : List α} (h : Reads s xs t) (buffer : List α) :
    fill xs.length buffer s = (buffer.reverse ++ xs, false, t) := by
  induction h generalizing buffer with
  | nil => simp [fill]
  | cons h _ ih =>
    simp only [List.length_cons, fill, h]
    rw [ih]
    simp

theorem fill_of_drains {s t : σ} {xs : List α} (h : Drains s xs t) {room : Nat}
    (hroom : xs.length < room) (buffer : List α) :
    fill room buffer s = (buffer.reverse ++ xs, true, t) := by
  induction h generalizing room buffer with
  | stop h =>
    obtain ⟨room, rfl⟩ := Nat.exists_eq_add_of_lt hroom
    simp [fill, h]
  | item h _ ih =>
    obtain ⟨room, rfl⟩ := Nat.exists_eq_add_of_lt hroom
    simp only [List.length_cons] at hroom ⊢
    rw [fill, h]
    simp only
    rw [ih (by omega)]
    simp

/-- A source has as many items as are wanted, or stops before. -/
theorem reads_or_drains (room : Nat) (s : σ) :
    (∃ xs t, xs.length = room ∧ Reads s xs t) ∨ ∃ xs t, xs.length < room ∧ Drains s xs t := by
  induction room generalizing s with
  | zero => exact .inl ⟨[], s, rfl, .nil s⟩
  | succ room ih =>
    match h : Source.advance s with
    | (false, t) => exact .inr ⟨[], t, Nat.succ_pos room, .stop h⟩
    | (true, t) =>
      rcases ih t with ⟨xs, u, hl, hr⟩ | ⟨xs, u, hl, hd⟩
      · exact .inl ⟨Source.current t :: xs, u, congrArg (· + 1) hl, .cons h hr⟩
      · exact .inr ⟨Source.current t :: xs, u, Nat.succ_lt_succ hl, .item h hd⟩

/-- What an advance does while the source within has not stopped. -/
inductive Step (s : Batch σ size) : Bool × Batch σ size → Prop
  | full {xs : List α} {t : σ} (hl : xs.length = max size 1) (h : Reads s.inner xs t) :
    Step s (true, { inner := t, slot := some xs })
  | last {xs : List α} {t : σ} (hne : xs ≠ []) (hl : xs.length < max size 1)
    (h : Drains s.inner xs t) :
    Step s (true, { inner := t, slot := some xs, ending := .ofError (Source.error t) })
  | stop {t : σ} (h : Source.advance s.inner = (false, t)) :
    Step s (false, { inner := t, ending := (Ending.ofError (Source.error t)).settle })

theorem step_advance {s : Batch σ size} (hr : s.ending.isRunning = true) : Step s s.advance := by
  unfold advance
  rw [if_pos hr]
  rcases reads_or_drains (max size 1) s.inner with ⟨xs, t, hl, h⟩ | ⟨xs, t, hl, h⟩
  · have hf := fill_of_reads h []
    rw [hl] at hf
    rw [hf]
    cases xs with
    | nil => simp at hl; omega
    | cons a xs => exact .full hl h
  · rw [fill_of_drains h hl]
    cases h with
    | stop h => exact .stop h
    | item h rest => exact .last (List.cons_ne_nil _ _) hl (.item h rest)

theorem advance_of_not_running {s : Batch σ size} (hr : s.ending.isRunning = false) :
    s.advance = (false, { s with slot := none, ending := s.ending.settle }) := by
  simp [advance, hr]

end PullStreams.Batch
