import PullStreams.Proofs.Operator.Batch
import PullStreams.Source.Listed

namespace PullStreams.Batch
open Source
variable {σ : Type u} {α : Type v} [Source σ α] {size : Nat} {b b' : Batch σ size}

theorem fst_advance_of_not_running (hr : b.ending.isRunning = false) :
    (Source.advance b).1 = false ∧ (Source.advance b).2.ending.isRunning = false := by
  have h : Source.advance b = _ := advance_of_not_running hr
  rw [h]
  exact ⟨rfl, by rw [Ending.isRunning_settle, hr]⟩

/-- After `k` advances the source within has been read past `k` full batches, or has stopped with
fewer items. -/
theorem advances_cases (hr : b.ending.isRunning = true) (k : Nat) :
    (∃ xs, xs.length = k * max size 1 ∧ Reads b.inner xs (advances k b).inner ∧
      (advances k b).ending.isRunning = true) ∨
    ∃ xs t, xs.length < k * max size 1 ∧ Drains b.inner xs t ∧
      (advances k b).ending.isRunning = false := by
  induction k with
  | zero => exact .inl ⟨[], by simp, .nil _, hr⟩
  | succ k ih =>
    rw [advances, Nat.succ_mul]
    rcases ih with ⟨xs, hl, hx, hk⟩ | ⟨xs, t, hl, hd, hk⟩
    · have hstep : Step _ (Source.advance (advances k b)) := step_advance hk
      generalize Source.advance (advances k b) = r at hstep ⊢
      cases hstep with
      | full hly h => exact .inl ⟨_, by rw [List.length_append, hl, hly], hx.trans h, rfl⟩
      | last hne hly h =>
        refine .inr ⟨_, _, ?_, hx.drains h, Ending.isRunning_ofError _⟩
        rw [List.length_append, hl]
        omega
      | stop h =>
        have hd := hx.drains (.stop h)
        rw [List.append_nil] at hd
        exact .inr ⟨xs, _, by omega, hd, by rw [Ending.isRunning_settle, Ending.isRunning_ofError]⟩
    · exact .inr ⟨xs, t, by omega, hd, (fst_advance_of_not_running hk).2⟩

/-- An advance yields if there is an item left, and takes as many as there are for one batch. -/
theorem advance_eq_firstItems (hr : b.ending.isRunning = true) :
    ((Source.advance b).1 = true ↔ 0 < (firstItems 1 b.inner).length) ∧
    ((Source.advance b).1 = true →
      current (Source.advance b).2 = firstItems (max size 1) b.inner) := by
  have hstep : Step b (Source.advance b) := step_advance hr
  generalize Source.advance b = r at hstep
  cases hstep with
  | @full xs t hl h =>
    cases h with
    | nil => simp at hl; omega
    | cons ha rest =>
      refine ⟨by simp [firstItems_of_item ha], fun _ => ?_⟩
      have hf := (Reads.cons ha rest).firstItems_add 0
      rw [Nat.add_zero, hl] at hf
      rw [hf]
      exact (List.append_nil _).symm
  | @last xs t hne hl h =>
    cases h with
    | stop => exact absurd rfl hne
    | item ha rest =>
      refine ⟨by simp [firstItems_of_item ha], fun _ => ?_⟩
      exact ((Drains.item ha rest).firstItems_eq (Nat.le_of_lt hl)).symm
  | stop h => simp [firstItems_of_stop h]

/-- The batches together are the items, as far as they have been delivered. -/
theorem flatten_firstItems (hr : b.ending.isRunning = true) (k : Nat) :
    (firstItems k b).flatten = firstItems (k * max size 1) b.inner := by
  induction k generalizing b with
  | zero => rw [Nat.zero_mul]; rfl
  | succ k ih =>
    have hstep : Step b (Source.advance b) := step_advance hr
    generalize ha : Source.advance b = r at hstep
    rw [Nat.succ_mul, Nat.add_comm (k * _)]
    cases hstep with
    | @full xs t hl h =>
      rw [firstItems_of_item ha, List.flatten_cons, ih rfl, ← hl, h.firstItems_add]
      rfl
    | @last xs t hne hl h =>
      have hover : firstItems k ({ inner := t, slot := some xs, ending := .ofError (error t) } :
          Batch σ size) = [] :=
        firstItems_of_stop (advance_of_not_running (Ending.isRunning_ofError _)) k
      rw [firstItems_of_item ha, hover, h.firstItems_eq (by omega)]
      exact List.append_nil xs
    | stop h =>
      rw [firstItems_of_stop ha, firstItems_of_stop h]
      rfl

/-- Nothing more is pulled once the source within has stopped. -/
theorem pulls_of_not_running (hr : b.ending.isRunning = false) {batches : List (List α)}
    {ended : Bool} (h : Pulls b batches ended b') :
    batches = [] ∧ b'.inner = b.inner ∧ b'.ending.isRunning = false := by
  have hover : Source.advance b = _ := advance_of_not_running hr
  cases h with
  | nil => exact ⟨rfl, rfl, hr⟩
  | stop ha =>
    obtain rfl := (Prod.mk.inj (hover.symm.trans ha)).2
    exact ⟨rfl, rfl, by rw [Ending.isRunning_settle, hr]⟩
  | item ha => cases hover.symm.trans ha

/-- The items pulled are those of the batches that were delivered. -/
theorem pulls_inner (hr : b.ending.isRunning = true) {batches : List (List α)} {ended : Bool}
    (h : Pulls b batches ended b') :
    Pulls b.inner batches.flatten (!b'.ending.isRunning) b'.inner ∧
    (ended = true → b'.ending.isRunning = false) := by
  induction h with
  | nil b =>
    rw [hr]
    exact ⟨.nil b.inner, nofun⟩
  | @stop b b' ha =>
    have hstep : Step b (Source.advance b) := step_advance hr
    rw [ha] at hstep
    cases hstep with
    | @stop t h =>
      have hover : (Ending.ofError (error t)).settle.isRunning = false := by
        rw [Ending.isRunning_settle, Ending.isRunning_ofError]
      rw [hover]
      exact ⟨.stop h, fun _ => rfl⟩
  | @item b c b' batches ended ha rest ih =>
    have hstep : Step b (Source.advance b) := step_advance hr
    rw [ha] at hstep
    cases hstep with
    | @full xs t hl h => exact ⟨h.pulls (ih rfl).1, (ih rfl).2⟩
    | @last xs t hne hl h =>
      obtain ⟨rfl, hi, hover⟩ := pulls_of_not_running (Ending.isRunning_ofError _) rest
      rw [hi, hover, List.flatten_singleton]
      exact ⟨pulls_true_iff.2 h, fun _ => rfl⟩

/-- The items of batch number `k`, the first of which is number 0. -/
theorem advance_advances_eq_firstItems (size : Nat) (s : σ) (k : Nat) :
    let b : Batch σ size := advances k { inner := s }
    ((Source.advance b).1 = true ↔
      k * max size 1 < (firstItems (k * max size 1 + 1) s).length) ∧
    ((Source.advance b).1 = true →
      current (Source.advance b).2 =
        (firstItems ((k + 1) * max size 1) s).drop (k * max size 1)) := by
  intro b
  have hr : ({ inner := s } : Batch σ size).ending.isRunning = true := rfl
  rcases advances_cases hr k with ⟨xs, hl, hx, hb⟩ | ⟨xs, t, hl, hd, hb⟩
  · obtain ⟨hmore, hcur⟩ := advance_eq_firstItems hb
    constructor
    · rw [hmore, ← hl, hx.firstItems_add, List.length_append, Nat.lt_add_right_iff_pos]
    · intro h
      rw [hcur h, Nat.succ_mul, ← hl, hx.firstItems_add, List.drop_left]
  · have hf : (Source.advance b).1 = false := (fst_advance_of_not_running hb).1
    have hd : Drains s xs t := hd
    have hlt : ¬k * max size 1 < xs.length := by omega
    rw [hf, hd.firstItems_eq (by omega)]
    simp [hlt]

/-- Batch number `k` is delivered if the source has an item for it, and has the items that come next
up to the full size or the stop. So a batch that another one follows is full, none is empty, and all
together are the items of the source. -/
theorem batches_cut_items (size : Nat) (s : σ) :
    let start : Batch σ size := { inner := s }
    let n := max size 1
    (∀ k, (Source.advance (advances k start)).1 = true ↔
      k * n < (firstItems (k * n + 1) s).length) ∧
    (∀ k, (Source.advance (advances k start)).1 = true →
      current (advances (k + 1) start) = (firstItems ((k + 1) * n) s).drop (k * n) ∧
      0 < (current (advances (k + 1) start)).length ∧
      (current (advances (k + 1) start)).length ≤ n ∧
      ((Source.advance (advances (k + 1) start)).1 = true →
        (current (advances (k + 1) start)).length = n)) ∧
    ∀ k, (firstItems k start).flatten = firstItems (k * n) s := by
  intro start n
  have hcut k := advance_advances_eq_firstItems size s k
  refine ⟨fun k => (hcut k).1, fun k hk => ?_, fun k => flatten_firstItems rfl k⟩
  have hcur : current (advances (k + 1) start) = (firstItems ((k + 1) * n) s).drop (k * n) :=
    (hcut k).2 hk
  have hlt : k * n < (firstItems (k * n + 1) s).length := (hcut k).1.1 hk
  have hn : k * n + 1 ≤ (k + 1) * n := by rw [Nat.succ_mul]; omega
  have hle : (firstItems ((k + 1) * n) s).length ≤ (k + 1) * n := length_firstItems_le _ s
  rw [← take_firstItems hn, List.length_take] at hlt
  rw [hcur, List.length_drop]
  refine ⟨rfl, by omega, by rw [Nat.succ_mul] at hle ⊢; omega, fun hnext => ?_⟩
  have hlt' : (k + 1) * n < (firstItems ((k + 1) * n + 1) s).length := (hcut (k + 1)).1.1 hnext
  rw [← take_firstItems (Nat.le_succ _), List.length_take, Nat.min_eq_left (Nat.le_of_lt hlt'),
    Nat.succ_mul, Nat.add_sub_cancel_left]

example : firstItems 4 ({ inner := .ofList [1, 2, 3, 4, 5] } : Batch (ListSource Nat) 2) =
    [[1, 2], [3, 4], [5]] := by rfl

end PullStreams.Batch
