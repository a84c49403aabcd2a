import PullStreams.Proofs.Source.Cursor
import PullStreams.Proofs.Source.Stored

namespace PullStreams

namespace Report

/-- The end of a stream, under any contexts. -/
inductive WrapsEnd : Report → Prop
  | ended : WrapsEnd (.stream .ended)
  | context (m : String) {inner : Report} (h : WrapsEnd inner) : WrapsEnd (.context m inner)

theorem toStreamFault_eq_ended_iff (r : Report) : r.toStreamFault = .ended ↔ r.WrapsEnd := by
  constructor
  · intro h
    induction r with
    | text m => simp [toStreamFault, streamFault?] at h
    | stream e =>
      obtain rfl : e = .ended := h
      exact .ended
    | io fault => simp [toStreamFault, streamFault?] at h
    | context m inner ih =>
      refine .context m (ih ?_)
      -- The messages of the context count only where no stream's error is underneath.
      cases hs : inner.streamFault? with
      | none => simp [toStreamFault, streamFault?, hs] at h
      | some e => simpa [toStreamFault, streamFault?, hs] using h
  · intro h
    have hs : r.streamFault? = some .ended := by
      induction h with
      | ended => rfl
      | context m _ ih => exact ih
    rw [toStreamFault, hs]
    rfl

instance (r : Report) : Decidable r.WrapsEnd :=
  decidable_of_iff _ r.toStreamFault_eq_ended_iff

end Report

open Source

/-- A stop that keeps a report is told as the stream's error in it. -/
theorem Source.collect_of_report {σ : Type u} {α : Type v} [Source σ α] {s t : σ} {xs : List α}
    {r : Report} (hd : Drains s xs t) [Ends s] (he : error t = some r.toStreamFault) :
    (collect s).1 = if r.WrapsEnd then .ok xs else .error r.toStreamFault := by
  have hend := r.toStreamFault_eq_ended_iff
  rw [collect_of_drains hd, he, verdict]
  by_cases hr : r.WrapsEnd
  · rw [hend.2 hr, if_pos hr]
    rfl
  · have hf : failure? (some r.toStreamFault) = some r.toStreamFault := by
      unfold failure?
      split <;> simp_all
    rw [hf, if_neg hr]

/-- The items before the one that `f` rejects come through, and its report is kept. -/
theorem TryMap.drains_of_rejected {σ : Type u} {α : Type v} {κ : Type w} {β : Type x} [Source σ α]
    [Inhabited β] {f : Callback α κ (Except Report β)} {s t : σ} {xs : List α} {bs : List β}
    {memory : κ} {r : Report} (hr : Reads s xs t)
    (hf : f.attemptList memory xs = (bs, some r)) (slot : Option β) :
    ∃ u, Drains ({ inner := s, memory, slot } : TryMap σ f) bs u ∧
      error u = some r.toStreamFault := by
  induction hr generalizing memory bs slot with
  | nil => simp [Callback.attemptList] at hf
  | @cons s t u xs ha rest ih =>
    rcases hfa : f (current t) memory with ⟨e | b, memory'⟩
    · simp only [Callback.attemptList, hfa, Prod.mk.injEq, Option.some.injEq] at hf
      obtain ⟨rfl, rfl⟩ := hf
      exact ⟨_, .stop (advance_of_error rfl ha hfa), rfl⟩
    · rcases hrest : f.attemptList memory' xs with ⟨cs, failed⟩
      simp only [Callback.attemptList, hfa, hrest, Prod.map, id, Prod.mk.injEq] at hf
      obtain ⟨rfl, rfl⟩ := hf
      obtain ⟨v, hv, he⟩ := ih hrest (some b)
      exact ⟨v, .item (advance_of_ok rfl ha hfa) hv, he⟩

inductive Cursor.Fails {γ ρ : Type u} [Cursor γ ρ] [Inhabited ρ] : γ → List ρ → Report → Prop
  | scan {c d e : γ} {row : ρ} {r : Report} (hn : hasNext c = (true, d))
    (hs : scan default d = (.error r, row, e)) : Fails c [] r
  | close {c d e : γ} {r : Report} (hn : hasNext c = (false, d)) (hc : close d = (.error r, e)) :
    Fails c [] r
  | row {c d e : γ} {row : ρ} {rows : List ρ} {r : Report} (hn : hasNext c = (true, d))
    (hs : scan default d = (.ok (), row, e)) (rest : Fails e rows r) : Fails c (row :: rows) r

namespace CursorSource
variable {γ ρ : Type u} [Cursor γ ρ] [Inhabited ρ] {c : γ} {r : Report}

theorem drains_of_fails {rows : List ρ} (h : Cursor.Fails c rows r) (slot : Option ρ) :
    ∃ u, Drains ({ cursor := c, slot } : CursorSource γ) rows u ∧
      error u = some r.toStreamFault := by
  induction h generalizing slot with
  | scan hn hs => exact ⟨_, .stop (advance_of_unscanned rfl hn hs), rfl⟩
  | close hn hc => exact ⟨_, .stop (advance_of_released rfl hn hc), rfl⟩
  | @row c d e row rows r hn hs rest ih =>
    obtain ⟨u, hu, he⟩ := ih (some row)
    exact ⟨u, .item (advance_of_scanned rfl hn hs) hu, he⟩

end CursorSource

section Consumer
variable {σ : Type u} {α : Type v} {κ : Type w} {β : Type x} [Source σ α] [Inhabited β]
  (f : Callback α κ (Except Report β)) {γ ρ : Type y} [Cursor γ ρ] [Inhabited ρ]

/-- The failure of an item ends the reading, and reaches the consumer, unless its report wraps the
end of a stream; the items before it then pass for all that there were. -/
theorem collect_of_item_failure :
    (∀ s t xs memory bs r, Reads s xs t → f.attemptList memory xs = (bs, some r) →
      ∃ _ : Ends ({ inner := s, memory } : TryMap σ f),
        (collect ({ inner := s, memory } : TryMap σ f)).1 =
          if r.WrapsEnd then .ok bs else .error r.toStreamFault) ∧
    (∀ (c : γ) rows r, Cursor.Fails c rows r →
      ∃ _ : Ends (CursorSource.ofCursor c),
        (collect (CursorSource.ofCursor c)).1 =
          if r.WrapsEnd then .ok rows else .error r.toStreamFault) := by
  constructor
  · intro s t xs memory bs r hr hf
    obtain ⟨u, hd, he⟩ := TryMap.drains_of_rejected hr hf none
    have hends := hd.ends
    exact ⟨hends, collect_of_report hd he⟩
  · intro c rows r h
    obtain ⟨u, hd, he⟩ := CursorSource.drains_of_fails h none
    have hends := hd.ends
    exact ⟨hends, collect_of_report hd he⟩

end Consumer

def rejectTwo (r : Report) : Callback Nat Unit (Except Report Nat) :=
  fun n memory => (if n = 2 then .error r else .ok n, memory)

theorem collect_of_item_failure_text :
    (collect ({ inner := ListSource.ofList [1, 2, 3], memory := () } :
        TryMap (ListSource Nat) (rejectTwo (.text "not 2")))).1 = .error (.other ["not 2"]) ∧
      (collect (CursorSource.ofCursor
        ({ rows := #[7], failsToClose := true } : Double.ListCursor Nat))).1 =
          .error (.other ["cursor release failed"]) := by
  have h := collect_of_item_failure (rejectTwo (.text "not 2")) (σ := ListSource Nat)
    (γ := Double.ListCursor Nat)
  obtain ⟨t, hr⟩ := ListSource.reads [1, 2] [3] none
  obtain ⟨_, hf⟩ := h.1 _ t [1, 2] () [1] (.text "not 2") hr rfl
  obtain ⟨_, hc⟩ := h.2 { rows := #[7], failsToClose := true } [7] (.text "cursor release failed")
    (.row rfl rfl (.close rfl rfl))
  exact ⟨hf, hc⟩

/-- The rejected item, and the one after it, are lost without a word. -/
theorem collect_loses_rejected_item :
    (∃ t, Reads (ListSource.ofList [1, 2, 3]) [1, 2] t) ∧
      (rejectTwo (.context "row 2" (.stream .ended))).attemptList () [1, 2] =
        ([1], some (.context "row 2" (.stream .ended))) ∧
      (collect ({ inner := ListSource.ofList [1, 2, 3], memory := () } :
        TryMap (ListSource Nat) (rejectTwo (.context "row 2" (.stream .ended))))).1 = .ok [1] := by
  obtain ⟨t, hr⟩ := ListSource.reads [1, 2] [3] none
  obtain ⟨u, hd, he⟩ := TryMap.drains_of_rejected hr
    (f := rejectTwo (.context "row 2" (.stream .ended))) rfl none
  exact ⟨⟨t, hr⟩, rfl, (collect_of_report hd he).trans (if_pos (.context _ .ended))⟩

end PullStreams
