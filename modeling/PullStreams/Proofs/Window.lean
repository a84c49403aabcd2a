import PullStreams.Proofs.Calls
import PullStreams.Proofs.Operator.Batch
import PullStreams.Proofs.Operator.Group

namespace PullStreams
open Source History

structure Window (ω : Type u) (σ : Type v) {α : Type w} [Source ω (List α)] [Source σ α] where
  inner : ω → σ
  slot : ω → Option (List α)
  waiting : ω → List α
  ending : ω → Ending

namespace Window
variable {ω : Type u} {σ : Type v} {α : Type w} [Source ω (List α)] [Source σ α]

inductive Step (W : Window ω σ) (w : ω) : Bool × ω → Prop
  | item {w' : ω} {xs : List α} (h : Reads (W.inner w) xs (W.inner w'))
    (he : W.ending w' = .running) (hc : current w' ++ W.waiting w' = W.waiting w ++ xs)
    (hne : current w' ≠ []) : Step W w (true, w')
  | last {w' : ω} {xs : List α} (h : Drains (W.inner w) xs (W.inner w'))
    (he : W.ending w' = .ofError (error (W.inner w'))) (hw : W.waiting w' = [])
    (hc : current w' = W.waiting w ++ xs) (hne : current w' ≠ []) : Step W w (true, w')
  | stop {w' : ω} (h : advance (W.inner w) = (false, W.inner w'))
    (he : W.ending w' = .ended (failure? (error (W.inner w')))) (hw : W.waiting w = [])
    (hw' : W.waiting w' = []) (hs : W.slot w' = none) : Step W w (false, w')

/-- A window that is not running has nothing to do with the source within. -/
structure Lawful (W : Window ω σ) : Prop where
  current (w : ω) : current w = (W.slot w).getD []
  error (w : ω) : error w = (W.ending w).error
  step {w : ω} : W.ending w = .running → Step W w (advance w)
  rest {w : ω} : (W.ending w).isRunning = false → W.waiting w = [] →
    ∃ w', advance w = (false, w') ∧ W.inner w' = W.inner w ∧ W.waiting w' = [] ∧
      W.ending w' = (W.ending w).settle ∧ W.slot w' = none
  close (w : ω) : W.inner (close w).2 = (close (W.inner w)).2 ∧ W.waiting (close w).2 = [] ∧
    W.slot (close w).2 = none

section Order
variable [Inhabited α] {W : Window ω σ}

/-- Items wait only while the source within goes on. -/
structure Tidy (W : Window ω σ) (h : History ω) : Prop where
  empty : h.hasItem = false → W.slot h.state = none
  live : h.hasItem = true → (W.ending h.state).error = none
  finished : h.isOver = true → W.waiting h.state = []
  waiting : (W.ending h.state).isRunning = false → W.waiting h.state = []
  within : ∃ i o, Orderly ⟨W.inner h.state, i, o⟩ ∧
    (h.isOver = true → W.ending h.state = .running → o = true)

omit [Inhabited α] in
theorem running_or (W : Window ω σ) (w : ω) :
    W.ending w = .running ∨ (W.ending w).isRunning = false := by
  cases W.ending w with
  | running => exact .inl rfl
  | held e => exact .inr rfl
  | ended e => exact .inr rfl

theorem Tidy.fst_advance_eq_false (hW : W.Lawful) {w : ω} {i : Bool} (hi : W.Tidy ⟨w, i, true⟩) :
    (advance w).1 = false := by
  obtain ⟨i', o', ho, hover⟩ := hi.within
  have hw : W.waiting w = [] := hi.finished rfl
  rcases W.running_or w with hr | hr
  · obtain rfl := hover rfl hr
    have hs := hW.step hr
    generalize advance w = r at hs ⊢
    -- Nothing waits and nothing can be read, so there is nothing to deliver.
    cases hs with
    | @item w' xs h he hc hne =>
      by_cases hx : xs = []
      · rw [hw, hx] at hc
        exact absurd (List.append_eq_nil_iff.1 hc).1 hne
      · simpa using (ho.of_reads h hx).1
    | last h he hw' hc hne =>
      rw [hw, ho.eq_nil_of_drains h] at hc
      exact absurd hc hne
    | stop => rfl
  · obtain ⟨u, hu, -⟩ := hW.rest hr hw
    rw [hu]

theorem Tidy.of_item (hW : W.Lawful) {w w' : ω} {i : Bool} (hi : W.Tidy ⟨w, i, false⟩)
    (h : advance w = (true, w')) : W.Tidy ⟨w', true, false⟩ := by
  obtain ⟨i', o', ho, -⟩ := hi.within
  rcases W.running_or w with hr | hr
  · have hs := hW.step hr
    rw [h] at hs
    cases hs with
    | item hx he hc hne =>
      obtain ⟨i'', o'', ho'⟩ := ho.exists_of_reads hx
      exact ⟨by simp, fun _ => by rw [he]; rfl, by simp, by simp [he], i'', o'', ho', by simp⟩
    | last hx he hw hc hne =>
      exact ⟨by simp, fun _ => by rw [he]; exact Ending.error_ofError _, by simp, fun _ => hw,
        false, true, ho.of_drains hx, by simp⟩
  · obtain ⟨u, hu, -⟩ := hW.rest hr (hi.waiting hr)
    simp [h] at hu

theorem Tidy.of_stop (hW : W.Lawful) {w w' : ω} {i o : Bool} (hi : W.Tidy ⟨w, i, o⟩)
    (h : advance w = (false, w')) : W.Tidy ⟨w', false, true⟩ := by
  obtain ⟨i', o', ho, -⟩ := hi.within
  rcases W.running_or w with hr | hr
  · have hs := hW.step hr
    rw [h] at hs
    cases hs with
    | stop hx he hw hw' hslot =>
      exact ⟨fun _ => hslot, by simp, fun _ => hw', fun _ => hw', false, true, ho.of_stop hx,
        fun _ _ => rfl⟩
  · obtain ⟨u, hu, hin, hw, he, hslot⟩ := hW.rest hr (hi.waiting hr)
    rw [h] at hu
    obtain rfl := (Prod.mk.inj hu).2
    rw [← hin] at ho
    have hn : W.ending w' ≠ .running := by
      intro hrun
      rw [← Ending.isRunning_settle, ← he, hrun] at hr
      cases hr
    exact ⟨fun _ => hslot, by simp, fun _ => hw, fun _ => hw, i', o', ho,
      fun _ hrun => absurd hrun hn⟩

theorem keeps (hW : W.Lawful) : Keeps W.Tidy where
  sound {h} hi := by
    obtain ⟨w, i, o⟩ := h
    refine ⟨fun hf => ?_, fun ht => ?_, fun hv => ?_⟩
    · rw [hW.current, hi.empty hf]
      rfl
    · rw [hW.error]
      exact hi.live ht
    · obtain rfl : o = true := hv
      exact hi.fst_advance_eq_false hW
  item hi h := hi.of_item hW h
  stop hi h := hi.of_stop hW h
  close {w i o} hi := by
    obtain ⟨i', o', ho, -⟩ := hi.within
    obtain ⟨hin, hw, hslot⟩ := hW.close w
    have ho' := ho.of_close
    rw [← hin] at ho'
    exact ⟨fun _ => hslot, by simp, fun _ => hw, fun _ => hw, false, true, ho', fun _ _ => rfl⟩

theorem orderly (hW : W.Lawful) {w : ω} (hslot : W.slot w = none) (hw : W.waiting w = [])
    (h : Orderly ⟨W.inner w, false, false⟩) : Orderly ⟨w, false, false⟩ :=
  (keeps hW).orderly
    ⟨fun _ => hslot, by simp, fun _ => hw, fun _ => hw, false, false, h, by simp⟩

end Order
end Window

namespace Batch
variable {σ : Type u} {α : Type v} [Source σ α] {size : Nat}

def window : Window (Batch σ size) σ := ⟨inner, slot, fun _ => [], ending⟩

theorem lawful_window : (window : Window (Batch σ size) σ).Lawful where
  current _ := rfl
  error _ := rfl
  step {w} he := by
    change w.ending = .running at he
    show window.Step w w.advance
    have hs := step_advance (s := w) (by rw [he]; rfl)
    generalize w.advance = r at hs
    cases hs with
    | @full xs t hl h =>
      have hne : xs ≠ [] := by
        rintro rfl
        rw [List.length_nil] at hl
        omega
      exact .item h rfl (List.append_nil xs) hne
    | last hne hl h => exact .last h rfl rfl rfl hne
    | stop h => exact .stop h (Ending.settle_ofError _) rfl rfl rfl
  rest hr _ := ⟨_, advance_of_not_running hr, rfl, rfl, rfl, rfl⟩
  close _ := ⟨rfl, rfl, rfl⟩

theorem orderly [Inhabited α] (size : Nat) {s : σ} (h : Orderly ⟨s, false, false⟩) :
    Orderly ⟨({ inner := s } : Batch σ size), false, false⟩ :=
  Window.orderly lawful_window rfl rfl h

end Batch

namespace Group
variable {σ : Type u} {α : Type v} {κ : Type w} {ξ : Type x} {key : Callback α κ ξ} [Source σ α]
  [BEq ξ] [∀ k, SweepsEnd σ (visit key k)]

def window : Window (Group σ key) σ :=
  ⟨inner, slot, fun w => (w.pending.map Prod.snd).toList, ending⟩

/-- The item that a group begins with has waited, or is pulled for it. -/
theorem step_of_gathered {k : ξ} {a : α} {w s g : Group σ key} {xs : List α}
    (hr : Reads w.inner xs s.inner) (hw : window.waiting w ++ xs = [a]) (h : Gathered k a s g) :
    window.Step w (true, g) := by
  cases h with
  | @next ys t k' memory' h hx hk hne =>
    refine .item (hr.trans h) rfl ?_ (List.cons_ne_nil a ys)
    rw [← List.append_assoc, hw]
    simp [window, Source.current]
  | @last ys t h hx =>
    refine .last (hr.drains h) rfl rfl ?_ (List.cons_ne_nil a ys)
    rw [← List.append_assoc, hw]
    rfl

theorem lawful_window : (window : Window (Group σ key) σ).Lawful where
  current _ := rfl
  error _ := rfl
  step {w} he := by
    change w.ending = .running at he
    show window.Step w w.advance
    have hr : w.ending.isRunning = true := by rw [he]; rfl
    cases hp : w.pending with
    | some next =>
      obtain ⟨k, a⟩ := next
      rw [advance_of_pending hp]
      exact step_of_gathered (.nil _) (by simp [window, hp]) (gathered_gather k a hr)
    | none =>
      match h : Source.advance w.inner with
      | (false, t) =>
        rw [advance_of_stop hp hr h]
        exact .stop h (Ending.settle_ofError _) (by simp [window, hp]) (by simp [window, hp]) rfl
      | (true, t) =>
        rw [advance_of_item hp hr h]
        exact step_of_gathered (.single h) (by simp [window, hp]) (gathered_gather _ _ hr)
  rest {w} hr hw := by
    have hp : w.pending = none := by
      cases hp : w.pending with
      | none => rfl
      | some next => simp [window, hp] at hw
    exact ⟨_, advance_of_not_running hp hr, rfl, by simp [window, hp], rfl, rfl⟩
  close _ := ⟨rfl, rfl, rfl⟩

theorem orderly [Inhabited α] (key : Callback α κ ξ) [∀ k, SweepsEnd σ (visit key k)] {s : σ}
    (h : Orderly ⟨s, false, false⟩) (memory : κ) :
    Orderly ⟨({ inner := s, memory } : Group σ key), false, false⟩ :=
  Window.orderly lawful_window rfl rfl h

end Group
end PullStreams
