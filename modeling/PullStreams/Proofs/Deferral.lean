import PullStreams.Proofs.Operator.Passing
import PullStreams.Proofs.Recorded
import PullStreams.Proofs.Window
import PullStreams.Source.Listed

namespace PullStreams
open Source

/-- What a window owes to its reader, from `start` on, about failures of the source within. -/
structure DefersFailure {ω : Type u} {σ : Type v} {α : Type w} [Source ω (List α)] [Source σ α]
    (inner : ω → Recorded σ) (start : ω) : Prop where
  /-- There is no error while every advance yields. -/
  quiet {ws : List (List α)} {w : ω} : Reads start ws w → error w = none
  /-- What was pulled has been delivered, or the source within has not stopped. -/
  delivered {ws : List (List α)} {w : ω} : Reads start ws w →
    (∃ buffer, (inner w).log = (ws.flatten ++ buffer).map .item) ∨
    ∃ e, (inner w).log = ws.flatten.map .item ++ [.stop e]
  /-- A stop with items in the buffer: they are delivered first. -/
  held {ws : List (List α)} {w w' : ω} {pulled buffer : List α} {more : Bool}
    {e : Option StreamFault} : Reads start ws w → (inner w).log = pulled.map .item →
    advance w = (more, w') → (inner w').log = (ws.flatten ++ buffer).map .item ++ [.stop e] →
    buffer ≠ [] →
    more = true ∧ current w' = buffer ∧ error w' = none ∧
      ∃ w'', advance w' = (false, w'') ∧ error w'' = failure? e
  /-- A stop with nothing in the buffer. -/
  bare {ws : List (List α)} {w w' : ω} {pulled : List α} {more : Bool} {e : Option StreamFault} :
    Reads start ws w → (inner w).log = pulled.map .item →
    advance w = (more, w') → (inner w').log = ws.flatten.map .item ++ [.stop e] →
    more = false ∧ error w' = failure? e
  /-- By the first stop everything that was pulled has been delivered. -/
  stopped {ws : List (List α)} {w : ω} : Drains start ws w →
    ∃ e, (inner w).log = ws.flatten.map .item ++ [.stop e] ∧ error w = failure? e
  /-- The source within is not advanced after its stop. -/
  once (n : Nat) : ∃ xs : List α, (inner (advances n start)).log = xs.map .item ∨
    ∃ e, (inner (advances n start)).log = xs.map .item ++ [.stop e]
  /-- The end of the source within is not an error. -/
  ended (n : Nat) : (∀ e, .stop e ∈ (inner (advances n start)).log → failure? e = none) →
    error (advances n start) = none
  /-- An error stays. -/
  reported {n k : Nat} {e : StreamFault} : error (advances n start) = some e →
    error (advances (n + k) start) = some e

namespace Window
variable {ω : Type u} {σ : Type v} {α : Type w} [Source ω (List α)] [Source σ α]

/-- How the windows that have been delivered account for what the source within was asked. -/
inductive Progress (W : Window ω (Recorded σ)) (ws : List (List α)) (w : ω) : Prop
  | running (he : W.ending w = .running)
    (hl : (W.inner w).log = (ws.flatten ++ W.waiting w).map .item)
  | held {e : Option StreamFault} (he : W.ending w = .ofError e) (hw : W.waiting w = [])
    (hl : (W.inner w).log = ws.flatten.map .item ++ [.stop e])

structure Over (W : Window ω (Recorded σ)) (ws : List (List α)) (e : Option StreamFault) (w : ω) :
    Prop where
  ending : W.ending w = .ended (failure? e)
  waiting : W.waiting w = []
  log : (W.inner w).log = ws.flatten.map .item ++ [.stop e]

variable {W : Window ω (Recorded σ)} {ws : List (List α)} {w w' start : ω}
  {e : Option StreamFault}

theorem Progress.error_eq (hW : W.Lawful) (hp : W.Progress ws w) : error w = none := by
  rw [hW.error]
  cases hp with
  | running he hl => rw [he]; rfl
  | held he hw hl => rw [he]; exact Ending.error_ofError _

theorem Progress.of_item (hW : W.Lawful) (hp : W.Progress ws w) (h : advance w = (true, w')) :
    W.Progress (ws ++ [current w']) w' := by
  cases hp with
  | running he hl =>
    have hs := hW.step he
    rw [h] at hs
    cases hs with
    | item hr he' hw hne =>
      refine .running he' ?_
      rw [Recorded.log_of_reads hr, hl, ← List.map_append, List.append_assoc, ← hw]
      simp
    | last hd he' hw hc hne =>
      refine .held he' hw ?_
      rw [Recorded.log_of_drains hd, hl, ← List.map_append, List.append_assoc, ← hc]
      simp
  | held he hw hl =>
    obtain ⟨u, hu, -⟩ := hW.rest (by rw [he]; exact Ending.isRunning_ofError _) hw
    simp [hu] at h

theorem Progress.of_stop (hW : W.Lawful) (hp : W.Progress ws w) (h : advance w = (false, w')) :
    ∃ e, W.Over ws e w' := by
  cases hp with
  | running he hl =>
    have hs := hW.step he
    rw [h] at hs
    cases hs with
    | stop ha he' hw hw' hslot =>
      refine ⟨_, he', hw', ?_⟩
      rw [Recorded.log_of_stop ha, hl, hw, List.append_nil]
  | @held e he hw hl =>
    obtain ⟨u, hu, hi, hw', he', -⟩ := hW.rest (by rw [he]; exact Ending.isRunning_ofError _) hw
    rw [hu] at h
    obtain rfl := (Prod.mk.inj h).2
    refine ⟨e, ?_, hw', ?_⟩
    · rw [he', he]
      exact Ending.settle_ofError e
    · rw [hi, hl]

theorem Progress.of_reads (hW : W.Lawful) (hp : W.Progress ws w) {vs : List (List α)}
    (h : Reads w vs w') : W.Progress (ws ++ vs) w' := by
  induction h generalizing ws with
  | nil => simpa using hp
  | cons h _ ih => simpa using ih (hp.of_item hW h)

theorem Over.error_eq (hW : W.Lawful) (ho : W.Over ws e w) : error w = failure? e := by
  rw [hW.error, ho.ending]
  rfl

theorem Over.advance_eq (hW : W.Lawful) (ho : W.Over ws e w) :
    ∃ w', advance w = (false, w') ∧ W.Over ws e w' := by
  obtain ⟨u, hu, hi, hw, he, -⟩ := hW.rest (by rw [ho.ending]; rfl) ho.waiting
  refine ⟨u, hu, ?_, hw, ?_⟩
  · rw [he, ho.ending]
    rfl
  · rw [hi, ho.log]

theorem Over.advances (hW : W.Lawful) (ho : W.Over ws e w) (k : Nat) :
    W.Over ws e (advances k w) := by
  induction k with
  | zero => exact ho
  | succ k ih =>
    obtain ⟨u, hu, hv⟩ := ih.advance_eq hW
    rw [Source.advances, hu]
    exact hv

/-- Every state that advances lead to. -/
theorem progress_or_over (hW : W.Lawful) (hp : W.Progress [] start) (n : Nat) :
    (∃ ws, W.Progress ws (advances n start)) ∨ ∃ ws e, W.Over ws e (advances n start) := by
  induction n with
  | zero => exact .inl ⟨[], hp⟩
  | succ n ih =>
    rw [Source.advances]
    rcases h : advance (Source.advances n start) with ⟨more, w⟩
    cases more with
    | true =>
      rcases ih with ⟨ws, hp⟩ | ⟨ws, e, ho⟩
      · exact .inl ⟨_, hp.of_item hW h⟩
      · obtain ⟨u, hu, -⟩ := ho.advance_eq hW
        simp [hu] at h
    | false =>
      rcases ih with ⟨ws, hp⟩ | ⟨ws, e, ho⟩
      · obtain ⟨e, ho⟩ := hp.of_stop hW h
        exact .inr ⟨ws, e, ho⟩
      · obtain ⟨u, hu, hv⟩ := ho.advance_eq hW
        rw [hu] at h
        obtain rfl := (Prod.mk.inj h).2
        exact .inr ⟨ws, e, hv⟩

theorem Progress.running_of_log (hp : W.Progress ws w) {pulled : List α}
    (hl : (W.inner w).log = pulled.map .item) :
    W.ending w = .running ∧ (W.inner w).log = (ws.flatten ++ W.waiting w).map .item := by
  cases hp with
  | running he hl' => exact ⟨he, hl'⟩
  | held he hw hl' => exact absurd (hl.symm.trans hl') (Finding.map_item_ne _ _ _)

/-- The advance in which the source within stops: the buffer is delivered now and the failure with
the next advance, or there is no buffer and the failure is reported at once. -/
theorem Progress.of_stop_within (hW : W.Lawful) (hp : W.Progress ws w) {pulled buffer : List α}
    {more : Bool} (hl : (W.inner w).log = pulled.map .item) (h : advance w = (more, w'))
    (hl' : (W.inner w').log = (ws.flatten ++ buffer).map .item ++ [.stop e]) :
    (more = true ∧ current w' = buffer ∧ buffer ≠ [] ∧ W.Progress (ws ++ [buffer]) w' ∧
      ∃ w'', advance w' = (false, w'') ∧ error w'' = failure? e) ∨
    more = false ∧ buffer = [] ∧ error w' = failure? e := by
  obtain ⟨he, hl⟩ := hp.running_of_log hl
  have hs := hW.step he
  rw [h] at hs
  cases hs with
  | item hr he' hw hne =>
    -- An advance in which the source within only yields logs no stop.
    rw [Recorded.log_of_reads hr, hl, ← List.map_append] at hl'
    exact absurd hl' (Finding.map_item_ne _ _ _)
  | last hd he' hw hc hne =>
    rw [Recorded.log_of_drains hd, hl, ← List.map_append, List.append_assoc] at hl'
    obtain ⟨hx, rfl⟩ := Finding.append_stop_inj hl'
    have hb : current w' = buffer := hc.trans (List.append_cancel_left hx)
    have hp' := hp.of_item hW h
    rw [hb] at hp' hne
    obtain ⟨u, hu, -, -, he'', -⟩ := hW.rest (by rw [he']; exact Ending.isRunning_ofError _) hw
    refine .inl ⟨rfl, hb, hne, hp', u, hu, ?_⟩
    rw [hW.error, he'', he', Ending.settle_ofError]
    rfl
  | stop ha he' hw hw' hslot =>
    rw [Recorded.log_of_stop ha, hl] at hl'
    obtain ⟨hx, rfl⟩ := Finding.append_stop_inj hl'
    rw [hw] at hx
    refine .inr ⟨rfl, (List.append_cancel_left hx).symm, ?_⟩
    rw [hW.error, he']
    rfl

theorem error_advances_add (hW : W.Lawful) (hp : W.Progress [] start) {n k : Nat} {e : StreamFault}
    (h : error (advances n start) = some e) : error (advances (n + k) start) = some e := by
  rcases progress_or_over hW hp n with ⟨ws, hp⟩ | ⟨ws, e', ho⟩
  · rw [hp.error_eq hW] at h
    cases h
  · rw [advances_add, (ho.advances hW k).error_eq hW, ← ho.error_eq hW, h]

theorem Lawful.defersFailure (hW : W.Lawful) (hp : W.Progress [] start) :
    DefersFailure W.inner start where
  quiet hr := (hp.of_reads hW hr).error_eq hW
  delivered hr := by
    cases hp.of_reads hW hr with
    | running he hl => exact .inl ⟨_, hl⟩
    | held he hw hl => exact .inr ⟨_, hl⟩
  held hr hl h hl' hne := by
    rcases (hp.of_reads hW hr).of_stop_within hW hl h hl' with
      ⟨hm, hc, -, hp', hnext⟩ | ⟨-, hb, -⟩
    · exact ⟨hm, hc, hp'.error_eq hW, hnext⟩
    · exact absurd hb hne
  bare hr hl h hl' := by
    rw [← List.append_nil (List.flatten _)] at hl'
    rcases (hp.of_reads hW hr).of_stop_within hW hl h hl' with ⟨-, -, hne, -⟩ | ⟨hm, -, he⟩
    · exact absurd rfl hne
    · exact ⟨hm, he⟩
  stopped hd := by
    obtain ⟨v, hr, hs⟩ := hd.exists_reads
    obtain ⟨e, ho⟩ := (hp.of_reads hW hr).of_stop hW hs
    exact ⟨e, ho.log, ho.error_eq hW⟩
  once n := by
    rcases progress_or_over hW hp n with ⟨ws, hp⟩ | ⟨ws, e, ho⟩
    · cases hp with
      | running he hl => exact ⟨_, .inl hl⟩
      | held he hw hl => exact ⟨_, .inr ⟨_, hl⟩⟩
    · exact ⟨_, .inr ⟨_, ho.log⟩⟩
  ended n hn := by
    rcases progress_or_over hW hp n with ⟨ws, hp⟩ | ⟨ws, e, ho⟩
    · exact hp.error_eq hW
    · rw [ho.error_eq hW]
      apply hn
      rw [ho.log]
      simp
  reported h := error_advances_add hW hp h

end Window

/-- Batches of any size and groups by any key deliver what they have buffered before a failure of
the source within, and report it once that is done. That the source is recorded makes no difference
to them. -/
theorem windows_defer_failure {σ : Type u} {α : Type v} [Source σ α] [FiniteSource σ] (s : σ) :
    (∀ size, DefersFailure Batch.inner ({ inner := { inner := s } } : Batch (Recorded σ) size) ∧
      Passes (Batch.mapInner Recorded.inner : Batch (Recorded σ) size → Batch σ size)) ∧
    ∀ {κ : Type w} {ξ : Type x} [BEq ξ] (key : Callback α κ ξ) (memory : κ),
      DefersFailure Group.inner
        ({ inner := { inner := s }, memory } : Group (Recorded σ) key) ∧
      Passes (Group.mapInner Recorded.inner : Group (Recorded σ) key → Group σ key) := by
  constructor
  · intro size
    exact ⟨Batch.lawful_window.defersFailure (.running rfl rfl),
      Batch.passes_mapInner Recorded.passes_inner⟩
  · intro κ ξ _ key memory
    exact ⟨Group.lawful_window.defersFailure (.running rfl rfl),
      Group.passes_mapInner Recorded.passes_inner⟩

/-- The third item is alone in the buffer when the list fails. -/
theorem windows_defer_failure_list :
    let fault := StreamFault.other ["lost"]
    let start : Batch (Recorded (ListSource Nat)) 2 :=
      { inner := { inner := .failing [1, 2, 3] fault } }
    FiniteSource (ListSource Nat) ∧ current (advances 1 start) = [1, 2] ∧
      current (advances 2 start) = [3] ∧ error (advances 2 start) = none ∧
      ∃ w, advance (advances 2 start) = (false, w) ∧ error w = some fault := by
  intro fault start
  have h := ((windows_defer_failure.{0, 0, 0, 0} (ListSource.failing [1, 2, 3] fault)).1 2).1
  have hs : advance start = (true, advances 1 start) := rfl
  have hr : Reads start [[1, 2]] (advances 1 start) := Reads.single hs
  have hl : (advances 1 start).inner.log = [1, 2].map .item := rfl
  have hl' : (advances 2 start).inner.log = ([[1, 2]].flatten ++ [3]).map .item ++ [.stop fault] :=
    rfl
  obtain ⟨-, hc, he, hnext⟩ := h.held hr hl rfl hl' (List.cons_ne_nil 3 [])
  exact ⟨inferInstance, rfl, hc, he, hnext⟩

end PullStreams
