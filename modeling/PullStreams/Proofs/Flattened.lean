import PullStreams.Proofs.Operator.Elementwise
import PullStreams.Proofs.Source.Stored
import PullStreams.Proofs.Window

namespace PullStreams
open Source

/-- Step by step, `f` yields what `s` yields, and stops where `s` does and with the same failure. -/
structure Replays {τ : Type u} {σ : Type v} {α : Type w} [Source τ α] [Source σ α] (f : τ) (s : σ) :
    Prop where
  reads {xs : List α} {t : σ} : Reads s xs t → ∃ g, Reads f xs g
  drains {xs : List α} {t : σ} : Drains s xs t →
    ∃ g, Drains f xs g ∧ failure? (error g) = failure? (error t)

/-- One advance of both. -/
inductive ReplayStep {τ : Type u} {σ : Type v} {α : Type w} [Source τ α] [Source σ α]
    (R : τ → σ → Prop) (f : τ) (s : σ) : Prop
  | item {g : τ} {t : σ} (hf : advance f = (true, g)) (hs : advance s = (true, t))
    (hc : current g = current t) (h : R g t)
  | stop {g : τ} {t : σ} (hf : advance f = (false, g)) (hs : advance s = (false, t))
    (he : failure? (error g) = failure? (error t))

section Simulation
variable {τ : Type u} {σ : Type v} {α : Type w} [Source τ α] [Source σ α] {R : τ → σ → Prop}
  {f : τ} {s t : σ} {xs : List α}

theorem reads_of_step (hR : ∀ f s, R f s → ReplayStep R f s) (h : R f s) (hr : Reads s xs t) :
    ∃ g, Reads f xs g := by
  induction hr generalizing f with
  | nil => exact ⟨f, .nil f⟩
  | cons ha _ ih =>
    cases hR _ _ h with
    | item hf hs hc h' =>
      obtain rfl := After.unique ha hs
      obtain ⟨g, hg⟩ := ih h'
      rw [← hc]
      exact ⟨g, .cons hf hg⟩
    | stop hf hs he => simp [ha] at hs

theorem drains_of_step (hR : ∀ f s, R f s → ReplayStep R f s) (h : R f s) (hd : Drains s xs t) :
    ∃ g, Drains f xs g ∧ failure? (error g) = failure? (error t) := by
  induction hd generalizing f with
  | stop ha =>
    cases hR _ _ h with
    | item hf hs hc h' => simp [ha] at hs
    | stop hf hs he =>
      obtain rfl := (Prod.mk.inj (ha.symm.trans hs)).2
      exact ⟨_, .stop hf, he⟩
  | item ha _ ih =>
    cases hR _ _ h with
    | item hf hs hc h' =>
      obtain rfl := After.unique ha hs
      obtain ⟨g, hg, he⟩ := ih h'
      rw [← hc]
      exact ⟨g, .item hf hg, he⟩
    | stop hf hs he => simp [ha] at hs

end Simulation

namespace Window
variable {ω : Type u} {σ : Type v} {α : Type w} [Source ω (List α)] [Source σ α]
  {W : Window ω σ} {f : Flatten ω α} {s : σ}

/-- What is pending and what waits in the window is what the source within is ahead of `s`. Once it
has stopped, nothing waits. -/
inductive Ahead (W : Window ω σ) (f : Flatten ω α) (s : σ) : Prop
  | running (he : W.ending f.inner = .running)
    (h : Reads s (f.pending ++ W.waiting f.inner) (W.inner f.inner))
  | held {t : σ} (he : W.ending f.inner = .ofError (error t)) (hw : W.waiting f.inner = [])
    (h : Drains s f.pending t)

variable [Inhabited α] [NonemptyAtLast ω]

theorem Ahead.step_of_pending {a : α} {rest : List α} (hp : f.pending = a :: rest)
    (h : W.Ahead f s) : ReplayStep W.Ahead f s := by
  have hf : advance f = (true, { f with pending := rest, slot := some a }) :=
    Flatten.advance_of_pending hp
  cases h with
  | running he h =>
    rw [hp] at h
    cases h with
    | cons hs h => exact .item hf hs rfl (.running he h)
  | held he hw h =>
    rw [hp] at h
    cases h with
    | item hs h => exact .item hf hs rfl (.held he hw h)

/-- A list that the window delivers is not empty, and goes on as if it had been pending. -/
theorem Ahead.step_of_item {w : ω} (hp : f.pending = []) (ha : advance f.inner = (true, w))
    (hne : current w ≠ []) (h : W.Ahead { inner := w, pending := current w } s) :
    ReplayStep W.Ahead f s := by
  have hf : advance f = advance ({ inner := w, pending := current w } : Flatten ω α) :=
    Flatten.advance_of_item hp ha
  obtain ⟨a, rest, hc⟩ := List.exists_cons_of_ne_nil hne
  cases h.step_of_pending hc with
  | item hg hs hcur h' => exact .item (hf.trans hg) hs hcur h'
  | stop hg hs he => exact .stop (hf.trans hg) hs he

theorem Ahead.step (hW : W.Lawful) (h : W.Ahead f s) : ReplayStep W.Ahead f s := by
  cases hp : f.pending with
  | cons a rest => exact h.step_of_pending hp
  | nil =>
    cases h with
    | running he h =>
      rw [hp, List.nil_append] at h
      have hstep := hW.step he
      generalize ha : advance f.inner = r at hstep
      cases hstep with
      | @item w xs hr he' hc hne =>
        refine step_of_item hp ha hne (.running he' ?_)
        rw [hc]
        exact h.trans hr
      | @last w xs hd he' hw hc hne =>
        refine step_of_item hp ha hne (.held he' hw ?_)
        rw [hc]
        exact h.drains hd
      | @stop w hs he' hw hw' hslot =>
        -- Nothing waits, so the source within is where `s` is.
        rw [hw] at h
        cases h with
        | nil =>
          refine .stop (Flatten.advance_of_stop hp ha) hs ?_
          show failure? (error w) = _
          rw [hW.error, he', Ending.error_ended, failure?_failure?]
    | @held t he hw h =>
      rw [hp] at h
      cases h with
      | stop hs =>
        obtain ⟨w, ha, -, -, he', -⟩ := hW.rest (by rw [he]; exact Ending.isRunning_ofError _) hw
        refine .stop (Flatten.advance_of_stop hp ha) hs ?_
        show failure? (error w) = _
        rw [hW.error, he', he, Ending.settle_ofError, Ending.error_ended, failure?_failure?]

theorem Lawful.replays (hW : W.Lawful) (h : W.Ahead f s) : Replays f s where
  reads := reads_of_step (fun _ _ h => h.step hW) h
  drains := drains_of_step (fun _ _ h => h.step hW) h

end Window

theorem Group.gather_ne_nil {σ : Type u} {α : Type v} {κ : Type w} {ξ : Type x} [Source σ α]
    [BEq ξ] {key : Callback α κ ξ} [∀ k, SweepsEnd σ (visit key k)] (k : ξ) (a : α)
    (s : Group σ key) : (s.gather k a).slot.getD [] ≠ [] := by
  cases hr : s.ending.isRunning with
  | false => simp [gather, hr]
  | true =>
    have hg := gathered_gather k a hr
    generalize s.gather k a = t at hg
    cases hg with
    | next => simp
    | last => simp

/-- A group holds the item that it starts with. -/
instance {σ : Type u} {α : Type v} {κ : Type w} {ξ : Type x} [Source σ α] [BEq ξ]
    {key : Callback α κ ξ} [∀ k, SweepsEnd σ (Group.visit key k)] :
    NonemptyAtLast (Group σ key) where
  wf := ⟨fun s => ⟨_, fun t ⟨h, hc⟩ => by
    change s.advance = (true, t) at h
    change t.slot.getD [] = [] at hc
    unfold Group.advance at h
    -- Every way to deliver ends with `gather`.
    split at h
    · obtain rfl := (Prod.mk.inj h).2
      exact absurd hc (Group.gather_ne_nil _ _ _)
    · split at h
      · split at h
        · simp at h
        · obtain rfl := (Prod.mk.inj h).2
          exact absurd hc (Group.gather_ne_nil _ _ _)
      · simp at h⟩⟩

/-- Flattened batches of any size and flattened groups by any key replay the source that they are
of, which may be an endless one. -/
theorem flattened_windows_replay {σ : Type u} {α : Type v} [Source σ α] [Inhabited α] (s : σ) :
    (∀ size, Replays ({ inner := { inner := s } } : Flatten (Batch σ size) α) s) ∧
    ∀ {κ : Type w} {ξ : Type x} [BEq ξ] (key : Callback α κ ξ)
      [∀ k, SweepsEnd σ (Group.visit key k)] (memory : κ),
      Replays ({ inner := { inner := s, memory } } : Flatten (Group σ key) α) s := by
  constructor
  · intro size
    exact Batch.lawful_window.replays (.running rfl (.nil s))
  · intro κ ξ _ key _ memory
    exact Group.lawful_window.replays (.running rfl (.nil s))

/-- The failure comes after the third item, which the windows have read ahead. -/
theorem flattened_windows_replay_list :
    let fault := StreamFault.other ["lost"]
    let parity : Callback Nat Unit Nat := fun n memory => (n % 2, memory)
    let s := ListSource.failing [1, 3, 4] fault
    FiniteSource (ListSource Nat) ∧
    (∃ g, Drains ({ inner := { inner := s } } : Flatten (Batch (ListSource Nat) 2) Nat)
      [1, 3, 4] g ∧ failure? (error g) = some fault) ∧
    ∃ g, Drains ({ inner := { inner := s, memory := () } } :
      Flatten (Group (ListSource Nat) parity) Nat) [1, 3, 4] g ∧
      failure? (error g) = some fault := by
  intro fault parity s
  obtain ⟨t, hd, he⟩ := ListSource.denotes [1, 3, 4] fault
  have h := flattened_windows_replay.{0, 0, 0, 0} s
  obtain ⟨f, hf, hfe⟩ := (h.1 2).drains hd
  obtain ⟨g, hg, hge⟩ := (h.2 parity ()).drains hd
  exact ⟨inferInstance, ⟨f, hf, hfe.trans he⟩, g, hg, hge.trans he⟩

end PullStreams
