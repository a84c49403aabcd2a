import PullStreams.Proofs.Operator.Elementwise
import PullStreams.Proofs.Relay
import PullStreams.Proofs.Source.Concat
import PullStreams.Proofs.Window

namespace PullStreams
open Source History

namespace Map
variable {σ : Type u} {α : Type v} {κ : Type w} {β : Type x} {f : Callback α κ β} [Source σ α]
  [Inhabited β]

theorem relays : Relays (inner : Map σ f → σ) (fun _ => none) (fun s => s.slot = none) where
  current {s} hn := by
    show s.slot.getD default = default
    rw [hn]
    rfl
  error _ := rfl
  step s := by
    show RelayStep _ _ _ s s.advance
    match h : Source.advance s.inner with
    | (true, t) =>
      rw [advance_of_item h]
      exact .item rfl (.single h) (List.cons_ne_nil _ _) rfl
    | (false, t) =>
      rw [advance_of_stop h]
      exact .stop rfl (.stop h) rfl
  close _ := ⟨rfl, rfl⟩

theorem orderly [Inhabited α] (f : Callback α κ β) {s : σ} (h : Orderly ⟨s, false, false⟩)
    (memory : κ) : Orderly ⟨({ inner := s, memory } : Map σ f), false, false⟩ :=
  relays.orderly rfl rfl h

end Map

namespace TryMap
variable {σ : Type u} {α : Type v} {κ : Type w} {β : Type x}
  {f : Callback α κ (Except Report β)} [Source σ α] [Inhabited β]

theorem relays : Relays (inner : TryMap σ f → σ) stopped (fun s => s.slot = none) where
  current {s} hn := by
    show s.slot.getD default = default
    rw [hn]
    rfl
  error _ := rfl
  step s := by
    show RelayStep _ _ _ s s.advance
    cases hs : s.stopped with
    | some e =>
      rw [advance_of_stopped (by simp [hs])]
      exact .rest (by simp [hs]) rfl rfl rfl
    | none =>
      match h : Source.advance s.inner with
      | (false, t) =>
        rw [advance_of_stop hs h]
        exact .stop hs (.stop h) rfl
      | (true, t) =>
        have hr : Reads s.inner [current t] t := .single h
        match hf : f (current t) s.memory with
        | (.ok b, memory) =>
          rw [advance_of_ok hs h hf]
          exact .item hs hr (List.cons_ne_nil _ _) rfl
        | (.error e, memory) =>
          rw [advance_of_error hs h hf]
          exact .fail hs hr (List.cons_ne_nil _ _) (Option.some_ne_none _) rfl
  close _ := ⟨rfl, rfl⟩

theorem orderly [Inhabited α] (f : Callback α κ (Except Report β)) {s : σ}
    (h : Orderly ⟨s, false, false⟩) (memory : κ) :
    Orderly ⟨({ inner := s, memory } : TryMap σ f), false, false⟩ :=
  relays.orderly rfl rfl h

end TryMap

namespace Filter
variable {σ : Type u} {α : Type v} {κ : Type w} {p : Callback α κ Bool} [Source σ α]
  [SweepsEnd σ (visit p)] [Inhabited α]

theorem relays : Relays (inner : Filter σ p → σ) (fun _ => none) (fun s => s.isMatched = false)
    where
  current {s} hn := by
    show (if s.isMatched then current s.inner else default) = default
    rw [hn]
    rfl
  error _ := rfl
  step s := by
    show RelayStep _ _ _ s s.advance
    rcases advance_cases s with ⟨xs, t, memory, hr, ha⟩ | ⟨xs, t, memory, hd, ha⟩
    · rw [ha]
      exact .item rfl hr (by simp) rfl
    · rw [ha]
      exact .stop rfl hd rfl
  close _ := ⟨rfl, rfl⟩

theorem orderly (p : Callback α κ Bool) [SweepsEnd σ (visit p)] {s : σ}
    (h : Orderly ⟨s, false, false⟩) (memory : κ) :
    Orderly ⟨({ inner := s, memory } : Filter σ p), false, false⟩ :=
  relays.orderly rfl rfl h

end Filter

namespace FilterMap
variable {σ : Type u} {α : Type v} {κ : Type w} {β : Type x} {f : Callback α κ (Option β)}
  [Source σ α] [SweepsEnd σ (visit f)] [Inhabited β]

theorem relays : Relays (inner : FilterMap σ f → σ) (fun _ => none) (fun s => s.slot = none) where
  current {s} hn := by
    show s.slot.getD default = default
    rw [hn]
    rfl
  error _ := rfl
  step s := by
    show RelayStep _ _ _ s s.advance
    rcases advance_cases s with ⟨xs, t, memory, b, hr, ha⟩ | ⟨xs, t, memory, hd, ha⟩
    · rw [ha]
      exact .item rfl hr (by simp) rfl
    · rw [ha]
      exact .stop rfl hd rfl
  close _ := ⟨rfl, rfl⟩

theorem orderly [Inhabited α] (f : Callback α κ (Option β)) [SweepsEnd σ (visit f)] {s : σ}
    (h : Orderly ⟨s, false, false⟩) (memory : κ) :
    Orderly ⟨({ inner := s, memory } : FilterMap σ f), false, false⟩ :=
  relays.orderly rfl rfl h

end FilterMap

namespace Flatten
variable {σ : Type u} {α : Type v} [Source σ (List α)] [FiniteSource σ] [Inhabited α]

/-- While elements are pending, the list that they are from is current within. -/
structure Tidy (h : History (Flatten σ α)) : Prop where
  empty : h.hasItem = false → h.state.slot = none
  finished : h.isOver = true → h.state.pending = []
  within : ∃ i o, Orderly ⟨h.state.inner, i, o⟩ ∧ (h.hasItem = true → i = true) ∧
    (h.state.pending ≠ [] → i = true) ∧ (h.isOver = true → o = true)

theorem keeps : Keeps (Tidy (σ := σ) (α := α)) where
  sound {h} hi := by
    obtain ⟨i, o, ho, hitem, hpending, hover⟩ := hi.within
    refine ⟨fun hf => ?_, fun ht => ho.sound.error (hitem ht), fun hv => ?_⟩
    · show h.state.slot.getD default = default
      rw [hi.empty hf]
      rfl
    · obtain rfl := hover hv
      obtain ⟨t, ht⟩ := ho.sound.exists_stop
      show h.state.advance.1 = false
      rw [advance_of_stop (hi.finished hv) ht]
  item {s t i} hi h := by
    obtain ⟨i', o', ho, hitem, hpending, hover⟩ := hi.within
    change s.advance = (true, t) at h
    unfold advance at h
    split at h
    · rename_i a rest hp
      obtain rfl := (Prod.mk.inj h).2
      have hi' : i' = true := hpending (by simp [hp])
      exact ⟨by simp, by simp, i', o', ho, fun _ => hi', fun _ => hi', by simp⟩
    · split at h
      · rename_i a rest u hu
        obtain rfl := (Prod.mk.inj h).2
        obtain ⟨xs, hr⟩ := reads_of_pull hu
        have ht := (ho.of_reads hr (by simp)).2
        exact ⟨by simp, by simp, true, false, ht, fun _ => rfl, fun _ => rfl, by simp⟩
      · simp at h
  stop {s t i o} hi h := by
    obtain ⟨i', o', ho, hitem, hpending, hover⟩ := hi.within
    change s.advance = (false, t) at h
    unfold advance at h
    split at h
    · simp at h
    · split at h
      · simp at h
      · rename_i u hu
        obtain rfl := (Prod.mk.inj h).2
        obtain ⟨xs, hd⟩ := drains_of_pull hu
        exact ⟨fun _ => rfl, fun _ => rfl, false, true, ho.of_drains hd, by simp, by simp,
          fun _ => rfl⟩
  close hi := by
    obtain ⟨i', o', ho, -, -, -⟩ := hi.within
    exact ⟨fun _ => rfl, fun _ => rfl, false, true, ho.of_close, by simp, by simp [Source.close],
      fun _ => rfl⟩

theorem orderly {s : σ} (h : Orderly ⟨s, false, false⟩) :
    Orderly ⟨({ inner := s } : Flatten σ α), false, false⟩ :=
  keeps.orderly ⟨fun _ => rfl, fun _ => rfl, false, false, h, by simp, by simp, by simp⟩

end Flatten

namespace Concat
variable {σ : Type u} {α : Type v} [Source σ α] [Inhabited α]

/-- The first member is the one being read; the others have not been touched. -/
def Lined (i : Bool) : List σ → Prop
  | [] => True
  | s :: rest => (∃ o, Orderly ⟨s, i, o⟩) ∧ ∀ m ∈ rest, Orderly ⟨m, false, false⟩

theorem lined_of_forall {members : List σ} (h : ∀ m ∈ members, Orderly ⟨m, false, false⟩) :
    Lined false members := by
  cases members with
  | nil => exact trivial
  | cons s rest =>
    exact ⟨⟨false, h s List.mem_cons_self⟩, fun m hm => h m (List.mem_cons_of_mem _ hm)⟩

structure Tidy (h : History (Concat σ)) : Prop where
  live : h.hasItem = true → h.state.isClosed = false ∧ h.state.stopped = none
  lined : h.state.isClosed = false → Lined h.hasItem h.state.ahead
  finished : h.isOver = true → h.state.isClosed = false → h.state.stopped = none →
    h.state.ahead = []

theorem tidy_seek {passed ahead : List σ} {i more : Bool} {t : Concat σ}
    (hl : Lined i ahead) (h : seek passed ahead = (more, t)) :
    Tidy ⟨t, more, !more⟩ := by
  -- Members that end are passed over, up to one that yields or fails.
  induction ahead generalizing passed i with
  | nil =>
    obtain ⟨rfl, rfl⟩ := Prod.mk.inj h
    exact ⟨by simp, fun _ => trivial, fun _ _ _ => rfl⟩
  | cons s rest ih =>
    obtain ⟨⟨o', ho⟩, hrest⟩ := hl
    match ha : Source.advance s with
    | (true, u) =>
      simp only [seek, ha] at h
      obtain ⟨rfl, rfl⟩ := Prod.mk.inj h
      exact ⟨fun _ => ⟨rfl, rfl⟩, fun _ => ⟨⟨false, (ho.of_item ha).2⟩, hrest⟩, by simp⟩
    | (false, u) =>
      cases hf : failure? (Source.error u) with
      | some e =>
        simp only [seek, ha, hf] at h
        obtain ⟨rfl, rfl⟩ := Prod.mk.inj h
        exact ⟨by simp, fun _ => ⟨⟨true, ho.of_stop ha⟩, hrest⟩, by simp⟩
      | none =>
        simp only [seek, ha, hf] at h
        exact ih (lined_of_forall hrest) h

theorem Tidy.current_eq {c : Concat σ} {o : Bool} (hi : Tidy ⟨c, false, o⟩) :
    c.current = default := by
  unfold current
  cases hc : c.isClosed with
  | true => rfl
  | false =>
    have hl := hi.lined hc
    cases ha : c.ahead with
    | nil => rfl
    | cons s rest =>
      simp only [ha] at hl
      obtain ⟨⟨o', ho⟩, -⟩ := hl
      exact ho.sound.current rfl

/-- Closed or stopped: then nothing is current either. -/
theorem Tidy.eq_false_of_done {c : Concat σ} {i o : Bool} (hi : Tidy ⟨c, i, o⟩)
    (hd : (c.isClosed || c.stopped.isSome) = true) : i = false := by
  cases i with
  | false => rfl
  | true =>
    obtain ⟨hc, hs⟩ := hi.live rfl
    simp only at hc hs
    simp [hs, hc] at hd

theorem Tidy.of_stop {c t : Concat σ} {i o : Bool} (hi : Tidy ⟨c, i, o⟩)
    (h : c.advance = (false, t)) : Tidy ⟨t, false, true⟩ := by
  unfold advance at h
  split at h
  · rename_i hd
    obtain rfl := (Prod.mk.inj h).2
    obtain rfl := hi.eq_false_of_done hd
    refine ⟨by simp, hi.lined, fun _ hc hs => ?_⟩
    simp only at hc hs
    simp [hc, hs] at hd
  · rename_i hd
    simp only [Bool.or_eq_true, not_or, Bool.not_eq_true] at hd
    exact tidy_seek (hi.lined hd.1) h

theorem keeps : Keeps (Tidy (σ := σ)) where
  sound {h} hi := by
    obtain ⟨c, i, o⟩ := h
    refine ⟨fun hf => ?_, fun ht => (hi.live ht).2, fun hv => ?_⟩
    · obtain rfl : i = false := hf
      exact hi.current_eq
    · show c.advance.1 = false
      unfold advance
      split
      · rfl
      · rename_i hd
        simp only [Bool.or_eq_true, not_or, Bool.not_eq_true, Option.isSome_eq_false_iff,
          Option.isNone_iff_eq_none] at hd
        have ha : c.ahead = [] := hi.finished hv hd.1 hd.2
        rw [ha]
        rfl
  item {c t i} hi h := by
    change c.advance = (true, t) at h
    unfold advance at h
    split at h
    · simp at h
    · rename_i hd
      simp only [Bool.or_eq_true, not_or, Bool.not_eq_true] at hd
      exact tidy_seek (hi.lined hd.1) h
  stop hi h := hi.of_stop h
  close {c i o} hi := by
    show Tidy ⟨c.close.2, false, true⟩
    have hc : c.close.2.isClosed = true := by
      unfold close
      split
      · assumption
      · rfl
    exact ⟨by simp, by simp [hc], by simp [hc]⟩

theorem orderly {members : List σ} (h : ∀ m ∈ members, Orderly ⟨m, false, false⟩) :
    Orderly ⟨ofList members, false, false⟩ :=
  keeps.orderly ⟨by simp, fun _ => lined_of_forall h, by simp⟩

end Concat
end PullStreams
