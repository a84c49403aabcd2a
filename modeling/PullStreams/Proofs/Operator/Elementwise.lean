import PullStreams.Operator.Filter
import PullStreams.Operator.Flatten
import PullStreams.Proofs.Run

namespace PullStreams

namespace Map
variable {σ : Type u} {α : Type v} {κ : Type w} {β : Type x} {f : Callback α κ β} [Source σ α]
  {s : Map σ f} {t : σ}

theorem advance_of_stop (h : Source.advance s.inner = (false, t)) :
    s.advance = (false, { s with inner := t, slot := none }) := by
  simp [advance, h]

theorem advance_of_item (h : Source.advance s.inner = (true, t)) :
    s.advance =
      (true,
        { inner := t, memory := (f (Source.current t) s.memory).2,
          slot := some (f (Source.current t) s.memory).1 }) := by
  simp [advance, h]

/-- The last value plays no part. -/
theorem advance_congr {s' : Map σ f} (hi : Source.advance s.inner = Source.advance s'.inner)
    (hm : s.memory = s'.memory) : s.advance = s'.advance := by
  simp only [advance, hi, hm]

end Map

namespace TryMap
variable {σ : Type u} {α : Type v} {κ : Type w} {β : Type x}
  {f : Callback α κ (Except Report β)} [Source σ α] {s : TryMap σ f} {t : σ} {memory : κ}

theorem advance_of_stopped (hs : s.stopped.isSome = true) :
    s.advance = (false, { s with slot := none }) := by
  simp [advance, hs]

theorem advance_of_stop (hs : s.stopped = none) (h : Source.advance s.inner = (false, t)) :
    s.advance = (false, { s with inner := t, slot := none }) := by
  simp [advance, hs, h]

theorem advance_of_ok (hs : s.stopped = none) (h : Source.advance s.inner = (true, t)) {b : β}
    (hf : f (Source.current t) s.memory = (.ok b, memory)) :
    s.advance = (true, { inner := t, memory, slot := some b }) := by
  simp [advance, hs, h, hf]

theorem advance_of_error (hs : s.stopped = none) (h : Source.advance s.inner = (true, t))
    {e : Report} (hf : f (Source.current t) s.memory = (.error e, memory)) :
    s.advance = (false, { inner := t, memory, stopped := some e.toStreamFault }) := by
  simp [advance, hs, h, hf]

end TryMap

namespace Filter
variable {σ : Type u} {α : Type v} {κ : Type w} {p : Callback α κ Bool} [Source σ α]
  [Source.SweepsEnd σ (visit p)] {s : Filter σ p} {t : σ} {memory : κ}

theorem advance_of_stop (h : Source.advance s.inner = (false, t)) :
    s.advance = (false, { inner := t, memory := s.memory }) := by
  rw [advance, Source.sweep_of_stop h]

theorem advance_of_match (h : Source.advance s.inner = (true, t))
    (hp : p (Source.current t) s.memory = (true, memory)) :
    s.advance = (true, { inner := t, memory, isMatched := true }) := by
  rw [advance, Source.sweep_of_item h]
  simp [visit, hp]

theorem advance_of_miss (h : Source.advance s.inner = (true, t))
    (hp : p (Source.current t) s.memory = (false, memory)) :
    s.advance = advance { inner := t, memory } := by
  rw [advance, Source.sweep_of_item h]
  simp [visit, hp, advance]

/-- The source within is read to an item that matches, or to its stop. -/
theorem advance_cases (s : Filter σ p) :
    (∃ xs t memory, Source.Reads s.inner (xs ++ [Source.current t]) t ∧
      s.advance = (true, { inner := t, memory, isMatched := true })) ∨
    ∃ xs t memory, Source.Drains s.inner xs t ∧ s.advance = (false, { inner := t, memory }) := by
  unfold advance
  match h : Source.sweep (visit p) s.memory s.inner with
  | (.error memory, t) =>
    obtain ⟨xs, hr⟩ := Source.reads_of_sweep_eq_error h
    exact .inl ⟨xs, t, memory, hr, rfl⟩
  | (.ok memory, t) =>
    obtain ⟨xs, hd⟩ := Source.drains_of_sweep_eq_ok h
    exact .inr ⟨xs, t, memory, hd, rfl⟩

end Filter

namespace FilterMap
variable {σ : Type u} {α : Type v} {κ : Type w} {β : Type x} {f : Callback α κ (Option β)}
  [Source σ α] [Source.SweepsEnd σ (visit f)] {s : FilterMap σ f} {t : σ} {memory : κ}

theorem advance_of_stop (h : Source.advance s.inner = (false, t)) :
    s.advance = (false, { inner := t, memory := s.memory }) := by
  rw [advance, Source.sweep_of_stop h]

theorem advance_of_some (h : Source.advance s.inner = (true, t)) {b : β}
    (hf : f (Source.current t) s.memory = (some b, memory)) :
    s.advance = (true, { inner := t, memory, slot := some b }) := by
  rw [advance, Source.sweep_of_item h]
  simp [visit, hf]

theorem advance_of_none (h : Source.advance s.inner = (true, t))
    (hf : f (Source.current t) s.memory = (none, memory)) :
    s.advance = advance { inner := t, memory } := by
  rw [advance, Source.sweep_of_item h]
  simp [visit, hf, advance]

theorem advance_cases (s : FilterMap σ f) :
    (∃ xs t memory b, Source.Reads s.inner (xs ++ [Source.current t]) t ∧
      s.advance = (true, { inner := t, memory, slot := some b })) ∨
    ∃ xs t memory, Source.Drains s.inner xs t ∧ s.advance = (false, { inner := t, memory }) := by
  unfold advance
  match h : Source.sweep (visit f) s.memory s.inner with
  | (.error (b, memory), t) =>
    obtain ⟨xs, hr⟩ := Source.reads_of_sweep_eq_error h
    exact .inl ⟨xs, t, memory, b, hr, rfl⟩
  | (.ok memory, t) =>
    obtain ⟨xs, hd⟩ := Source.drains_of_sweep_eq_ok h
    exact .inr ⟨xs, t, memory, hd, rfl⟩

end FilterMap

namespace Flatten
variable {σ : Type u} {α : Type v} [Source σ (List α)] [NonemptyAtLast σ] {s : Flatten σ α} {t : σ}

theorem pull_of_stop {s : σ} (h : Source.advance s = (false, t)) : pull s = (none, t) := by
  rw [pull]
  split <;> simp_all

theorem pull_of_item {s : σ} (h : Source.advance s = (true, t)) :
    pull s = match Source.current t with
      | [] => pull t
      | a :: rest => (some (a, rest), t) := by
  rw [pull]
  split
  · simp_all
  · rename_i u hu
    obtain rfl : t = u := by
      rw [h] at hu
      exact (Prod.mk.inj hu).2
    split <;> rename_i hc <;> rw [hc]

theorem drains_of_pull {s : σ} (h : pull s = (none, t)) : ∃ xs, Source.Drains s xs t := by
  fun_induction pull s with
  | case1 s u hu =>
    obtain rfl := (Prod.mk.inj h).2
    exact ⟨[], .stop hu⟩
  | case2 s u hu hc ih =>
    obtain ⟨xs, rest⟩ := ih h
    exact ⟨_, .item hu rest⟩
  | case3 => simp at h

theorem reads_of_pull {s : σ} {next : α × List α} (h : pull s = (some next, t)) :
    ∃ xs, Source.Reads s (xs ++ [Source.current t]) t := by
  fun_induction pull s with
  | case1 => simp at h
  | case2 s u hu hc ih =>
    obtain ⟨xs, rest⟩ := ih h
    exact ⟨Source.current u :: xs, .cons hu rest⟩
  | case3 s u hu a rest hc =>
    obtain rfl := (Prod.mk.inj h).2
    exact ⟨[], .single hu⟩

theorem advance_of_pending {a : α} {rest : List α} (hp : s.pending = a :: rest) :
    s.advance = (true, { s with pending := rest, slot := some a }) := by
  simp [advance, hp]

theorem advance_of_stop (hp : s.pending = []) (h : Source.advance s.inner = (false, t)) :
    s.advance = (false, { inner := t }) := by
  simp [advance, hp, pull_of_stop h]

/-- A new list goes on as if it had been pending. -/
theorem advance_of_item (hp : s.pending = []) (h : Source.advance s.inner = (true, t)) :
    s.advance = advance { inner := t, pending := Source.current t } := by
  cases hc : Source.current t <;> simp [advance, hp, pull_of_item h, hc]

end Flatten
end PullStreams
