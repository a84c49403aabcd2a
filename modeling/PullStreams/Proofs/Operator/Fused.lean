import PullStreams.Proofs.Answers
import PullStreams.Proofs.Operator.Elementwise
import PullStreams.Proofs.Operator.Logged
import PullStreams.Source.Listed

namespace PullStreams
open Source

def Callback.pure {α : Type u} {β : Type v} (f : α → β) : Callback α Unit β :=
  fun a memory => (f a, memory)

section Ends
variable {σ : Type u} {α : Type v} {κ : Type w} {β : Type x} [Source σ α]

/-- A sweep is the same over a traced source. -/
theorem Source.SweepsTo.traced {ε : Type y} {visit : κ → σ → Except ε κ}
    {visit' : κ → Traced σ → Except ε κ} (hv : ∀ tally r, visit' tally r = visit tally r.inner)
    {tally : κ} {s : σ} {answer : Except ε κ × σ} (h : SweepsTo visit tally s answer)
    (log : List (Touch α)) : ∃ r : Traced σ, SweepsTo visit' tally ⟨s, log⟩ (answer.1, r) := by
  induction h generalizing log with
  | stop ha => exact ⟨_, .stop (Traced.advance_of_stop ha)⟩
  | halt ha he => exact ⟨_, .halt (Traced.advance_of_item ha) (by rw [hv, he])⟩
  | pass ha ho _ ih =>
    obtain ⟨r, rest⟩ := ih _
    exact ⟨r, .pass (Traced.advance_of_item ha) (by rw [hv, ho]) rest⟩

instance FilterMap.sweepsEnd_traced (f : Callback α κ (Option β)) [SweepsEnd σ (visit f)] :
    SweepsEnd (Traced σ) (visit f) where
  ends memory r :=
    have h : SweepsTo (visit f) memory r.inner _ := sweepsTo_sweep
    have ⟨_, h⟩ := h.traced (fun _ _ => rfl) r.log
    h.ends

/-- Writing the calls down changes nothing. -/
theorem FilterMap.visit_logged (f : Callback α κ (Option β)) (memory : κ × List (α × Option β))
    (t : σ) :
    visit f memory.1 t =
      ((visit f.logged memory t).map Prod.fst).mapError (Prod.map id Prod.fst) := by
  match hf : f (current t) memory.1 with
  | (none, _) =>
    simp only [visit, Callback.logged, hf]
    rfl
  | (some _, _) =>
    simp only [visit, Callback.logged, hf]
    rfl

instance FilterMap.sweepsEnd_logged (f : Callback α κ (Option β)) [SweepsEnd σ (visit f)] :
    SweepsEnd σ (visit f.logged) where
  ends memory s :=
    have h : SweepsTo (visit f) memory.1 s _ := sweepsTo_sweep
    have ⟨_, h⟩ := SweepsTo.of_map (visit_logged f) h
    h.ends

/-- The filter drops what the filter-map drops. -/
theorem Filter.visit_isSome (f : α → Option β) (memory : Unit) (t : σ) :
    visit (.pure fun a => (f a).isSome) (id memory) t =
      ((FilterMap.visit (.pure f) memory t).map id).mapError Prod.snd := by
  cases hf : f (current t) with
  | none =>
    simp only [visit, FilterMap.visit, Callback.pure, hf]
    rfl
  | some b =>
    simp only [visit, FilterMap.visit, Callback.pure, hf]
    rfl

instance Filter.sweepsEnd_isSome (f : α → Option β) [SweepsEnd σ (FilterMap.visit (.pure f))] :
    SweepsEnd σ (visit (.pure fun a => (f a).isSome)) where
  ends memory s :=
    have h : SweepsTo (FilterMap.visit (.pure f)) memory s _ := sweepsTo_sweep
    (h.map (visit_isSome f)).ends

end Ends

abbrev Fused (σ : Type u) {α : Type v} {β : Type w} [Source σ α] (f : α → Option β) :=
  FilterMap (Traced σ) (Callback.pure f).logged

abbrev Split (σ : Type u) {α : Type v} {β : Type w} [Source σ α] [Inhabited β]
    (f : α → Option β) :=
  Map (Filter (Traced σ) (.pure fun a => (f a).isSome)) (.pure fun a => (f a).getD default)

namespace Fused
variable {σ : Type u} {α : Type v} {β : Type w} [Source σ α] {f : α → Option β}

/-- What `f` has been asked, if it is asked once for each item of the log. -/
def asked (f : α → Option β) (log : List (Touch α)) : List (α × Option β) :=
  (Touch.items log).map fun a => (a, f a)

theorem asked_of_item {r r' : Traced σ} (h : Source.advance r = (true, r')) :
    asked f r'.log = asked f r.log ++ [(current r', f (current r'))] := by
  rw [asked, Traced.items_of_item h, List.map_append]
  rfl

theorem asked_of_stop {r r' : Traced σ} (h : Source.advance r = (false, r')) :
    asked f r'.log = asked f r.log := by
  rw [asked, Traced.items_of_stop h, asked]

theorem asked_close (r : Traced σ) : asked f (Source.close r).2.log = asked f r.log := by
  rw [asked, Traced.items_close, asked]

omit [Source σ α] in
theorem logged_pure (f : α → Option β) (a : α) (memory : Unit × List (α × Option β)) :
    (Callback.pure f).logged a memory = (f a, memory.1, memory.2 ++ [(a, f a)]) := rfl

variable [SweepsEnd σ (FilterMap.visit (.pure f))] [Inhabited β]

/-- Nothing is kept between an advance that yields nothing, or a close, and the next advance. -/
theorem slot_of_idle (calls : List Call) {h : History (Fused σ f)}
    (hi : h.hasItem = false → h.state.slot = none) :
    (calls.foldl History.call h).hasItem = false →
      (calls.foldl History.call h).state.slot = none := by
  induction calls generalizing h with
  | nil => exact hi
  | cons c calls ih =>
    refine ih ?_
    cases c with
    | current => exact hi
    | error => exact hi
    | close => exact fun _ => rfl
    | advance =>
      show h.state.advance.1 = false → h.state.advance.2.slot = none
      unfold FilterMap.advance
      split
      · intro h
        cases h
      · exact fun _ => rfl

structure Alike (t : Fused σ f) (m : Split σ f) : Prop where
  inner : t.inner = m.inner.inner
  slot : t.slot = m.slot
  once : t.memory.2 = asked f t.inner.log

variable {t : Fused σ f} {m : Split σ f} [Inhabited α]

theorem Alike.advance (h : Alike t m) :
    (Source.advance t).1 = (Source.advance m).1 ∧
      Alike (Source.advance t).2 (Source.advance m).2 := by
  show t.advance.1 = m.advance.1 ∧ Alike t.advance.2 m.advance.2
  -- The two take the same items, so the induction is along the sweep of one of them.
  obtain ⟨answer, hs⟩ : ∃ answer,
      SweepsTo (FilterMap.visit (Callback.pure f).logged) t.memory t.inner answer :=
    ⟨_, sweepsTo_sweep⟩
  generalize hr : t.inner = r at hs
  generalize hmemory : t.memory = memory at hs
  induction hs generalizing t m with subst hr hmemory
  | @stop memory r r' ha =>
    rw [FilterMap.advance_of_stop ha,
      Map.advance_of_stop (Filter.advance_of_stop (by rw [← h.inner]; exact ha))]
    refine ⟨rfl, rfl, rfl, ?_⟩
    rw [asked_of_stop ha]
    exact h.once
  | @halt memory r r' e ha hv =>
    have hm : Source.advance m.inner.inner = (true, r') := h.inner ▸ ha
    cases hf : f (current r') with
    | none => simp [FilterMap.visit, logged_pure, hf] at hv
    | some b =>
      rw [FilterMap.advance_of_some ha (by rw [logged_pure, hf]),
        Map.advance_of_item (Filter.advance_of_match hm (by rw [Callback.pure, hf]; rfl))]
      refine ⟨rfl, rfl, ?_, ?_⟩
      · show some b = some ((f (if true then current r' else default)).getD default)
        rw [if_pos rfl, hf]
        rfl
      · rw [asked_of_item ha, ← h.once, hf]
  | @pass memory memory' r r' answer ha hv rest ih =>
    have hm : Source.advance m.inner.inner = (true, r') := h.inner ▸ ha
    cases hf : f (current r') with
    | some b => simp [FilterMap.visit, logged_pure, hf] at hv
    | none =>
      obtain rfl : (t.memory.1, t.memory.2 ++ [(current r', none)]) = memory' := by
        simpa [FilterMap.visit, logged_pure, hf] using hv
      let next : Split σ f := { inner := { inner := r', memory := () }, memory := () }
      have hmiss : Source.advance m.inner = Source.advance next.inner :=
        Filter.advance_of_miss hm (by rw [Callback.pure, hf]; rfl)
      have hmap : m.advance = next.advance := Map.advance_congr hmiss rfl
      rw [FilterMap.advance_of_none ha (by rw [logged_pure, hf]), hmap]
      refine ih ⟨rfl, rfl, ?_⟩ rfl rfl
      rw [asked_of_item ha, ← h.once, hf]

/-- The two cannot be told apart. -/
theorem bisimulation : Bisimulation (Alike (σ := σ) (f := f)) where
  advance h := h.advance
  current h := congrArg (·.getD default) h.slot
  error h := congrArg (fun r : Traced σ => Source.error r) h.inner
  close h :=
    ⟨congrArg (fun r : Traced σ => (Source.close r).1) h.inner,
      congrArg (fun r : Traced σ => (Source.close r).2) h.inner, rfl,
      h.once.trans (asked_close _).symm⟩

structure EqualsSplit (fused : Fused σ f) (split : Split σ f) (calls : List Call) : Prop where
  answers : (run calls fused).1 = (run calls split).1
  /-- The source within has been called alike. -/
  inner : (run calls fused).2.inner = (run calls split).2.inner.inner
  idle : (History.after calls fused).hasItem = false → current (run calls fused).2 = default
  /-- The function has been asked once for each item that was pulled, in order. -/
  once : (run calls fused).2.memory.2 =
    (Touch.items (run calls fused).2.inner.log).map fun a => (a, f a)

/-- A filter-map cannot be told from the filter and the map. -/
theorem fused_equals_split (f : α → Option β) [SweepsEnd σ (FilterMap.visit (.pure f))] (s : σ)
    (calls : List Call) :
    EqualsSplit ({ inner := { inner := s }, memory := ((), []) } : Fused σ f)
      { inner := { inner := { inner := s }, memory := () }, memory := () } calls := by
  obtain ⟨answers, h⟩ := (bisimulation (σ := σ) (f := f)).run
    (s := { inner := { inner := s }, memory := ((), []) })
    (t := { inner := { inner := { inner := s }, memory := () }, memory := () })
    ⟨rfl, rfl, rfl⟩ calls
  refine ⟨answers, h.inner, fun hi => ?_, h.once⟩
  have hslot := slot_of_idle calls
    (h := { state := { inner := { inner := s }, memory := ((), []) } }) (fun _ => rfl) hi
  rw [← History.state_after]
  exact congrArg (·.getD default) hslot

/-- Half of each even number, asked of once more after the end. -/
theorem fused_equals_split_halves :
    let half : Nat → Option Nat := fun n => if n % 2 = 0 then some (n / 2) else none
    EqualsSplit
      ({ inner := { inner := .ofList [1, 4, 6, 3] }, memory := ((), []) } :
        Fused (ListSource Nat) half)
      { inner := { inner := { inner := .ofList [1, 4, 6, 3] }, memory := () }, memory := () }
      [.advance, .current, .advance, .advance, .current, .error, .close, .advance] :=
  fused_equals_split _ _ _

end Fused
end PullStreams
