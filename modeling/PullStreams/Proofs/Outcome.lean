import Mathlib.Data.List.Forall2
import PullStreams.Proofs.Lists
import PullStreams.Proofs.Operator.Batch
import PullStreams.Proofs.Operator.Elementwise
import PullStreams.Proofs.Operator.Group
import PullStreams.Proofs.Passing
import PullStreams.Proofs.Source.Concat

namespace PullStreams

structure Outcome (α : Type u) where
  items : List α
  failure : Option StreamFault := none

/-- From `s` on come the items of `o`, and then a stop with its failure. -/
def Source.Denotes {σ : Type u} {α : Type v} [Source σ α] (s : σ) (o : Outcome α) : Prop :=
  ∃ t, Drains s o.items t ∧ failure? (error t) = o.failure

namespace Outcome
variable {α : Type u} {κ : Type v} {β : Type w}

/-- A failure of `f` takes the place of the one that would have come. -/
def attempt (f : Callback α κ (Except Report β)) (memory : κ) (o : Outcome α) : Outcome β :=
  match f.attemptList memory o.items with
  | (bs, none) => ⟨bs, o.failure⟩
  | (bs, some e) => ⟨bs, failure? (some e.toStreamFault)⟩

def append (o p : Outcome α) : Outcome α :=
  match o.failure with
  | some _ => o
  | none => ⟨o.items ++ p.items, p.failure⟩

def concat (os : List (Outcome α)) : Outcome α := os.foldr append ⟨[], none⟩

theorem append_nil (o : Outcome α) : o.append ⟨[], none⟩ = o := by
  obtain ⟨xs, e⟩ := o
  cases e <;> simp [append]

theorem attempt_cons_ok {f : Callback α κ (Except Report β)} {memory memory' : κ} {a : α} {b : β}
    (hf : f a memory = (.ok b, memory')) (xs : List α) (e : Option StreamFault) :
    attempt f memory ⟨a :: xs, e⟩ =
      { attempt f memory' ⟨xs, e⟩ with items := b :: (attempt f memory' ⟨xs, e⟩).items } := by
  simp only [attempt, Callback.attemptList, hf]
  obtain ⟨bs, failed⟩ := f.attemptList memory' xs
  cases failed <;> rfl

theorem attempt_cons_error {f : Callback α κ (Except Report β)} {memory memory' : κ} {a : α}
    {r : Report} (hf : f a memory = (.error r, memory')) (xs : List α) (e : Option StreamFault) :
    attempt f memory ⟨a :: xs, e⟩ = ⟨[], failure? (some r.toStreamFault)⟩ := by
  simp only [attempt, Callback.attemptList, hf]

theorem concat_cons_item (a : α) (xs : List α) (e : Option StreamFault) (os : List (Outcome α)) :
    concat (⟨a :: xs, e⟩ :: os) =
      { concat (⟨xs, e⟩ :: os) with items := a :: (concat (⟨xs, e⟩ :: os)).items } := by
  cases e <;> rfl

end Outcome

@[simp] theorem failure?_failure? (e : Option StreamFault) :
    failure? (failure? e) = failure? e := by
  match e with
  | none => rfl
  | some e => cases e <;> rfl

open Source

theorem Source.Passes.denotes {σ : Type u} {τ : Type v} {α : Type w} [Source σ α] [Source τ α]
    {f : σ → τ} (hf : Passes f) {s : σ} {o : Outcome α} (h : Denotes s o) : Denotes (f s) o := by
  obtain ⟨t, hd, he⟩ := h
  exact ⟨f t, hf.drains hd, by rw [hf.error, he]⟩

theorem Source.Passes.denotes_of {σ : Type u} {τ : Type v} {α : Type w} [Source σ α] [Source τ α]
    {f : σ → τ} (hf : Passes f) {s : σ} {o : Outcome α} (h : Denotes (f s) o) : Denotes s o := by
  obtain ⟨t', hd, he⟩ := h
  obtain ⟨t, rfl, ht⟩ := hf.exists_drains hd
  exact ⟨t, ht, by rw [← hf.error, he]⟩

namespace Map
variable {σ : Type u} {α : Type v} {κ : Type w} {β : Type x} [Source σ α] [Inhabited β]

theorem drains (f : Callback α κ β) {s t : σ} {xs : List α} (h : Drains s xs t) (memory : κ)
    (slot : Option β) :
    ∃ u : Map σ f, Drains { inner := s, memory, slot } (f.mapList memory xs) u ∧
      Source.error u = Source.error t := by
  induction h generalizing memory slot with
  | stop h => exact ⟨_, .stop (advance_of_stop h), rfl⟩
  | @item s t u xs h _ ih =>
    obtain ⟨v, hv, he⟩ := ih (f (current t) memory).2 (some (f (current t) memory).1)
    exact ⟨v, .item (advance_of_item h) hv, he⟩

theorem denotes (f : Callback α κ β) {s : σ} {o : Outcome α} (h : Denotes s o) (memory : κ) :
    Denotes ({ inner := s, memory } : Map σ f) ⟨f.mapList memory o.items, o.failure⟩ := by
  obtain ⟨t, hd, he⟩ := h
  obtain ⟨u, hu, hut⟩ := drains f hd memory none
  exact ⟨u, hu, by rw [hut, he]⟩

end Map

namespace TryMap
variable {σ : Type u} {α : Type v} {κ : Type w} {β : Type x} [Source σ α] [Inhabited β]

theorem denotes (f : Callback α κ (Except Report β)) {s : σ} {o : Outcome α} (h : Denotes s o)
    (memory : κ) :
    Denotes ({ inner := s, memory } : TryMap σ f) (o.attempt f memory) := by
  obtain ⟨t, hd, he⟩ := h
  obtain ⟨xs, e⟩ := o
  suffices hs : ∀ slot, Denotes ({ inner := s, memory, slot } : TryMap σ f)
      (Outcome.attempt f memory ⟨xs, e⟩) from hs none
  simp only at hd he
  induction hd generalizing memory with
  | stop h => exact fun slot => ⟨_, .stop (advance_of_stop rfl h), he⟩
  | @item s t u xs h _ ih =>
    intro slot
    cases hf : f (current t) memory with
    | mk result memory' =>
      cases result with
      | error r =>
        rw [Outcome.attempt_cons_error hf]
        exact ⟨_, .stop (advance_of_error rfl h hf), rfl⟩
      | ok b =>
        obtain ⟨v, hv, hve⟩ := ih memory' he (some b)
        rw [Outcome.attempt_cons_ok hf]
        exact ⟨v, .item (advance_of_ok rfl h hf) hv, hve⟩

end TryMap

namespace Filter
variable {σ : Type u} {α : Type v} {κ : Type w} [Source σ α] [FiniteSource σ] [Inhabited α]

theorem denotes (p : Callback α κ Bool) {s : σ} {o : Outcome α} (h : Denotes s o) (memory : κ) :
    Denotes ({ inner := s, memory } : Filter σ p) ⟨p.filterList memory o.items, o.failure⟩ := by
  obtain ⟨t, hd, he⟩ := h
  obtain ⟨xs, e⟩ := o
  suffices hs : ∀ isMatched, Denotes ({ inner := s, memory, isMatched } : Filter σ p)
      ⟨p.filterList memory xs, e⟩ from hs false
  simp only at hd he
  induction hd generalizing memory with
  | stop h => exact fun _ => ⟨_, .stop (advance_of_stop h), he⟩
  | @item s t u xs h _ ih =>
    intro isMatched
    rcases hp : p (current t) memory with ⟨holds, memory'⟩
    obtain ⟨v, hv, hve⟩ := ih memory' he holds
    rw [Callback.filterList, hp]
    cases holds with
    | true => exact ⟨v, .item (advance_of_match h hp) hv, hve⟩
    | false => exact ⟨v, hv.of_advance_eq (advance_of_miss h hp), hve⟩

end Filter

namespace FilterMap
variable {σ : Type u} {α : Type v} {κ : Type w} {β : Type x} [Source σ α] [FiniteSource σ]
  [Inhabited β]

theorem denotes (f : Callback α κ (Option β)) {s : σ} {o : Outcome α} (h : Denotes s o)
    (memory : κ) :
    Denotes ({ inner := s, memory } : FilterMap σ f)
      ⟨f.filterMapList memory o.items, o.failure⟩ := by
  obtain ⟨t, hd, he⟩ := h
  obtain ⟨xs, e⟩ := o
  suffices hs : ∀ slot, Denotes ({ inner := s, memory, slot } : FilterMap σ f)
      ⟨f.filterMapList memory xs, e⟩ from hs none
  simp only at hd he
  induction hd generalizing memory with
  | stop h => exact fun _ => ⟨_, .stop (advance_of_stop h), he⟩
  | @item s t u xs h _ ih =>
    intro slot
    rcases hf : f (current t) memory with ⟨result, memory'⟩
    obtain ⟨v, hv, hve⟩ := ih memory' he result
    rw [Callback.filterMapList, hf]
    cases result with
    | some b => exact ⟨v, .item (advance_of_some h hf) hv, hve⟩
    | none => exact ⟨v, hv.of_advance_eq (advance_of_none h hf), hve⟩

end FilterMap

namespace Flatten
variable {σ : Type u} {α : Type v} [Source σ (List α)] [NonemptyAtLast σ] [Inhabited α]

/-- Pending elements come first. -/
theorem denotes_pending {s : σ} {o : Outcome α}
    (h : ∀ slot, Denotes ({ inner := s, slot } : Flatten σ α) o) (pending : List α)
    (slot : Option α) :
    Denotes ({ inner := s, pending, slot } : Flatten σ α) ⟨pending ++ o.items, o.failure⟩ := by
  induction pending generalizing slot with
  | nil => exact h slot
  | cons a rest ih =>
    obtain ⟨v, hv, hve⟩ := ih (some a)
    exact ⟨v, .item (advance_of_pending rfl) hv, hve⟩

theorem denotes {s : σ} {o : Outcome (List α)} (h : Denotes s o) :
    Denotes ({ inner := s } : Flatten σ α) ⟨o.items.flatten, o.failure⟩ := by
  obtain ⟨t, hd, he⟩ := h
  obtain ⟨xs, e⟩ := o
  suffices hs : ∀ slot, Denotes ({ inner := s, slot } : Flatten σ α) ⟨xs.flatten, e⟩ from hs none
  simp only at hd he
  induction hd with
  | stop h => exact fun _ => ⟨_, .stop (advance_of_stop rfl h), he⟩
  | @item s t u xs h _ ih =>
    intro slot
    obtain ⟨v, hv, hve⟩ := denotes_pending (ih he) (current t) none
    exact ⟨v, hv.of_advance_eq (advance_of_item rfl h), hve⟩

end Flatten

namespace Batch
variable {σ : Type u} {α : Type v} [Source σ α]

/-- Once the source within has stopped, what is left is its failure. -/
theorem denotes_ofError (size : Nat) (s : σ) (slot : Option (List α)) (e : Option StreamFault) :
    Denotes ({ inner := s, slot, ending := .ofError e } : Batch σ size) ⟨[], failure? e⟩ :=
  ⟨_, .stop (advance_of_not_running (Ending.isRunning_ofError e)), by simp [Source.error]⟩

theorem denotes (size : Nat) {s : σ} {o : Outcome α} (h : Denotes s o) :
    Denotes ({ inner := s } : Batch σ size) ⟨chunks size o.items, o.failure⟩ := by
  obtain ⟨t, hd, he⟩ := h
  obtain ⟨xs, e⟩ := o
  suffices hs : ∀ slot, Denotes ({ inner := s, slot } : Batch σ size) ⟨chunks size xs, e⟩ from
    hs none
  simp only at hd he
  subst he
  -- A batch takes many items at a time, so the induction is on how many are left.
  induction hn : xs.length using Nat.strongRecOn generalizing xs s with
  | _ n ih =>
    intro slot
    have hstep := step_advance (s := { inner := s, slot : Batch σ size }) rfl
    generalize hr : advance { inner := s, slot : Batch σ size } = r at hstep
    cases hstep with
    | @full ys u hl h =>
      obtain ⟨zs, rfl, hz⟩ := hd.of_reads h
      have hlt : zs.length < n := by
        rw [← hn, List.length_append, hl]
        omega
      obtain ⟨v, hv, hve⟩ := ih zs.length hlt zs hz rfl (some ys)
      rw [chunks_append hl]
      exact ⟨v, .item hr hv, hve⟩
    | @last ys u hne hl h =>
      obtain ⟨rfl, rfl⟩ := hd.unique h
      obtain ⟨v, hv, hve⟩ := denotes_ofError size t (some xs) (Source.error t)
      rw [chunks_of_length_le hne (Nat.le_of_lt hl)]
      exact ⟨v, .item hr hv, hve⟩
    | stop h =>
      obtain ⟨rfl, rfl⟩ := hd.unique (.stop h)
      rw [chunks]
      refine ⟨_, .stop hr, ?_⟩
      simp [Source.error]

end Batch

namespace Group
variable {σ : Type u} {α : Type v} {κ : Type w} {ξ : Type x} [Source σ α] [BEq ξ]
  (key : Callback α κ ξ) [∀ k, SweepsEnd σ (visit key k)]

theorem denotes_ofError (s : σ) (memory : κ) (slot : Option (List α))
    (e : Option StreamFault) :
    Denotes ({ inner := s, memory, slot, ending := .ofError e } : Group σ key) ⟨[], failure? e⟩ :=
  ⟨_, .stop (advance_of_not_running rfl (Ending.isRunning_ofError e)), by simp [Source.error]⟩

/-- The item that waits begins the first run. -/
theorem denotes_pending {s t : σ} {xs : List α} (hd : Drains s xs t)
    (memory : κ) (k : ξ) (a : α) (slot : Option (List α)) :
    Denotes ({ inner := s, memory, pending := some (k, a), slot } : Group σ key)
      ⟨runs ((k, a) :: key.keyed.mapList memory xs), failure? (Source.error t)⟩ := by
  -- As with batches, one advance takes many items.
  induction hn : xs.length using Nat.strongRecOn generalizing xs s memory k a slot with
  | _ n ih =>
    have hr := advance_of_pending
      (s := { inner := s, memory, pending := some (k, a), slot : Group σ key }) rfl
    have hg := gathered_gather k a
      (s := { inner := s, memory, pending := some (k, a), slot : Group σ key }) rfl
    generalize gather k a { inner := s, memory, pending := some (k, a), slot : Group σ key } = g
      at hr hg
    cases hg with
    | @next ys u k' memory' h hx hk hne =>
      obtain ⟨zs, rfl, hz⟩ := hd.of_reads h
      have hlt : zs.length < n := by
        rw [← hn, List.length_append, List.length_append, List.length_singleton]
        omega
      obtain ⟨v, hv, hve⟩ := ih zs.length hlt hz memory' k' (current u) (some (a :: ys)) rfl
      have hruns := runs_append a hx ((k', current u) :: key.keyed.mapList memory' zs)
        (by simpa using hne)
      rw [Callback.map_snd_keyed] at hruns
      rw [Callback.mapList_keyed_append hk, hruns]
      exact ⟨v, .item hr hv, hve⟩
    | @last ys u h hx =>
      obtain ⟨rfl, rfl⟩ := hd.unique h
      obtain ⟨v, hv, hve⟩ := denotes_ofError key t (key.after memory xs) (some (a :: xs))
        (Source.error t)
      have hruns := runs_append a hx [] (by simp)
      rw [List.append_nil, Callback.map_snd_keyed] at hruns
      rw [hruns, runs]
      exact ⟨v, .item hr hv, hve⟩

theorem denotes {s : σ} {o : Outcome α} (h : Denotes s o) (memory : κ) :
    Denotes ({ inner := s, memory } : Group σ key)
      ⟨runs (key.keyed.mapList memory o.items), o.failure⟩ := by
  obtain ⟨t, hd, he⟩ := h
  obtain ⟨xs, e⟩ := o
  simp only at hd he
  subst he
  cases hd with
  | stop h =>
    rw [Callback.mapList, runs]
    refine ⟨_, .stop (advance_of_stop rfl rfl h), ?_⟩
    simp [Source.error]
  | @item s u t xs h rest =>
    obtain ⟨v, hv, hve⟩ := denotes_pending key rest (key (current u) memory).2
      (key (current u) memory).1 (current u) none
    refine ⟨v, hv.of_advance_eq ?_, hve⟩
    show advance _ = advance _
    rw [advance_of_item rfl rfl h, advance_of_pending rfl]
    rfl

end Group

namespace Concat
variable {σ : Type u} {α : Type v} [Source σ α] [Inhabited α]

/-- Members that denote outcomes, one after the other. -/
theorem denotes {members : List σ} {os : List (Outcome α)}
    (h : List.Forall₂ Denotes members os) : Denotes (ofList members) (Outcome.concat os) := by
  suffices hs : ∀ passed, Denotes ({ passed, ahead := members } : Concat σ) (Outcome.concat os) from
    hs []
  induction h with
  | nil => exact fun passed => ⟨_, .stop (advance_nil passed), rfl⟩
  | @cons s o members os h _ ih =>
    intro passed
    obtain ⟨t, hd, he⟩ := h
    obtain ⟨xs, e⟩ := o
    simp only at hd he
    subst he
    -- Reading the first member to its stop, and on from there only if that was no failure.
    induction hd with
    | @stop s t h =>
      cases hf : failure? (Source.error t) with
      | some e =>
        refine ⟨_, .stop (advance_of_failure h hf passed members), ?_⟩
        show failure? (some e) = some e
        rw [← hf, failure?_failure?]
      | none =>
        obtain ⟨v, hv, hve⟩ := ih (passed ++ [t])
        refine ⟨v, hv.of_advance_eq (advance_of_end h hf passed members), hve⟩
    | @item s t u xs h _ ihd =>
      obtain ⟨v, hv, hve⟩ := ihd
      rw [Outcome.concat_cons_item]
      exact ⟨v, .item (advance_of_item h passed members) hv, hve⟩

end Concat

end PullStreams
