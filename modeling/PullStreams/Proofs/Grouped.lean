import Mathlib.Data.List.Chain
import PullStreams.Proofs.Outcome
import PullStreams.Proofs.Source.Stored

namespace PullStreams.Group
open Source

structure IsRuns {α : Type u} {ξ : Type v} [BEq ξ] (xs : List (ξ × α))
    (parts : List (List (ξ × α))) : Prop where
  flatten : parts.flatten = xs
  run : ∀ part ∈ parts, ∃ k a rest, part = (k, a) :: rest ∧ ∀ x ∈ rest, (x.1 == k) = true
  changes : parts.IsChain fun p q => ∀ x ∈ p.head?, ∀ y ∈ q.head?, (y.1 == x.1) = false

namespace IsRuns
variable {α : Type u} {ξ : Type v} [BEq ξ] {xs ys : List (ξ × α)} {parts : List (List (ξ × α))}

theorem nil : IsRuns ([] : List (ξ × α)) [] := ⟨rfl, nofun, .nil⟩

theorem head?_eq {part : List (ξ × α)} (h : IsRuns ys (part :: parts)) :
    part.head? = ys.head? := by
  obtain ⟨k, a, rest, rfl, -⟩ := h.run part List.mem_cons_self
  rw [← h.flatten]
  rfl

/-- A run goes on for as long as the keys are that of its first item. -/
theorem cons {k : ξ} (a : α) (hx : ∀ x ∈ xs, (x.1 == k) = true) (h : IsRuns ys parts)
    (hy : ∀ y ∈ ys.head?, (y.1 == k) = false) :
    IsRuns ((k, a) :: xs ++ ys) (((k, a) :: xs) :: parts) where
  flatten := by rw [List.flatten_cons, h.flatten]
  run part hp := by
    rcases List.mem_cons.1 hp with rfl | hp
    · exact ⟨k, a, xs, rfl, hx⟩
    · exact h.run part hp
  changes := by
    rw [List.isChain_cons]
    refine ⟨fun part hp x hk y hpy => ?_, h.changes⟩
    obtain ⟨parts, rfl⟩ := List.head?_eq_some_iff.1 hp
    obtain rfl : (k, a) = x := Option.some.inj hk
    exact hy y (h.head?_eq ▸ hpy)

theorem single {k : ξ} (a : α) (hx : ∀ x ∈ xs, (x.1 == k) = true) :
    IsRuns ((k, a) :: xs) [(k, a) :: xs] := by
  simpa using cons a hx nil nofun

/-- There is one way to cut a list into runs. -/
theorem map_snd_eq_runs (h : IsRuns xs parts) : parts.map (·.map Prod.snd) = runs xs := by
  induction parts generalizing xs with
  | nil =>
    rw [← h.flatten, List.flatten_nil, runs]
    rfl
  | cons part parts ih =>
    obtain ⟨hchange, hchanges⟩ := List.isChain_cons.1 h.changes
    have hrest : IsRuns parts.flatten parts :=
      ⟨rfl, fun p hp => h.run p (List.mem_cons_of_mem part hp), hchanges⟩
    obtain ⟨k, a, rest, rfl, hrun⟩ := h.run part List.mem_cons_self
    have hnext : ∀ y ∈ parts.flatten.head?, (y.1 == k) = false := by
      intro y hy
      cases parts with
      | nil => cases hy
      | cons q parts => exact hchange q rfl (k, a) rfl y (hrest.head?_eq ▸ hy)
    rw [← h.flatten, List.flatten_cons, List.cons_append, runs_append a hrun _ hnext, ← ih hrest]
    rfl

end IsRuns

variable {σ : Type u} {α : Type v} {κ : Type w} {ξ : Type x} {key : Callback α κ ξ} [Source σ α]
  [BEq ξ] {memory : κ} {s t : σ} {g g' : Group σ key}

/-- The items `pulled` make up the runs that were delivered, and the beginning of the next one if
its first item waits. -/
structure Account (key : Callback α κ ξ) (memory : κ) (s : σ) (parts : List (List (ξ × α)))
    (pulled : List α) (g : Group σ key) : Prop where
  runs : IsRuns (key.keyed.mapList memory pulled) (parts ++ g.pending.toList.map ([·]))
  memory : g.memory = key.after memory pulled
  pulls : Pulls s pulled g.pending.isNone g.inner

theorem Account.pulled_eq {parts : List (List (ξ × α))} {pulled : List α}
    (h : Account key memory s parts pulled g) :
    pulled = (parts.map (·.map Prod.snd)).flatten ++ g.pending.toList.map Prod.snd := by
  have hflatten := congrArg (·.map Prod.snd) h.runs.flatten
  cases hp : g.pending <;>
    simpa [hp, Callback.map_snd_keyed, List.map_flatten, eq_comm] using hflatten

variable [∀ k, SweepsEnd σ (visit key k)] {groups : List (List α)} {ended : Bool}

/-- Nothing more is pulled once the source within has stopped and no item waits. -/
theorem pulls_of_not_running (hp : g.pending = none) (hr : g.ending.isRunning = false)
    (h : Pulls g groups ended g') :
    groups = [] ∧ g'.inner = g.inner ∧ g'.memory = g.memory ∧ g'.pending = none := by
  have hover : Source.advance g = _ := advance_of_not_running hp hr
  cases h with
  | nil => exact ⟨rfl, rfl, rfl, hp⟩
  | stop ha =>
    obtain rfl := (Prod.mk.inj (hover.symm.trans ha)).2
    exact ⟨rfl, rfl, rfl, hp⟩
  | item ha => cases hover.symm.trans ha

/-- An item that waits is the first of the next run, whatever comes after it. -/
theorem account_of_pending {k : ξ} {a : α} (hp : g.pending = some (k, a))
    (hr : g.ending.isRunning = true) (h : Pulls g groups ended g') :
    ∃ parts pulled, groups = parts.map (·.map Prod.snd) ∧
      IsRuns ((k, a) :: key.keyed.mapList g.memory pulled)
        (parts ++ g'.pending.toList.map ([·])) ∧
      g'.memory = key.after g.memory pulled ∧ Pulls g.inner pulled g'.pending.isNone g'.inner ∧
      (ended = true → g'.pending = none) := by
  induction h generalizing k a with
  | nil g =>
    rw [hp]
    exact ⟨[], [], rfl, .single a nofun, rfl, .nil g.inner, nofun⟩
  | stop ha => cases (advance_of_pending hp).symm.trans ha
  | @item g c g' groups ended ha rest ih =>
    have hg := gathered_gather k a hr
    obtain rfl : g.gather k a = c := (Prod.mk.inj ((advance_of_pending hp).symm.trans ha)).2
    generalize g.gather k a = c at ha hg rest ih
    cases hg with
    | @next xs t k' memory' h hx hk hne =>
      obtain ⟨parts, pulled, rfl, hruns, hm, hpulls, hover⟩ := ih rfl rfl
      refine ⟨((k, a) :: key.keyed.mapList g.memory xs) :: parts, xs ++ [current t] ++ pulled,
        ?_, ?_, ?_, h.pulls hpulls, hover⟩
      · rw [List.map_cons, List.map_cons, Callback.map_snd_keyed]
        rfl
      · rw [Callback.mapList_keyed_append hk]
        exact .cons a hx hruns (by simpa using hne)
      · rw [hm, Callback.after_append, Callback.after_append, Callback.after_cons,
          Callback.after_nil, hk]
    | @last xs t h hx =>
      obtain ⟨rfl, hi, hm, hp'⟩ := pulls_of_not_running rfl (Ending.isRunning_ofError _) rest
      refine ⟨[(k, a) :: key.keyed.mapList g.memory xs], xs, ?_, ?_, hm, ?_, fun _ => hp'⟩
      · rw [List.map_singleton, List.map_cons, Callback.map_snd_keyed]
        rfl
      · rw [hp']
        exact .single a hx
      · rw [hi, hp']
        exact pulls_true_iff.2 h

/-- What a group over `s` has pulled when it has been advanced, to its stop if `ended`. -/
theorem account_of_pulls (h : Pulls ({ inner := s, memory } : Group σ key) groups ended g)
    (hne : ended = false → groups ≠ []) :
    ∃ parts pulled, groups = parts.map (·.map Prod.snd) ∧ Account key memory s parts pulled g ∧
      (ended = true → g.pending = none) := by
  rcases ha : Source.advance s with ⟨_ | _, t⟩
  · have hstop := advance_of_stop (s := ({ inner := s, memory } : Group σ key)) rfl rfl ha
    cases h with
    | nil => exact absurd rfl (hne rfl)
    | stop h =>
      obtain rfl := (Prod.mk.inj (hstop.symm.trans h)).2
      exact ⟨[], [], rfl, ⟨.nil, rfl, .stop ha⟩, fun _ => rfl⟩
    | item h => cases hstop.symm.trans h
  · -- From its first item on the group is one whose first item waits.
    let g₁ : Group σ key :=
      { inner := t, memory := (key (current t) memory).2,
        pending := some ((key (current t) memory).1, current t) }
    have he : Source.advance ({ inner := s, memory } : Group σ key) = Source.advance g₁ := by
      show advance _ = advance _
      rw [advance_of_item rfl rfl ha, advance_of_pending (s := g₁) rfl]
      rfl
    obtain ⟨parts, pulled, rfl, hruns, hm, hpulls, hover⟩ :=
      account_of_pending (g := g₁) rfl rfl (h.of_advance_eq he hne)
    exact ⟨parts, current t :: pulled, rfl, ⟨hruns, hm, .item ha hpulls⟩, hover⟩

/-- The groups of a source that stops are the runs of its items, each of which has been shown to the
key function once. -/
theorem groups_are_runs (key : Callback α κ ξ) [∀ k, SweepsEnd σ (visit key k)] (memory : κ)
    {xs : List α} (h : Drains s xs t) :
    ∃ parts g, Drains ({ inner := s, memory } : Group σ key) (parts.map (·.map Prod.snd)) g ∧
      IsRuns (key.keyed.mapList memory xs) parts ∧ g.memory = key.after memory xs ∧
      g.inner = t := by
  obtain ⟨g, hg, -⟩ := denotes key (o := ⟨xs, _⟩) ⟨t, h, rfl⟩ memory
  obtain ⟨parts, pulled, hparts, ⟨hruns, hm, hpulls⟩, hover⟩ :=
    account_of_pulls (pulls_true_iff.2 hg) nofun
  rw [hover rfl] at hruns hpulls
  obtain ⟨rfl, rfl⟩ := h.unique (pulls_true_iff.1 hpulls)
  rw [hparts] at hg
  exact ⟨parts, g, hg, by simpa using hruns, hm, rfl⟩

structure Level where
  height : Nat

instance : BEq Level where
  beq k k' := k.height ≤ k'.height + 1 && k'.height ≤ k.height + 1

/-- The runs of equal levels are told by the first level of each. -/
theorem groups_are_runs_of_levels :
    let key : Callback Nat Unit Level := fun a memory => (⟨a⟩, memory)
    ∃ g, Drains ({ inner := .ofList [1, 2, 3, 2, 0], memory := () } : Group (ListSource Nat) key)
      [[1, 2], [3, 2], [0]] g := by
  intro key
  obtain ⟨t, h, -⟩ := ListSource.denotes [1, 2, 3, 2, 0] .ended
  obtain ⟨parts, g, hg, hruns, -⟩ := groups_are_runs key () h
  have hlevels : runs (key.keyed.mapList () [1, 2, 3, 2, 0]) = [[1, 2], [3, 2], [0]] := by
    simp [runs, Callback.mapList, Callback.keyed, key, BEq.beq]
  rw [hruns.map_snd_eq_runs, hlevels] at hg
  exact ⟨g, hg⟩

end PullStreams.Group
