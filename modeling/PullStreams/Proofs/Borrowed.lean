import PullStreams.Proofs.Batched
import PullStreams.Proofs.Grouped
import PullStreams.Proofs.Operator.Sifting
import PullStreams.Proofs.Recorded
import PullStreams.Proofs.Source.Orderly

namespace PullStreams
open Source

section Lent
variable {σ : Type u} {α : Type v} [Source σ α]

/-- After an advance that says that there is no more, all others say so too. -/
def Source.StaysStopped (s : σ) : Prop :=
  ∀ xs t, Drains s xs t → ∀ n, (advance (advances n t)).1 = false

theorem Source.History.Orderly.staysStopped [Inhabited α] {s : σ} (ho : Orderly ⟨s, false, false⟩) :
    StaysStopped s := by
  intro xs t h n
  have hover (n : Nat) : Orderly ⟨advances n t, false, true⟩ := by
    induction n with
    | zero => exact ho.of_drains h
    | succ n ih =>
      obtain ⟨u, hu⟩ := ih.sound.exists_stop
      rw [advances, hu]
      exact ih.of_stop hu
  exact (hover n).sound.advance rfl

variable [FiniteSource σ]

/-- A source that was lent out has yielded the items `pulled`, has been asked once more if `stopped`
says so, and still has the rest of its items. -/
structure Source.Leaves (s : σ) (pulled : List α) (stopped : Bool) (r : Recorded σ) : Prop where
  log : ∃ e, r.log = pulled.map .item ++ if stopped then [.stop e] else []
  rest : pulled ++ (drain r.inner).1 = (drain s).1

variable {s : σ} {pulled : List α} {stopped : Bool} {r : Recorded σ}

theorem Source.StaysStopped.leaves (hs : StaysStopped s)
    (h : Pulls ({ inner := s } : Recorded σ) pulled stopped r) : Leaves s pulled stopped r := by
  cases stopped with
  | false =>
    have hr := pulls_false_iff.1 h
    have hi : Reads s pulled r.inner := Recorded.passes_inner.reads hr
    obtain ⟨xs, t, hd⟩ := exists_drains r.inner
    refine ⟨⟨none, by simpa using Recorded.log_of_reads hr⟩, ?_⟩
    rw [drain_of_drains hd, drain_of_drains (hi.drains hd)]
  | true =>
    have hr := pulls_true_iff.1 h
    have hi : Drains s pulled r.inner := Recorded.passes_inner.drains hr
    have hstop : advance r.inner = (false, (advance r.inner).2) :=
      Prod.ext (hs pulled r.inner hi 0) rfl
    refine ⟨⟨_, by simpa using Recorded.log_of_drains hr⟩, ?_⟩
    rw [drain_of_drains (.stop hstop), drain_of_drains hi, List.append_nil]

theorem Source.Leaves.length_log (h : Leaves s pulled stopped r) :
    r.log.length = pulled.length + stopped.toNat := by
  obtain ⟨e, he⟩ := h.log
  rw [he]
  cases stopped <;> simp

variable {κ : Type w} {β : Type x} {fate : Callback α κ (Fate β)} {memory : κ} {bs : List β}
  {ended : Bool}

theorem Sieve.leaves (hs : StaysStopped s) {τ : Type y} [Source τ β]
    (sieve : Sieve τ fate (Recorded σ)) {o o' : τ} (hi : sieve.inner o = { inner := s })
    (hr : sieve.isReady o) (h : Pulls o bs ended o') :
    ∃ pulled stopped, Leaves s pulled stopped (sieve.inner o') ∧
      Fate.Sifted (fate.mapList (sieve.memory o) pulled) stopped bs ended := by
  obtain ⟨pulled, stopped, hp, hf⟩ := sieve.pulls_inner hr h
  rw [hi] at hp
  exact ⟨pulled, stopped, hs.leaves hp, hf⟩

/-- An operator that drops nothing has advanced the source as often as it was advanced itself. -/
theorem Source.Leaves.length_log_eq (h : Leaves s pulled stopped r)
    (hf : Fate.Sifted (fate.mapList memory pulled) stopped bs ended)
    (hd : ∀ a memory, (fate a memory).1 ≠ .dropped) :
    r.log.length = bs.length + ended.toNat := by
  rw [h.length_log, ← hf.length_eq (fate.notMem_mapList hd memory pulled),
    Callback.length_mapList]

end Lent

/-- `s` is lent to an operator, which is advanced some times, to its end if `ended`, and let go.
Operators that make something of each item have then advanced `s` as often as they were advanced,
filters up to the last item that they kept, batches past the items that they delivered, and groups
past one item more if that began a new run. An operator at its end has come to that of `s`, or to a
failure of its own. -/
theorem borrowed_operators_leave_rest {σ : Type u} {α : Type v} [Source σ α] [FiniteSource σ]
    {s : σ} (hs : StaysStopped s) :
    let lent : Recorded σ := { inner := s }
    (∀ {κ : Type w} {β : Type x} [Inhabited β] (f : Callback α κ β) (memory : κ) {bs ended g},
      Pulls ({ inner := lent, memory } : Map (Recorded σ) f) bs ended g →
      ∃ pulled, Leaves s pulled ended g.inner ∧
        Fate.Sifted (f.keeps.mapList memory pulled) ended bs ended ∧
        g.inner.log.length = bs.length + ended.toNat) ∧
    (∀ {κ : Type w} {β : Type x} [Inhabited β] (f : Callback α κ (Except Report β)) (memory : κ)
      {bs ended g}, Pulls ({ inner := lent, memory } : TryMap (Recorded σ) f) bs ended g →
      ∃ pulled stopped, Leaves s pulled stopped g.inner ∧
        Fate.Sifted (f.tries.mapList memory pulled) stopped bs ended ∧
        g.inner.log.length = bs.length + ended.toNat) ∧
    (∀ {κ : Type w} [Inhabited α] (p : Callback α κ Bool) (memory : κ) {bs ended g},
      Pulls ({ inner := lent, memory } : Filter (Recorded σ) p) bs ended g →
      ∃ pulled, Leaves s pulled ended g.inner ∧
        Fate.Sifted (p.selects.mapList memory pulled) ended bs ended) ∧
    (∀ {κ : Type w} {β : Type x} [Inhabited β] (f : Callback α κ (Option β)) (memory : κ)
      {bs ended g}, Pulls ({ inner := lent, memory } : FilterMap (Recorded σ) f) bs ended g →
      ∃ pulled, Leaves s pulled ended g.inner ∧
        Fate.Sifted (f.chooses.mapList memory pulled) ended bs ended) ∧
    (∀ (size : Nat) {batches ended g},
      Pulls ({ inner := lent } : Batch (Recorded σ) size) batches ended g →
      ∃ stopped, Leaves s batches.flatten stopped g.inner ∧ (ended = true → stopped = true)) ∧
    ∀ {κ : Type w} {ξ : Type x} [BEq ξ] (key : Callback α κ ξ) (memory : κ) {groups ended g},
      Pulls ({ inner := lent, memory } : Group (Recorded σ) key) groups ended g →
      (ended = false → groups ≠ []) →
      ∃ parts, groups = parts.map (·.map Prod.snd) ∧
        Leaves s (groups.flatten ++ g.pending.toList.map Prod.snd) g.pending.isNone g.inner ∧
        Group.IsRuns
          (key.keyed.mapList memory (groups.flatten ++ g.pending.toList.map Prod.snd))
          (parts ++ g.pending.toList.map ([·])) ∧
        (ended = true → g.pending = none) := by
  intro lent
  refine ⟨?map, ?tryMap, ?filter, ?filterMap, ?batch, ?group⟩
  case map =>
    intro κ β _ f memory bs ended g h
    obtain ⟨pulled, stopped, hl, hf⟩ := (Map.sieve f).leaves hs rfl trivial h
    have hne : .failed ∉ f.keeps.mapList memory pulled :=
      f.keeps.notMem_mapList f.keeps_ne_failed memory pulled
    obtain rfl := hf.stopped_eq hne
    exact ⟨pulled, hl, hf, hl.length_log_eq hf f.keeps_ne_dropped⟩
  case tryMap =>
    intro κ β _ f memory bs ended g h
    obtain ⟨pulled, stopped, hl, hf⟩ :=
      (TryMap.sieve f).leaves (o := { inner := lent, memory }) hs rfl rfl h
    exact ⟨pulled, stopped, hl, hf, hl.length_log_eq hf fun _ _ => Fate.ofResult_ne_dropped _⟩
  case filter =>
    intro κ _ p memory bs ended g h
    obtain ⟨pulled, stopped, hl, hf⟩ := (Filter.sieve p).leaves hs rfl trivial h
    have hne : .failed ∉ p.selects.mapList memory pulled :=
      p.selects.notMem_mapList (fun a _ => Fate.ofTest_ne_failed a _) memory pulled
    obtain rfl := hf.stopped_eq hne
    exact ⟨pulled, hl, hf⟩
  case filterMap =>
    intro κ β _ f memory bs ended g h
    obtain ⟨pulled, stopped, hl, hf⟩ := (FilterMap.sieve f).leaves hs rfl trivial h
    have hne : .failed ∉ f.chooses.mapList memory pulled :=
      f.chooses.notMem_mapList (fun _ _ => Fate.ofOption_ne_failed _) memory pulled
    obtain rfl := hf.stopped_eq hne
    exact ⟨pulled, hl, hf⟩
  case batch =>
    intro size batches ended g h
    obtain ⟨hp, hover⟩ := Batch.pulls_inner rfl h
    refine ⟨_, hs.leaves hp, fun hend => ?_⟩
    rw [hover hend]
    rfl
  case group =>
    intro κ ξ _ key memory groups ended g h hne
    obtain ⟨parts, pulled, rfl, ha, hover⟩ := Group.account_of_pulls h hne
    rw [← ha.pulled_eq]
    exact ⟨parts, rfl, hs.leaves ha.pulls, ha.runs, hover⟩

/-- The first run of odd numbers ends with an even one, which has been pulled and is not there for
whoever reads on. -/
theorem borrowed_operators_leave_rest_list :
    let parity : Callback Nat Unit Nat := fun a memory => (a % 2, memory)
    let s := ListSource.ofList [1, 3, 4, 5]
    let start : Group (Recorded (ListSource Nat)) parity :=
      { inner := { inner := s }, memory := () }
    StaysStopped s ∧ ∃ g, Pulls start [[1, 3]] false g ∧ Leaves s [1, 3, 4] false g.inner := by
  intro parity s start
  have hs : StaysStopped s := (ListSource.orderly [1, 3, 4, 5] .ended).staysStopped
  let first : Recorded (ListSource Nat) := ⟨{ items := [3, 4, 5], slot := some 1 }, [.item 1]⟩
  let second : Recorded (ListSource Nat) := ⟨{ items := [4, 5], slot := some 3 }, [1, 3].map .item⟩
  let left : Recorded (ListSource Nat) := ⟨{ items := [5], slot := some 4 }, [1, 3, 4].map .item⟩
  have hsame : Group.visit parity 1 ([1], ()) second = .ok ([3, 1], ()) := by
    simp [Group.visit, parity, second, current]
  have hother : Group.visit parity 1 ([3, 1], ()) left = .error ([3, 1], (), 0, 4) := by
    simp [Group.visit, parity, left, current]
  have hsweep : SweepsTo (Group.visit parity 1) ([1], ()) first
      (.error ([3, 1], (), 0, 4), left) := .pass rfl hsame (.halt rfl hother)
  let g : Group (Recorded (ListSource Nat)) parity :=
    { inner := left, memory := (), pending := some (0, 4), slot := some [1, 3] }
  have hg : Group.gather 1 1 { inner := first, memory := () } = g := by
    simp only [Group.gather, hsweep.sweep_eq]
    rfl
  have ha : advance start = (true, g) := hg ▸ Group.advance_of_item (t := first) rfl rfl rfl
  have h : Pulls start [[1, 3]] false g := .item ha (.nil g)
  obtain ⟨-, -, -, -, -, hgroup⟩ := borrowed_operators_leave_rest.{0, 0, 0, 0} hs
  obtain ⟨parts, -, hl, -⟩ := hgroup parity () h fun _ => List.cons_ne_nil _ _
  exact ⟨hs, g, h, hl⟩

end PullStreams
