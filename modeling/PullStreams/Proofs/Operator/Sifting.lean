import PullStreams.Proofs.Lists
import PullStreams.Proofs.Operator.Elementwise

namespace PullStreams

inductive Fate (β : Type u) where
  | kept (b : β)
  | dropped
  | failed

namespace Fate
variable {β : Type u}

def kept? : Fate β → Option β
  | kept b => some b
  | dropped => none
  | failed => none

def ofResult : Except Report β → Fate β
  | .ok b => kept b
  | .error _ => failed

def ofTest (b : β) : Bool → Fate β
  | true => kept b
  | false => dropped

def ofOption : Option β → Fate β
  | some b => kept b
  | none => dropped

theorem ofResult_ne_dropped (result : Except Report β) : ofResult result ≠ dropped := by
  cases result <;> simp [ofResult]

theorem ofTest_ne_failed (b : β) (holds : Bool) : ofTest b holds ≠ failed := by
  cases holds <;> simp [ofTest]

theorem ofOption_ne_failed (result : Option β) : ofOption result ≠ failed := by
  cases result <;> simp [ofOption]

/-- Items with these fates, and then a stop if `stopped`, make up the results, and then the end if
`ended`. While there is no end the last item is one that was kept, and a failure is the end. -/
inductive Sifted : List (Fate β) → Bool → List β → Bool → Prop
  | running {fates : List (Fate β)} (hf : .failed ∉ fates)
    (hl : ∀ fate ∈ fates.getLast?, ∃ b, fate = .kept b) :
    Sifted fates false (fates.filterMap kept?) false
  | stopped {fates : List (Fate β)} (hf : .failed ∉ fates) :
    Sifted fates true (fates.filterMap kept?) true
  | failed {fates : List (Fate β)} (hf : .failed ∉ fates) :
    Sifted (fates ++ [.failed]) false (fates.filterMap kept?) true

namespace Sifted
variable {fates missed : List (Fate β)} {stopped ended : Bool} {bs : List β}

theorem filterMap_of_dropped (hm : ∀ fate ∈ missed, fate = .dropped) :
    missed.filterMap kept? = [] := by
  rw [List.filterMap_eq_nil_iff]
  intro fate h
  rw [hm fate h]
  rfl

theorem failed_notMem_of_dropped (hm : ∀ fate ∈ missed, fate = .dropped) : .failed ∉ missed :=
  fun h => nomatch hm _ h

/-- No result comes of items that are all dropped. -/
theorem of_dropped (hm : ∀ fate ∈ missed, fate = .dropped) : Sifted missed true [] true := by
  rw [← filterMap_of_dropped hm]
  exact .stopped (failed_notMem_of_dropped hm)

/-- A result comes of an item, after the ones before it that are dropped. -/
theorem kept_cons (hm : ∀ fate ∈ missed, fate = .dropped) (b : β)
    (h : Sifted fates stopped bs ended) :
    Sifted (missed ++ .kept b :: fates) stopped (b :: bs) ended := by
  have hkept (fates : List (Fate β)) :
      b :: fates.filterMap kept? = (missed ++ .kept b :: fates).filterMap kept? := by
    rw [List.filterMap_append, filterMap_of_dropped hm]
    rfl
  have hfailed {fates : List (Fate β)} (hf : .failed ∉ fates) :
      .failed ∉ missed ++ .kept b :: fates := by
    simp [failed_notMem_of_dropped hm, hf]
  cases h with
  | running hf hl =>
    rw [hkept]
    refine .running (hfailed hf) fun fate h => ?_
    rw [List.getLast?_append, List.getLast?_cons] at h
    cases hlast : fates.getLast? with
    | none => exact ⟨b, by simpa [hlast, eq_comm] using h⟩
    | some last =>
      obtain rfl : last = fate := by simpa [hlast] using h
      exact hl last hlast
  | stopped hf =>
    rw [hkept]
    exact .stopped (hfailed hf)
  | @failed fates hf =>
    rw [hkept, ← List.cons_append, ← List.append_assoc]
    exact .failed (hfailed hf)

/-- Where nothing is dropped, each result and the end cost one advance. -/
theorem length_eq (h : Sifted fates stopped bs ended) (hd : .dropped ∉ fates) :
    fates.length + stopped.toNat = bs.length + ended.toNat := by
  have hkept {fates : List (Fate β)} (hd : .dropped ∉ fates) (hf : .failed ∉ fates) :
      (fates.filterMap kept?).length = fates.length := by
    rw [List.filterMap_length_eq_length]
    intro fate h
    cases fate with
    | kept => rfl
    | dropped => exact absurd h hd
    | failed => exact absurd h hf
  cases h with
  | running hf => rw [hkept hd hf]
  | stopped hf => rw [hkept hd hf]
  | failed hf =>
    rw [hkept (fun h => hd (List.mem_append_left _ h)) hf, List.length_append]
    rfl

/-- Where nothing fails, the end is that of the source within. -/
theorem stopped_eq (h : Sifted fates stopped bs ended) (hf : .failed ∉ fates) :
    stopped = ended := by
  cases h with
  | running => rfl
  | stopped => rfl
  | failed => simp at hf

end Sifted
end Fate

namespace Callback
variable {α : Type u} {κ : Type v} {β : Type w}

def keeps (f : Callback α κ β) : Callback α κ (Fate β) :=
  fun a memory => (f a memory).map .kept id

def tries (f : Callback α κ (Except Report β)) : Callback α κ (Fate β) :=
  fun a memory => (f a memory).map .ofResult id

def selects (p : Callback α κ Bool) : Callback α κ (Fate α) :=
  fun a memory => (p a memory).map (.ofTest a) id

def chooses (f : Callback α κ (Option β)) : Callback α κ (Fate β) :=
  fun a memory => (f a memory).map .ofOption id

theorem keeps_ne_failed (f : Callback α κ β) (a : α) (memory : κ) :
    (f.keeps a memory).1 ≠ .failed := nofun

theorem keeps_ne_dropped (f : Callback α κ β) (a : α) (memory : κ) :
    (f.keeps a memory).1 ≠ .dropped := nofun

/-- What holds of the fate of every item holds along a list. -/
theorem notMem_mapList (f : Callback α κ (Fate β)) {fate : Fate β}
    (h : ∀ a memory, (f a memory).1 ≠ fate) (memory : κ) (xs : List α) :
    fate ∉ f.mapList memory xs := by
  induction xs generalizing memory with
  | nil => exact List.not_mem_nil
  | cons a xs ih =>
    rw [mapList, List.mem_cons, not_or]
    exact ⟨(h a memory).symm, ih _⟩

end Callback

open Source

section Sieves
variable {σ : Type u} {α : Type v} {κ : Type w} {β : Type x} {τ : Type y} [Source σ α] [Source τ β]

/-- One advance of an operator, by the fates of the items that it takes from the source within. -/
inductive SiftStep (fate : Callback α κ (Fate β)) (inner : τ → σ) (memory : τ → κ)
    (isReady : τ → Prop) (o : τ) : Bool × τ → Prop
  | kept {xs : List α} {o' : τ} (h : Reads (inner o) (xs ++ [current (inner o')]) (inner o'))
    (hx : ∀ x ∈ fate.mapList (memory o) xs, x = .dropped)
    (hf : fate (current (inner o')) (fate.after (memory o) xs) = (.kept (current o'), memory o'))
    (hr : isReady o') : SiftStep fate inner memory isReady o (true, o')
  | failed {o' : τ} (h : advance (inner o) = (true, inner o'))
    (hf : (fate (current (inner o')) (memory o)).1 = .failed) :
    SiftStep fate inner memory isReady o (false, o')
  | stopped {xs : List α} {o' : τ} (h : Drains (inner o) xs (inner o'))
    (hx : ∀ x ∈ fate.mapList (memory o) xs, x = .dropped) :
    SiftStep fate inner memory isReady o (false, o')

namespace SiftStep
variable {fate : Callback α κ (Fate β)} {inner : τ → σ} {memory : τ → κ} {isReady : τ → Prop}
  {o o' : τ}

/-- The first item is kept. -/
theorem of_kept (h : advance (inner o) = (true, inner o'))
    (hf : fate (current (inner o')) (memory o) = (.kept (current o'), memory o'))
    (hr : isReady o') : SiftStep fate inner memory isReady o (true, o') :=
  @SiftStep.kept _ _ _ _ _ _ _ fate inner memory isReady o [] o' (.single h) (List.forall_mem_nil _)
    hf hr

theorem of_stop (h : advance (inner o) = (false, inner o')) :
    SiftStep fate inner memory isReady o (false, o') :=
  .stopped (.stop h) (List.forall_mem_nil _)

end SiftStep

/-- An operator that makes `fate` of each item, as long as it is ready. -/
structure Sieve (τ : Type y) [Source τ β] (fate : Callback α κ (Fate β)) (σ : Type u) [Source σ α]
    where
  inner : τ → σ
  memory : τ → κ
  isReady : τ → Prop
  step (o : τ) : isReady o → SiftStep fate inner memory isReady o (advance o)

theorem Sieve.pulls_inner {fate : Callback α κ (Fate β)} (sieve : Sieve τ fate σ) {o o' : τ}
    (hr : sieve.isReady o) {bs : List β} {ended : Bool} (h : Pulls o bs ended o') :
    ∃ pulled stopped, Pulls (sieve.inner o) pulled stopped (sieve.inner o') ∧
      Fate.Sifted (fate.mapList (sieve.memory o) pulled) stopped bs ended := by
  induction h with
  | nil o => exact ⟨[], false, .nil _, .running nofun nofun⟩
  | @stop o o' ha =>
    have hstep := sieve.step o hr
    rw [ha] at hstep
    cases hstep with
    | failed h hf =>
      refine ⟨_, false, pulls_false_iff.2 (.single h), ?_⟩
      rw [Callback.mapList, hf]
      exact @Fate.Sifted.failed _ [] List.not_mem_nil
    | stopped h hx => exact ⟨_, true, pulls_true_iff.2 h, .of_dropped hx⟩
  | @item o c o' bs ended ha rest ih =>
    have hstep := sieve.step o hr
    rw [ha] at hstep
    cases hstep with
    | kept h hx hf hc =>
      obtain ⟨pulled, stopped, hp, hs⟩ := ih hc
      refine ⟨_, stopped, h.pulls hp, ?_⟩
      rw [List.append_assoc, Callback.mapList_append, List.singleton_append, Callback.mapList, hf]
      exact hs.kept_cons hx _

/-- A sweep whose visitor passes the items that are dropped, and no others. -/
theorem Source.SweepsTo.dropped {ε : Type z} {fate : Callback α κ (Fate β)}
    {visit : κ → σ → Except ε κ}
    (hpass : ∀ memory memory' t, visit memory t = .ok memory' →
      fate (current t) memory = (.dropped, memory'))
    {memory : κ} {s : σ} {answer : Except ε κ × σ} (h : SweepsTo visit memory s answer) :
    ∃ xs, (∀ x ∈ fate.mapList memory xs, x = .dropped) ∧
      match answer with
      | (.ok _, t) => Drains s xs t
      | (.error e, t) =>
        Reads s (xs ++ [current t]) t ∧ visit (fate.after memory xs) t = .error e := by
  induction h with
  | stop ha => exact ⟨[], List.forall_mem_nil _, .stop ha⟩
  | halt ha hv => exact ⟨[], List.forall_mem_nil _, .single ha, hv⟩
  | @pass memory memory' s t answer ha hv rest ih =>
    obtain ⟨xs, hx, h⟩ := ih
    have hf := hpass _ _ _ hv
    refine ⟨current t :: xs, ?_, ?_⟩
    · rw [Callback.mapList, hf]
      simpa using hx
    · rw [Callback.after_cons, hf]
      obtain ⟨e | memory, u⟩ := answer
      · exact ⟨.cons ha h.1, h.2⟩
      · exact .item ha h

end Sieves

namespace Map
variable {σ : Type u} {α : Type v} {κ : Type w} {β : Type x} [Source σ α] [Inhabited β]

def sieve (f : Callback α κ β) : Sieve (Map σ f) f.keeps σ where
  inner := inner
  memory := memory
  isReady _ := True
  step o _ := by
    show SiftStep _ _ _ _ o o.advance
    rcases h : Source.advance o.inner with ⟨_ | _, t⟩
    · rw [advance_of_stop h]
      exact .of_stop h
    · rw [advance_of_item h]
      exact .of_kept h rfl trivial

end Map

namespace TryMap
variable {σ : Type u} {α : Type v} {κ : Type w} {β : Type x} [Source σ α] [Inhabited β]

def sieve (f : Callback α κ (Except Report β)) : Sieve (TryMap σ f) f.tries σ where
  inner := inner
  memory := memory
  isReady o := o.stopped = none
  step o hr := by
    show SiftStep _ _ _ _ o o.advance
    rcases h : Source.advance o.inner with ⟨_ | _, t⟩
    · rw [advance_of_stop hr h]
      exact .of_stop h
    · rcases hf : f (current t) o.memory with ⟨e | b, memory⟩
      · rw [advance_of_error hr h hf]
        refine .failed h ?_
        simp [Callback.tries, Fate.ofResult, hf]
      · rw [advance_of_ok hr h hf]
        refine .of_kept h ?_ rfl
        simp [Callback.tries, Fate.ofResult, hf, Source.current]

end TryMap

namespace Filter
variable {σ : Type u} {α : Type v} {κ : Type w} [Source σ α]

theorem selects_of_visit_ok {p : Callback α κ Bool} {memory memory' : κ} {t : σ}
    (h : visit p memory t = .ok memory') :
    p.selects (current t) memory = (.dropped, memory') := by
  rcases hp : p (current t) memory with ⟨_ | _, memory₁⟩
  · simp only [visit, hp, Bool.false_eq_true, if_false, Except.ok.injEq] at h
    simp [Callback.selects, Fate.ofTest, hp, h]
  · simp [visit, hp] at h

theorem selects_of_visit_error {p : Callback α κ Bool} {memory memory' : κ} {t : σ}
    (h : visit p memory t = .error memory') :
    p.selects (current t) memory = (.kept (current t), memory') := by
  rcases hp : p (current t) memory with ⟨_ | _, memory₁⟩
  · simp [visit, hp] at h
  · simp only [visit, hp, if_true, Except.error.injEq] at h
    simp [Callback.selects, Fate.ofTest, hp, h]

def sieve [Inhabited α] (p : Callback α κ Bool) [SweepsEnd σ (visit p)] :
    Sieve (Filter σ p) p.selects σ where
  inner := inner
  memory := memory
  isReady _ := True
  step o _ := by
    show SiftStep _ _ _ _ o o.advance
    have h : SweepsTo (visit p) o.memory o.inner _ := sweepsTo_sweep
    unfold advance
    generalize sweep (visit p) o.memory o.inner = answer at h ⊢
    obtain ⟨xs, hx, h⟩ := h.dropped fun _ _ _ => selects_of_visit_ok
    rcases answer with ⟨memory | memory, t⟩
    · exact .kept h.1 hx (selects_of_visit_error h.2) trivial
    · exact .stopped h hx

end Filter

namespace FilterMap
variable {σ : Type u} {α : Type v} {κ : Type w} {β : Type x} [Source σ α]

theorem chooses_of_visit_ok {f : Callback α κ (Option β)} {memory memory' : κ} {t : σ}
    (h : visit f memory t = .ok memory') :
    f.chooses (current t) memory = (.dropped, memory') := by
  rcases hf : f (current t) memory with ⟨_ | b, memory₁⟩
  · simp only [visit, hf, Except.ok.injEq] at h
    simp [Callback.chooses, Fate.ofOption, hf, h]
  · simp [visit, hf] at h

theorem chooses_of_visit_error {f : Callback α κ (Option β)} {memory memory' : κ} {t : σ} {b : β}
    (h : visit f memory t = .error (b, memory')) :
    f.chooses (current t) memory = (.kept b, memory') := by
  rcases hf : f (current t) memory with ⟨_ | b₁, memory₁⟩
  · simp [visit, hf] at h
  · simp only [visit, hf, Except.error.injEq, Prod.mk.injEq] at h
    simp [Callback.chooses, Fate.ofOption, hf, h]

def sieve [Inhabited β] (f : Callback α κ (Option β)) [SweepsEnd σ (visit f)] :
    Sieve (FilterMap σ f) f.chooses σ where
  inner := inner
  memory := memory
  isReady _ := True
  step o _ := by
    show SiftStep _ _ _ _ o o.advance
    have h : SweepsTo (visit f) o.memory o.inner _ := sweepsTo_sweep
    unfold advance
    generalize sweep (visit f) o.memory o.inner = answer at h ⊢
    obtain ⟨xs, hx, h⟩ := h.dropped fun _ _ _ => chooses_of_visit_ok
    rcases answer with ⟨⟨b, memory⟩ | memory, t⟩
    · exact .kept h.1 hx (chooses_of_visit_error h.2) trivial
    · exact .stopped h hx

end FilterMap
end PullStreams
