import PullStreams.Fault

namespace PullStreams

/-- `advance` moves to the next item or stops; `current` and `error` only look. An item is current
until the next `advance` or `close`, and `default` stands for none. -/
class Source (σ : Type u) (α : outParam (Type v)) where
  advance : σ → Bool × σ
  current : σ → α
  error : σ → Option StreamFault
  close : σ → Except StreamFault Unit × σ

namespace Source

section Ends
variable {σ : Type u} {α : outParam (Type v)} [Source σ α]

def After (t s : σ) : Prop :=
  advance s = (true, t)

theorem After.unique {s t u : σ} (h : After t s) (h' : After u s) : t = u :=
  (Prod.mk.inj (h.symm.trans h')).2

class Ends (s : σ) : Prop where
  acc : Acc After s

end Ends
end Source

class FiniteSource (σ : Type u) {α : outParam (Type v)} [Source σ α] : Prop where
  wf : WellFounded fun t s : σ => Source.After t s

namespace Source

instance {σ : Type u} {α : Type v} [Source σ α] [FiniteSource σ] (s : σ) : Ends s where
  acc := FiniteSource.wf.apply s

structure Ahead (σ : Type u) where
  state : σ

instance {σ : Type u} {α : Type v} [Source σ α] [FiniteSource σ] : WellFoundedRelation (Ahead σ) :=
  invImage Ahead.state ⟨_, FiniteSource.wf⟩

section Sweep
variable {σ : Type u} {α : Type v} [Source σ α] {β : Type w} {ε : Type x}
  {visit : β → σ → Except ε β} {tally tally' : β} {s t : σ}

/-- A sweep that has come to `p`, what the visitor made of the last item and the source at it, comes
to `q` next. -/
def GoesOn (visit : β → σ → Except ε β) (q p : Except ε β × σ) : Prop :=
  ∃ tally, p.1 = .ok tally ∧ After q.2 p.2 ∧ q.1 = visit tally q.2

theorem eq_of_goesOn {q : Except ε β × σ} (ha : advance s = (true, t))
    (h : GoesOn visit q (.ok tally, s)) : q = (visit tally t, t) := by
  obtain ⟨tally', htally, hq, hr⟩ := h
  obtain rfl : tally = tally' := Except.ok.inj htally
  obtain rfl : t = q.2 := After.unique ha hq
  exact Prod.ext hr rfl

/-- The source stops or the visitor halts, sooner or later. -/
class SweepEnds (visit : β → σ → Except ε β) (tally : β) (s : σ) : Prop where
  acc : Acc (GoesOn visit) (.ok tally, s)

theorem acc_goesOn (r : Except ε β) (s : σ) [Ends s] : Acc (GoesOn visit) (r, s) :=
  Subrelation.accessible (fun ⟨_, _, h, _⟩ => h) (InvImage.accessible Prod.snd Ends.acc)

instance [Ends s] : SweepEnds visit tally s where
  acc := acc_goesOn (.ok tally) s

/-- Wherever a sweep of the visitor begins, the source stops or the visitor halts. -/
class SweepsEnd (σ : Type u) {α : Type v} [Source σ α] {β : Type w} {ε : Type x}
    (visit : β → σ → Except ε β) : Prop where
  ends (tally : β) (s : σ) : SweepEnds visit tally s

instance [SweepsEnd σ visit] : SweepEnds visit tally s := SweepsEnd.ends tally s

instance [FiniteSource σ] : SweepsEnd σ visit where
  ends _ _ := inferInstance

def resume (visit : β → σ → Except ε β) (p : Except ε β × σ) (h : Acc (GoesOn visit) p) :
    Except ε β × σ :=
  match p, h with
  | (.error e, s), _ => (.error e, s)
  | (.ok tally, s), h =>
    match ha : advance s with
    | (false, t) => (.ok tally, t)
    | (true, t) => resume visit (visit tally t, t) (h.inv ⟨tally, rfl, ha, rfl⟩)
termination_by (⟨p, h⟩ : { p // Acc (GoesOn visit) p })
decreasing_by exact ⟨tally, rfl, ha, rfl⟩

/-- Shows `visit` the source at each item: `.ok` is the tally when the source stopped, `.error` what
the visitor halted with. -/
def sweep (visit : β → σ → Except ε β) (tally : β) (s : σ) [h : SweepEnds visit tally s] :
    Except ε β × σ :=
  resume visit (.ok tally, s) h.acc

/-- A sweep comes to the answer: the source stops, the visitor halts, or it passes the item and the
sweep of what is left comes to the answer. -/
inductive SweepsTo (visit : β → σ → Except ε β) : β → σ → Except ε β × σ → Prop
  | stop {tally : β} {s t : σ} (ha : advance s = (false, t)) : SweepsTo visit tally s (.ok tally, t)
  | halt {tally : β} {s t : σ} {e : ε} (ha : advance s = (true, t))
    (hv : visit tally t = .error e) : SweepsTo visit tally s (.error e, t)
  | pass {tally tally' : β} {s t : σ} {answer : Except ε β × σ} (ha : advance s = (true, t))
    (hv : visit tally t = .ok tally') (rest : SweepsTo visit tally' t answer) :
    SweepsTo visit tally s answer

theorem resume_of_error {p : Except ε β × σ} (h : Acc (GoesOn visit) p) {e : ε}
    (hp : p.1 = .error e) : resume visit p h = p := by
  obtain ⟨r, s⟩ := p
  subst hp
  rw [resume]

theorem sweepsTo_resume {p : Except ε β × σ} (h : Acc (GoesOn visit) p) (hp : p.1 = .ok tally) :
    SweepsTo visit tally p.2 (resume visit p h) := by
  fun_induction resume visit p h generalizing tally with
  | case1 => cases hp
  | case2 tally s _ t ha =>
    obtain rfl := Except.ok.inj hp
    exact .stop ha
  | case3 tally s _ t ha _ ih =>
    obtain rfl := Except.ok.inj hp
    -- What the visitor answers is named and not replaced: that the sweep ends is said of it.
    obtain ⟨e, hv⟩ | ⟨tally', hv⟩ :
        (∃ e, visit tally t = .error e) ∨ ∃ tally', visit tally t = .ok tally' := by
      cases visit tally t <;> simp
    · rw [resume_of_error _ hv, hv]
      exact .halt ha hv
    · exact .pass ha hv (ih hv)

theorem sweepsTo_sweep [h : SweepEnds visit tally s] :
    SweepsTo visit tally s (sweep visit tally s) :=
  sweepsTo_resume h.acc rfl

theorem sweepsTo_of_eq [SweepEnds visit tally s] {answer : Except ε β × σ}
    (h : sweep visit tally s = answer) : SweepsTo visit tally s answer :=
  h ▸ sweepsTo_sweep

namespace SweepsTo
variable {answer answer' : Except ε β × σ}

theorem unique (h : SweepsTo visit tally s answer) (h' : SweepsTo visit tally s answer') :
    answer = answer' := by
  induction h with
  | stop ha => cases h' <;> simp_all
  | halt ha hv => cases h' <;> simp_all
  | pass ha hv _ ih =>
    apply ih
    cases h' with
    | stop ha' => simp [ha] at ha'
    | halt ha' hv' => simp_all
    | pass ha' hv' rest =>
      obtain rfl := After.unique ha ha'
      obtain rfl := Except.ok.inj (hv.symm.trans hv')
      exact rest

theorem sweep_eq [SweepEnds visit tally s] (h : SweepsTo visit tally s answer) :
    sweep visit tally s = answer :=
  sweepsTo_sweep.unique h

theorem ends (h : SweepsTo visit tally s answer) : SweepEnds visit tally s := by
  induction h with
  | stop ha =>
    refine ⟨.intro _ fun q ⟨_, _, hq, _⟩ => ?_⟩
    exact absurd (ha.symm.trans hq) (by simp)
  | @halt tally s t e ha hv =>
    refine ⟨.intro _ fun q hq => ?_⟩
    obtain rfl := eq_of_goesOn ha hq
    exact .intro _ fun q ⟨_, hq, _⟩ => by simp [hv] at hq
  | @pass tally _ s t _ ha hv _ ih =>
    refine ⟨.intro _ fun q hq => ?_⟩
    obtain rfl := eq_of_goesOn ha hq
    exact hv ▸ ih.acc

end SweepsTo

theorem sweep_of_stop [SweepEnds visit tally s] (h : advance s = (false, t)) :
    sweep visit tally s = (.ok tally, t) :=
  (SweepsTo.stop h).sweep_eq

theorem sweep_of_pass [SweepEnds visit tally s] [SweepEnds visit tally' t]
    (ha : advance s = (true, t)) (hv : visit tally t = .ok tally') :
    sweep visit tally s = sweep visit tally' t :=
  (SweepsTo.pass ha hv sweepsTo_sweep).sweep_eq

theorem sweep_of_item [SweepsEnd σ visit] (h : advance s = (true, t)) :
    sweep visit tally s =
      match visit tally t with
      | .error e => (.error e, t)
      | .ok tally => sweep visit tally t := by
  cases hv : visit tally t with
  | error e => exact (SweepsTo.halt h hv).sweep_eq
  | ok tally' => exact sweep_of_pass h hv

/-- A visitor that halts has seen an item. -/
theorem SweepsTo.after {e : ε} {answer : Except ε β × σ} (h : SweepsTo visit tally s answer)
    (he : answer.1 = .error e) : Relation.TransGen After answer.2 s := by
  induction h with
  | stop => cases he
  | halt ha => exact .single ha
  | pass ha _ _ ih => exact (ih he).tail ha

theorem after_of_sweep_eq_error [SweepEnds visit tally s] {e : ε}
    (h : sweep visit tally s = (.error e, t)) : Relation.TransGen After t s :=
  (sweepsTo_of_eq h).after rfl

end Sweep
end Source

namespace FiniteSource
variable {σ : Type u} {α : Type v} [Source σ α] {τ : Type w} {β : Type x} [Source τ β]

theorem of_wellFounded {r : τ → τ → Prop} (wf : WellFounded r)
    (h : ∀ t s : τ, Source.After t s → r t s) : FiniteSource τ :=
  ⟨Subrelation.wf (h _ _) wf⟩

theorem of_size (size : τ → Nat)
    (h : ∀ s t : τ, Source.advance s = (true, t) → size t < size s) : FiniteSource τ :=
  of_wellFounded (InvImage.wf size Nat.lt_wfRel.wf) fun t s => h s t

/-- A source is finite if each of its items takes one or more from a finite source within. -/
theorem of_inner [FiniteSource σ] (inner : τ → σ)
    (h : ∀ t s : τ, Source.After t s → Relation.TransGen Source.After (inner t) (inner s)) :
    FiniteSource τ :=
  of_wellFounded (InvImage.wf inner (wf (σ := σ)).transGen) h

/-- As `of_inner`, for a source that also passes through finitely many phases. -/
theorem of_phase [FiniteSource σ] (phase : τ → Nat) (inner : τ → σ)
    (h : ∀ t s : τ, Source.After t s → phase t < phase s ∨
      phase t = phase s ∧ Relation.TransGen Source.After (inner t) (inner s)) :
    FiniteSource τ :=
  of_wellFounded
    (InvImage.wf (fun t => (phase t, inner t)) (Prod.lex Nat.lt_wfRel ⟨_, wf.transGen⟩).wf)
    fun t s ht => (h t s ht).elim (.left _ _) fun ⟨he, hi⟩ => by
      change Prod.Lex _ _ (phase t, inner t) (phase s, inner s)
      rw [he]
      exact .right _ hi

end FiniteSource
end PullStreams
