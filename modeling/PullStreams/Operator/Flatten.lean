import PullStreams.Operator.Batch
import PullStreams.Operator.Group

namespace PullStreams

/-- No state of `σ` yields empty lists for ever. -/
class NonemptyAtLast (σ : Type u) {α : outParam (Type v)} [Source σ (List α)] : Prop where
  wf : WellFounded fun t s : σ => Source.After t s ∧ Source.current t = []

instance {σ : Type u} {α : Type v} [Source σ (List α)] [FiniteSource σ] : NonemptyAtLast σ where
  wf := Subrelation.wf And.left FiniteSource.wf

/-- The lists ahead of a source that is not empty for ever, as a measure. -/
structure EmptyAhead (σ : Type u) where
  state : σ

instance {σ : Type u} {α : Type v} [Source σ (List α)] [NonemptyAtLast σ] :
    WellFoundedRelation (EmptyAhead σ) :=
  invImage EmptyAhead.state ⟨_, NonemptyAtLast.wf⟩

structure Flatten (σ : Type u) (α : Type v) where
  inner : σ
  pending : List α := []
  slot : Option α := none

namespace Flatten

def pull {σ : Type u} {α : Type v} [Source σ (List α)] [NonemptyAtLast σ] (s : σ) :
    Option (α × List α) × σ :=
  match _h : Source.advance s with
  | (false, t) => (none, t)
  | (true, t) =>
    match _hc : Source.current t with
    | [] => pull t
    | a :: rest => (some (a, rest), t)
termination_by EmptyAhead.mk s
decreasing_by exact ⟨_h, _hc⟩

variable {σ : Type u} {α : Type v} [Source σ (List α)]

def advance [NonemptyAtLast σ] (s : Flatten σ α) : Bool × Flatten σ α :=
  match s.pending with
  | a :: rest => (true, { s with pending := rest, slot := some a })
  | [] =>
    match pull s.inner with
    | (some (a, rest), inner) => (true, { inner, pending := rest, slot := some a })
    | (none, inner) => (false, { inner })

instance [NonemptyAtLast σ] [Inhabited α] : Source (Flatten σ α) α where
  advance := advance
  current s := s.slot.getD default
  error s := Source.error s.inner
  close s := (Source.close s.inner).map id ({ inner := · })

theorem after_of_pull [NonemptyAtLast σ] {s t : σ} {next : α × List α}
    (h : pull s = (some next, t)) : Relation.TransGen Source.After t s := by
  fun_induction pull s with
  | case1 => simp at h
  | case2 s u hu hc ih => exact (ih h).tail hu
  | case3 s u hu a rest hc =>
    simp at h
    exact h.2 ▸ .single hu

instance [FiniteSource σ] [Inhabited α] : FiniteSource (Flatten σ α) :=
  .of_wellFounded
    (InvImage.wf (fun s : Flatten σ α => (s.inner, s.pending.length))
      (Prod.lex ⟨_, (FiniteSource.wf (σ := σ)).transGen⟩ Nat.lt_wfRel).wf)
    fun t s h => by
      change s.advance = (true, t) at h
      unfold advance at h
      split at h
      · rename_i a rest hp
        simp only [Prod.mk.injEq, true_and] at h
        subst h
        exact .right _ (show rest.length < s.pending.length by simp [hp])
      · split at h
        · rename_i hi
          simp only [Prod.mk.injEq, true_and] at h
          subst h
          exact .left _ _ (after_of_pull hi)
        · simp at h

end Flatten

/-- A batch that is delivered is not empty, so one is found behind an endless source too. -/
instance {σ : Type u} {α : Type v} [Source σ α] {size : Nat} : NonemptyAtLast (Batch σ size) where
  wf := ⟨fun s => ⟨_, fun t ⟨h, hc⟩ => by
    change s.advance = (true, t) at h
    change t.slot.getD [] = [] at hc
    unfold Batch.advance at h
    split at h
    · split at h
      · simp at h
      · simp only [Prod.mk.injEq, true_and] at h
        subst h
        simp_all
    · simp at h⟩⟩

end PullStreams
