import PullStreams.Source

namespace PullStreams

/-- A source as an iterator. The source is closed once: when it stops, or when the iterator is let
go before that. -/
structure Items (σ : Type u) where
  source : σ
  isDone : Bool := false
  closeFailure : Option StreamFault := none

namespace Items
variable {σ : Type u} {α : Type v} [Source σ α]

def ofSource (source : σ) : Items σ := { source }

def finish (i : Items σ) : Items σ :=
  if i.isDone then i
  else
    match Source.close i.source with
    | (.ok (), source) => { i with source, isDone := true }
    | (.error e, source) => { source, isDone := true, closeFailure := some e }

/-- A failure of the source comes once, after its last item. -/
def next (i : Items σ) : Option (Except StreamFault α) × Items σ :=
  if i.isDone then (none, i)
  else
    match Source.advance i.source with
    | (true, source) => (some (.ok (Source.current source)), { i with source })
    | (false, source) =>
      ((failure? (Source.error source)).map .error, finish { i with source })

theorem isDone_finish (i : Items σ) : i.finish.isDone = true := by
  unfold finish
  split
  · assumption
  · split <;> rfl

theorem next_eq_some {i j : Items σ} {x : Except StreamFault α} (h : i.next = (some x, j)) :
    i.isDone = false ∧
      (j.isDone = true ∨ j.isDone = false ∧ Source.After j.source i.source) := by
  unfold next at h
  split at h
  · simp at h
  · rename_i hd
    have hd : i.isDone = false := by simpa using hd
    refine ⟨hd, ?_⟩
    split at h
    · rename_i source ha
      simp only [Prod.mk.injEq] at h
      exact .inr ⟨h.2 ▸ hd, h.2 ▸ ha⟩
    · simp only [Prod.mk.injEq] at h
      exact .inl (h.2 ▸ isDone_finish _)

def toList {σ : Type u} {α : Type v} [Source σ α] [FiniteSource σ] (i : Items σ) :
    List (Except StreamFault α) × Items σ :=
  match _h : i.next with
  | (none, j) => ([], j)
  | (some x, j) =>
    let (rest, j) := toList j
    (x :: rest, j)
termination_by (if i.isDone then 0 else 1, Source.Ahead.mk i.source)
decreasing_by
  obtain ⟨hi, hj | ⟨hj, ha⟩⟩ := next_eq_some _h
  · rw [hi, hj]
    exact .left _ _ (by simp)
  · rw [hi, hj]
    exact .right _ ha

theorem after_of_next {i j : Items σ} {a : α} (h : i.next = (some (.ok a), j)) :
    Source.After j.source i.source := by
  unfold next at h
  split at h
  · simp at h
  · split at h
    · rename_i source ha
      simp only [Prod.mk.injEq] at h
      exact h.2 ▸ ha
    · simp at h

/-- The items that the iterator still has to give, or the first failure. Nothing is asked of it
after that. -/
def collect (i : Items σ) [h : Source.Ends i.source] : Except StreamFault (List α) × Items σ :=
  match hn : i.next with
  | (none, j) => (.ok [], j)
  | (some (.error e), j) => (.error e, j)
  | (some (.ok a), j) =>
    haveI : Source.Ends j.source := ⟨h.acc.inv (after_of_next hn)⟩
    let (items, j) := collect j
    (items.map (a :: ·), j)
termination_by (⟨i.source, h.acc⟩ : { s // Acc Source.After s })
decreasing_by exact after_of_next hn

end Items
end PullStreams
