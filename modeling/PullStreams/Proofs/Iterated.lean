import PullStreams.Double.Source
import PullStreams.Items
import PullStreams.Proofs.Run
import PullStreams.Proofs.Traced

namespace PullStreams.Items
open Source

section Next
variable {σ : Type u} {α : Type v} [Source σ α] {i j : Items σ} {s t : σ}

def nexts : Nat → Items σ → List (Option (Except StreamFault α)) × Items σ
  | 0, i => ([], i)
  | n + 1, i =>
    let (answers, i) := nexts n i
    let (answer, i) := next i
    (answers ++ [answer], i)

theorem finish_of_done (h : i.isDone = true) : i.finish = i := by
  rw [finish, if_pos h]

theorem next_of_done (h : i.isDone = true) : i.next = (none, i) := by
  rw [next, if_pos h]

theorem next_of_item (h : advance s = (true, t)) :
    (ofSource s).next = (some (.ok (current t)), ofSource t) := by
  simp [next, ofSource, h]

theorem next_of_stop (h : advance s = (false, t)) :
    (ofSource s).next = ((failure? (error t)).map .error, (ofSource t).finish) := by
  simp [next, ofSource, h]

end Next

section Course
variable {σ : Type u} {α : Type v} [Source σ α]

def failureOf : Except StreamFault Unit → Option StreamFault
  | .ok () => none
  | .error e => some e

def closedAt (t : σ) (log : List (Touch α)) : Items (Traced σ) where
  source := ⟨(close t).2, log ++ [.close (close t).1]⟩
  isDone := true
  closeFailure := failureOf (close t).1

theorem finish_traced (t : σ) (log : List (Touch α)) :
    (ofSource (⟨t, log⟩ : Traced σ)).finish = closedAt t log := by
  have h : close (⟨t, log⟩ : Traced σ) =
      ((close t).1, ⟨(close t).2, log ++ [.close (close t).1]⟩) := rfl
  rcases hc : (close t).1 with e | _ <;> simp [finish, ofSource, closedAt, failureOf, h, hc]

/-- What `n` calls come to, with the iterator after them and after it has been let go. The items
come first, then the failure if there is one, then nothing more; the source has been asked for no
more than the items and the stop, and has been closed last. -/
inductive Course (s : σ) (n : Nat) :
    List (Option (Except StreamFault α)) → Items (Traced σ) → Items (Traced σ) → Prop
  | running {xs : List α} {t : σ} (hn : xs.length = n) (hr : Reads s xs t) :
    Course s n (xs.map fun a => some (.ok a)) (ofSource ⟨t, xs.map .item⟩)
      (closedAt t (xs.map .item))
  | ended {xs : List α} {t : σ} {later : Nat} (hn : xs.length + 1 + later = n)
    (hd : Drains s xs t) :
    Course s n
      ((xs.map fun a => some (.ok a)) ++
        (failure? (error t)).map .error :: List.replicate later none)
      (closedAt t (xs.map .item ++ [.stop (error t)]))
      (closedAt t (xs.map .item ++ [.stop (error t)]))

/-- One call more. -/
theorem Course.next {s : σ} {n : Nat} {answers : List (Option (Except StreamFault α))}
    {i dropped : Items (Traced σ)} (h : Course s n answers i dropped) :
    Course s (n + 1) (answers ++ [i.next.1]) i.next.2 i.next.2.finish := by
  cases h with
  | @running xs t hn hr =>
    rcases ha : advance t with ⟨_ | _, u⟩
    · have hd : Drains s xs u := by simpa using hr.drains (.stop ha)
      rw [next_of_stop (Traced.advance_of_stop ha), finish_traced, finish_of_done rfl]
      exact .ended (by rw [hn, Nat.add_zero]) hd
    · have hread : Reads s (xs ++ [current u]) u := hr.trans (.single ha)
      rw [next_of_item (Traced.advance_of_item ha), finish_traced]
      have hc := Course.running (by rw [List.length_append, hn, List.length_singleton]) hread
      rwa [List.map_append, List.map_append] at hc
  | @ended xs t later hn hd =>
    rw [next_of_done rfl, finish_of_done rfl, List.append_assoc, List.cons_append,
      ← List.replicate_succ']
    exact .ended (by omega) hd

theorem course_nexts (s : σ) (n : Nat) :
    Course s n (nexts n (ofSource (⟨s, []⟩ : Traced σ))).1 (nexts n (ofSource ⟨s, []⟩)).2
      (nexts n (ofSource ⟨s, []⟩)).2.finish := by
  induction n with
  | zero =>
    rw [nexts, finish_traced]
    exact .running rfl (.nil s)
  | succ n ih => exact ih.next

end Course

section Collect
variable {σ : Type u} {α : Type v} [Source σ α] {i j : Items σ} [Ends i.source]

theorem collect_of_none (h : i.next = (none, j)) : i.collect = (.ok [], j) := by
  rw [collect]
  split <;> simp_all

theorem collect_of_error {e : StreamFault} (h : i.next = (some (.error e), j)) :
    i.collect = (.error e, j) := by
  rw [collect]
  split <;> simp_all

theorem collect_of_ok {a : α} [Ends j.source] (h : i.next = (some (.ok a), j)) :
    i.collect = (j.collect.1.map (a :: ·), j.collect.2) := by
  rw [collect]
  split <;> simp_all

instance {s : σ} [h : Ends s] : Ends (ofSource s).source := h

theorem collect_of_drains {s t : σ} {xs : List α} (h : Drains s xs t) [hs : Ends s] :
    (ofSource s).collect = (verdict xs (error t), (ofSource t).finish) := by
  induction h generalizing hs with
  | @stop s t ha =>
    have hn := next_of_stop ha
    cases hf : failure? (error t) with
    | none =>
      rw [hf] at hn
      rw [collect_of_none hn, verdict, hf]
    | some e =>
      rw [hf] at hn
      rw [collect_of_error hn, verdict, hf]
  | @item s t u xs ha rest ih =>
    have hends := rest.ends
    rw [collect_of_ok (next_of_item ha), ih, map_verdict]

/-- However often the iterator is called, its source is closed once, after all else. To collect what
it gives is to collect the source and close it, and a fold is a fold of what was collected. -/
theorem closes_once {β : Type w} (s : σ) :
    (∀ n, Course s n (nexts n (ofSource (⟨s, []⟩ : Traced σ))).1 (nexts n (ofSource ⟨s, []⟩)).2
      (nexts n (ofSource ⟨s, []⟩)).2.finish) ∧
    ∀ [Ends s],
      (ofSource s).collect = ((Source.collect s).1, (ofSource (Source.collect s).2).finish) ∧
      (ofSource s).collect.2.finish = (ofSource s).collect.2 ∧
      ∀ (f : β → α → β) (tally : β),
        fold f tally s = ((Source.collect s).1.map (·.foldl f tally), (Source.collect s).2) := by
  refine ⟨course_nexts s, fun {_} => ?_⟩
  obtain ⟨xs, t, hd⟩ := exists_drains s
  rw [collect_of_drains hd, Source.collect_of_drains hd]
  refine ⟨rfl, finish_of_done (isDone_finish _), fun f tally => ?_⟩
  rw [fold_of_drains f tally hd, map_verdict]

end Collect

def failingTwice : Double.ScriptedSource Nat where
  script := [{ item := some 1 }, { error := some .closed }]
  closings := [some (.ofText "close")]

theorem closes_once_failingTwice :
    (ofSource failingTwice).collect.1 = .error .closed ∧
      (ofSource failingTwice).collect.2.closeFailure = some (.ofText "close") ∧
      (fold (· + ·) 0 failingTwice).1 = .error .closed := by
  have hone : advance failingTwice =
      (true, { failingTwice with
        script := [{ error := some .closed }], entry := { item := some 1 } }) := rfl
  have hd := Drains.item hone (.stop rfl)
  obtain ⟨hcollect, -, hfold⟩ := (closes_once (β := Nat) failingTwice).2
  rw [hcollect, hfold, Source.collect_of_drains hd]
  exact ⟨rfl, rfl, rfl⟩

end PullStreams.Items
