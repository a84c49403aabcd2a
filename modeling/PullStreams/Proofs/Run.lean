import PullStreams.Consume

namespace PullStreams.Source

section Runs
variable {σ : Type u} {α : Type v} [Source σ α]

/-- Advances that all yield lead from one state to another, past the items. -/
inductive Reads : σ → List α → σ → Prop
  | nil (s : σ) : Reads s [] s
  | cons {s t u : σ} {xs : List α} (h : advance s = (true, t)) (rest : Reads t xs u) :
    Reads s (current t :: xs) u

/-- Advances lead past the items to the first that says that there is no more. -/
inductive Drains : σ → List α → σ → Prop
  | stop {s t : σ} (h : advance s = (false, t)) : Drains s [] t
  | item {s t u : σ} {xs : List α} (h : advance s = (true, t)) (rest : Drains t xs u) :
    Drains s (current t :: xs) u

def advances : Nat → σ → σ
  | 0, s => s
  | n + 1, s => (advance (advances n s)).2

variable {s t u : σ} {xs ys : List α}

theorem advances_add (n k : Nat) (s : σ) : advances (n + k) s = advances k (advances n s) := by
  induction k with
  | zero => rfl
  | succ k ih => rw [← Nat.add_assoc, advances, advances, ih]

theorem advances_succ (n : Nat) (s : σ) : advances (n + 1) s = advances n (advance s).2 := by
  rw [Nat.add_comm, advances_add]
  rfl

theorem Reads.eq_advances (h : Reads s xs t) : t = advances xs.length s := by
  induction h with
  | nil => rfl
  | cons h _ ih => rw [ih, List.length_cons, advances_succ, h]

theorem Drains.eq_advances (h : Drains s xs t) : t = advances (xs.length + 1) s := by
  induction h with
  | stop h => rw [List.length_nil, advances_succ, h, advances]
  | item h _ ih => rw [ih, List.length_cons, advances_succ (_ + 1), h]

theorem Reads.single (h : advance s = (true, t)) : Reads s [current t] t := .cons h (.nil t)

theorem Reads.trans (h : Reads s xs t) (h' : Reads t ys u) : Reads s (xs ++ ys) u := by
  induction h with
  | nil => exact h'
  | cons h _ ih => exact .cons h (ih h')

theorem Reads.drains (h : Reads s xs t) (h' : Drains t ys u) : Drains s (xs ++ ys) u := by
  induction h with
  | nil => exact h'
  | cons h _ ih => exact .item h (ih h')

/-- The advance that says that there is no more comes after ones that yield. -/
theorem Drains.exists_reads (h : Drains s xs t) : ∃ u, Reads s xs u ∧ advance u = (false, t) := by
  induction h with
  | stop h => exact ⟨_, .nil _, h⟩
  | item h _ ih =>
    obtain ⟨u, hr, hs⟩ := ih
    exact ⟨u, .cons h hr, hs⟩

/-- A state has one run to its stop. -/
theorem Drains.unique (h : Drains s xs t) (h' : Drains s ys u) : xs = ys ∧ t = u := by
  induction h generalizing ys with
  | stop h =>
    cases h' with
    | stop h' => exact ⟨rfl, by rw [h] at h'; exact (Prod.mk.inj h').2⟩
    | item h' _ => simp [h] at h'
  | item h _ ih =>
    cases h' with
    | stop h' => simp [h] at h'
    | item h' rest =>
      obtain rfl := After.unique h h'
      obtain ⟨rfl, rfl⟩ := ih rest
      exact ⟨rfl, rfl⟩

/-- A run to the stop goes on from wherever the source has been read to. -/
theorem Drains.of_reads (h : Drains s xs t) (h' : Reads s ys u) :
    ∃ zs, xs = ys ++ zs ∧ Drains u zs t := by
  induction h' generalizing xs with
  | nil => exact ⟨xs, rfl, h⟩
  | cons hs _ ih =>
    cases h with
    | stop h => simp [hs] at h
    | item h rest =>
      obtain rfl := After.unique hs h
      obtain ⟨zs, rfl, hz⟩ := ih rest
      exact ⟨zs, rfl, hz⟩

/-- A source that has a run to its stop comes to it. -/
theorem Drains.ends (h : Drains s xs t) : Ends s := by
  induction h with
  | stop h => exact ⟨.intro _ fun u hu => absurd (h.symm.trans hu) (by simp)⟩
  | item h _ ih => exact ⟨.intro _ fun u hu => After.unique h hu ▸ ih.acc⟩

/-- Only the first advance counts. -/
theorem Drains.of_advance_eq {s' : σ} (he : advance s = advance s') (h : Drains s' xs t) :
    Drains s xs t := by
  cases h with
  | stop h => exact .stop (he.trans h)
  | item h rest => exact .item (he.trans h) rest

theorem exists_drains (s : σ) [Ends s] : ∃ xs t, Drains s xs t := by
  -- The source does not yield for ever, so the induction is along the items that are still ahead.
  induction Ends.acc (s := s) with
  | intro s _ ih =>
    match h : advance s with
    | (false, t) => exact ⟨[], t, .stop h⟩
    | (true, t) =>
      obtain ⟨xs, u, rest⟩ := ih t h
      exact ⟨_, u, .item h rest⟩

/-- A run past the items, and on to the stop if `stopped`. -/
inductive Pulls : σ → List α → Bool → σ → Prop
  | nil (s : σ) : Pulls s [] false s
  | stop {s t : σ} (h : advance s = (false, t)) : Pulls s [] true t
  | item {s t u : σ} {xs : List α} {stopped : Bool} (h : advance s = (true, t))
    (rest : Pulls t xs stopped u) : Pulls s (current t :: xs) stopped u

theorem Reads.pulls {stopped : Bool} (h : Reads s xs t) (h' : Pulls t ys stopped u) :
    Pulls s (xs ++ ys) stopped u := by
  induction h with
  | nil => exact h'
  | cons h _ ih => exact .item h (ih h')

theorem pulls_false_iff : Pulls s xs false t ↔ Reads s xs t := by
  constructor
  · intro h
    generalize hb : false = stopped at h
    induction h with
    | nil s => exact .nil s
    | stop => cases hb
    | item h _ ih => exact .cons h (ih hb)
  · intro h
    simpa using h.pulls (.nil t)

theorem pulls_true_iff : Pulls s xs true t ↔ Drains s xs t := by
  constructor
  · intro h
    generalize hb : true = stopped at h
    induction h with
    | nil => cases hb
    | stop h => exact .stop h
    | item h _ ih => exact .item h (ih hb)
  · intro h
    induction h with
    | stop h => exact .stop h
    | item h _ ih => exact .item h ih

/-- Only the first advance counts, where there is one. -/
theorem Pulls.of_advance_eq {s' : σ} {stopped : Bool} (he : advance s = advance s')
    (h : Pulls s xs stopped t) (hne : stopped = false → xs ≠ []) : Pulls s' xs stopped t := by
  cases h with
  | nil => exact absurd rfl (hne rfl)
  | stop h => exact .stop (he.symm.trans h)
  | item h rest => exact .item (he.symm.trans h) rest

/-- The first `n` items, or all that come before the stop if these are fewer. -/
def firstItems : Nat → σ → List α
  | 0, _ => []
  | n + 1, s =>
    match advance s with
    | (false, _) => []
    | (true, t) => current t :: firstItems n t

theorem firstItems_of_stop (h : advance s = (false, t)) (n : Nat) : firstItems n s = [] := by
  cases n with
  | zero => rfl
  | succ n => simp [firstItems, h]

theorem firstItems_of_item (h : advance s = (true, t)) (n : Nat) :
    firstItems (n + 1) s = current t :: firstItems n t := by
  simp [firstItems, h]

theorem Reads.firstItems_add (h : Reads s xs t) (n : Nat) :
    firstItems (xs.length + n) s = xs ++ firstItems n t := by
  induction h with
  | nil => simp
  | cons h _ ih =>
    rw [List.length_cons, Nat.add_right_comm, firstItems_of_item h, ih]
    rfl

theorem Drains.firstItems_eq (h : Drains s xs t) {n : Nat} (hn : xs.length ≤ n) :
    firstItems n s = xs := by
  obtain ⟨u, hr, hs⟩ := h.exists_reads
  obtain ⟨k, rfl⟩ := Nat.exists_eq_add_of_le hn
  rw [hr.firstItems_add, firstItems_of_stop hs, List.append_nil]

theorem length_firstItems_le (n : Nat) (s : σ) : (firstItems n s).length ≤ n := by
  induction n generalizing s with
  | zero => exact Nat.le_refl 0
  | succ n ih =>
    match h : advance s with
    | (false, t) => simp [firstItems_of_stop h]
    | (true, t) => simpa [firstItems_of_item h] using ih t

theorem take_firstItems {n k : Nat} (hk : n ≤ k) (s : σ) :
    (firstItems k s).take n = firstItems n s := by
  induction n generalizing k s with
  | zero => rfl
  | succ n ih =>
    obtain ⟨k, rfl⟩ : ∃ j, k = j + 1 := ⟨k - 1, by omega⟩
    match h : advance s with
    | (false, t) => rw [firstItems_of_stop h, firstItems_of_stop h, List.take_nil]
    | (true, t) =>
      rw [firstItems_of_item h, firstItems_of_item h, List.take_succ_cons, ih (by omega)]

end Runs

section Sweeps
variable {σ : Type u} {α : Type v} [Source σ α] {β : Type w} {ε : Type x}
  {visit : β → σ → Except ε β} {tally final : β} {s t : σ} {xs : List α}

theorem SweepsTo.drains {answer : Except ε β × σ} (h : SweepsTo visit tally s answer)
    (ho : answer.1 = .ok final) : ∃ xs, Drains s xs answer.2 := by
  induction h with
  | stop ha => exact ⟨[], .stop ha⟩
  | halt => cases ho
  | pass ha _ _ ih =>
    obtain ⟨xs, rest⟩ := ih ho
    exact ⟨_, .item ha rest⟩

/-- The last item before a halt is the one that the visitor was shown. -/
theorem SweepsTo.reads {answer : Except ε β × σ} {e : ε} (h : SweepsTo visit tally s answer)
    (he : answer.1 = .error e) : ∃ xs, Reads s (xs ++ [current answer.2]) answer.2 := by
  induction h with
  | stop => cases he
  | halt ha => exact ⟨[], .single ha⟩
  | pass ha _ _ ih =>
    obtain ⟨xs, rest⟩ := ih he
    exact ⟨_ :: xs, .cons ha rest⟩

/-- The visitor passes `n` items, one after the other. -/
inductive Passed (visit : β → σ → Except ε β) : Nat → β → σ → β → σ → Prop
  | zero (tally : β) (s : σ) : Passed visit 0 tally s tally s
  | succ {n : Nat} {tally tally' last : β} {s t t' : σ} (ha : advance s = (true, t))
    (hv : visit tally t = .ok tally') (rest : Passed visit n tally' t last t') :
    Passed visit (n + 1) tally s last t'

theorem sweepsTo_or_passed (visit : β → σ → Except ε β) (n : Nat) (tally : β) (s : σ) :
    (∃ answer, SweepsTo visit tally s answer) ∨ ∃ last t, Passed visit n tally s last t := by
  induction n generalizing tally s with
  | zero => exact .inr ⟨tally, s, .zero tally s⟩
  | succ n ih =>
    rcases ha : advance s with ⟨_ | _, t⟩
    · exact .inl ⟨_, .stop ha⟩
    · cases hv : visit tally t with
      | error e => exact .inl ⟨_, .halt ha hv⟩
      | ok tally' =>
        rcases ih tally' t with ⟨answer, h⟩ | ⟨last, t', h⟩
        · exact .inl ⟨answer, .pass ha hv h⟩
        · exact .inr ⟨last, t', .succ ha hv h⟩

theorem SweepsTo.exists_not_passed {answer : Except ε β × σ} (h : SweepsTo visit tally s answer) :
    ∃ n, ∀ last t, ¬ Passed visit n tally s last t := by
  -- Each item passed allows one more, and the stop or the halt allows none.
  induction h with
  | stop ha =>
    refine ⟨1, fun last t hp => ?_⟩
    cases hp with
    | succ ha' => simp [ha] at ha'
  | halt ha hv =>
    refine ⟨1, fun last t hp => ?_⟩
    cases hp with
    | succ ha' hv' =>
      obtain rfl := After.unique ha ha'
      simp [hv] at hv'
  | pass ha hv _ ih =>
    obtain ⟨n, ih⟩ := ih
    refine ⟨n + 1, fun last t hp => ?_⟩
    cases hp with
    | succ ha' hv' rest =>
      obtain rfl := After.unique ha ha'
      obtain rfl := Except.ok.inj (hv.symm.trans hv')
      exact ih last t rest

/-- A sweep ends unless there is no end to the items that the visitor passes. -/
theorem exists_sweepsTo_iff : (∃ answer, SweepsTo visit tally s answer) ↔
    ¬ ∀ n, ∃ last t, Passed visit n tally s last t := by
  constructor
  · rintro ⟨answer, h⟩ hp
    obtain ⟨n, hn⟩ := h.exists_not_passed
    obtain ⟨last, t, hp⟩ := hp n
    exact hn last t hp
  · intro hp
    obtain ⟨n, hn⟩ := Classical.not_forall.1 hp
    exact (sweepsTo_or_passed visit n tally s).resolve_right hn

theorem drains_of_sweep_eq_ok [SweepEnds visit tally s] (h : sweep visit tally s = (.ok final, t)) :
    ∃ xs, Drains s xs t :=
  (sweepsTo_of_eq h).drains rfl

theorem reads_of_sweep_eq_error [SweepEnds visit tally s] {e : ε}
    (h : sweep visit tally s = (.error e, t)) : ∃ xs, Reads s (xs ++ [current t]) t :=
  (sweepsTo_of_eq h).reads rfl

theorem sweep_of_drains {step : β → α → β} (h : Drains s xs t) [hs : Ends s] :
    sweep (fun tally t => (.ok (step tally (current t)) : Except ε β)) tally s =
      (.ok (xs.foldl step tally), t) := by
  induction h generalizing tally hs with
  | stop h => exact sweep_of_stop h
  | item h rest ih =>
    have := rest.ends
    exact (sweep_of_pass h rfl).trans ih

section Map
variable {γ : Type y} {ε' : Type z} {g : β → γ} {h : ε → ε'} {visit' : γ → σ → Except ε' γ}

/-- What is done to the tallies and halts of a visitor is done to what its sweep comes to. -/
theorem SweepsTo.map (hv : ∀ tally t, visit' (g tally) t = ((visit tally t).map g).mapError h)
    {answer : Except ε β × σ} (hs : SweepsTo visit tally s answer) :
    SweepsTo visit' (g tally) s (answer.map (fun r => (r.map g).mapError h) id) := by
  induction hs with
  | stop ha => exact .stop ha
  | halt ha he =>
    refine .halt ha ?_
    rw [id, hv, he]
    rfl
  | pass ha ho _ ih =>
    refine .pass ha ?_ ih
    rw [hv, ho]
    rfl

theorem SweepsTo.of_map (hv : ∀ tally t, visit' (g tally) t = ((visit tally t).map g).mapError h)
    {answer : Except ε' γ × σ} (hs : SweepsTo visit' (g tally) s answer) :
    ∃ answer, SweepsTo visit tally s answer := by
  generalize hg : g tally = tally' at hs
  induction hs generalizing tally with
  | stop ha => exact ⟨_, .stop ha⟩
  | halt ha he =>
    subst hg
    rw [hv] at he
    cases hvisit : visit tally _ with
    | error e => exact ⟨_, .halt ha hvisit⟩
    | ok next =>
      rw [hvisit] at he
      cases he
  | pass ha ho _ ih =>
    subst hg
    rw [hv] at ho
    cases hvisit : visit tally _ with
    | error e =>
      rw [hvisit] at ho
      cases ho
    | ok next =>
      rw [hvisit] at ho
      obtain ⟨answer, rest⟩ := ih (Except.ok.inj ho)
      exact ⟨answer, .pass ha hvisit rest⟩

end Map

theorem drain_of_drains (h : Drains s xs t) [Ends s] : drain s = (xs, t) := by
  have hs := @sweep_of_drains σ α _ _ Empty [] s t xs (fun items a => a :: items) h _
  simp [drain, hs]

/-- What a tally is worth when the source has stopped: nothing, if it failed. -/
def verdict (tally : β) (stop : Option StreamFault) : Except StreamFault β :=
  match failure? stop with
  | some e => .error e
  | none => .ok tally

theorem map_verdict {γ : Type y} (f : β → γ) (tally : β) (stop : Option StreamFault) :
    (verdict tally stop).map f = verdict (f tally) stop := by
  unfold verdict
  cases failure? stop <;> rfl

theorem collect_of_drains (h : Drains s xs t) [Ends s] :
    collect s = (verdict xs (error t), t) := by
  simp only [collect, drain_of_drains h, verdict]
  cases failure? (error t) <;> rfl

theorem fold_of_drains (f : β → α → β) (tally : β) (h : Drains s xs t) [Ends s] :
    fold f tally s = (verdict (xs.foldl f tally) (error t), t) := by
  have hs : sweep (fun tally t => (.ok (f tally (current t)) : Except Empty β)) tally s = _ :=
    sweep_of_drains h
  simp only [fold, hs, verdict]
  cases failure? (error t) <;> rfl

end Sweeps
end PullStreams.Source
