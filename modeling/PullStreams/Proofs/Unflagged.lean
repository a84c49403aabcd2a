import PullStreams.Double.Source
import PullStreams.Proofs.Run

namespace PullStreams.Source

section Shown
variable {σ : Type u} {α : Type v} [Source σ α]

/-- Advances lead past the items, each with what the error slot holds at it, to the stop. -/
inductive Shows : σ → List (α × Option StreamFault) → σ → Prop
  | stop {s t : σ} (h : advance s = (false, t)) : Shows s [] t
  | item {s t u : σ} {shown : List (α × Option StreamFault)} (h : advance s = (true, t))
    (rest : Shows t shown u) : Shows s ((current t, error t) :: shown) u

variable {s t : σ} {shown : List (α × Option StreamFault)}

theorem Shows.drains (h : Shows s shown t) : Drains s (shown.map (·.1)) t := by
  induction h with
  | stop h => exact .stop h
  | item h _ ih => exact .item h ih

theorem Shows.unique {u : σ} {shown' : List (α × Option StreamFault)} (h : Shows s shown t)
    (h' : Shows s shown' u) : shown = shown' ∧ t = u := by
  induction h generalizing shown' with
  | stop h =>
    cases h' with
    | stop h' => exact ⟨rfl, (Prod.mk.inj (h.symm.trans h')).2⟩
    | item h' => simp [h] at h'
  | item h _ ih =>
    cases h' with
    | stop h' => simp [h] at h'
    | item h' rest =>
      obtain rfl := After.unique h h'
      obtain ⟨rfl, rfl⟩ := ih rest
      exact ⟨rfl, rfl⟩

theorem Drains.exists_shows {xs : List α} (h : Drains s xs t) : ∃ shown, Shows s shown t := by
  induction h with
  | stop h => exact ⟨[], .stop h⟩
  | item h _ ih =>
    obtain ⟨shown, rest⟩ := ih
    exact ⟨_, .item h rest⟩

def unflagged (shown : List (α × Option StreamFault)) : List α :=
  (shown.filter fun r => r.2.isNone).map (·.1)

def unfailed (shown : List (α × Option StreamFault)) : List α :=
  (shown.filter fun r => (failure? r.2).isNone).map (·.1)

theorem unflagged_cons (r : α × Option StreamFault) (shown : List (α × Option StreamFault)) :
    unflagged (r :: shown) = if r.2.isNone then r.1 :: unflagged shown else unflagged shown := by
  by_cases h : r.2.isNone <;> simp [unflagged, h]

/-- One item more is kept or passed over. -/
theorem sweepsTo_unflagged (h : Shows s shown t) (items : List α) :
    SweepsTo (fun items t =>
        (.ok (if (error t).isNone then current t :: items else items) : Except Empty (List α)))
      items s (.ok ((unflagged shown).reverse ++ items), t) := by
  induction h generalizing items with
  | stop h => exact .stop h
  | @item s t u shown h _ ih =>
    refine .pass h rfl ?_
    have hr := ih (if (error t).isNone then current t :: items else items)
    rw [unflagged_cons]
    split at hr <;> simp_all

theorem collectUnflagged_of_shows (h : Shows s shown t) [Ends s] :
    collectUnflagged s = (unflagged shown, t) := by
  have hs := (sweepsTo_unflagged h []).sweep_eq
  simp only [collectUnflagged, hs, List.append_nil, List.reverse_reverse]

end Shown

/-- Of two filters, of which the first passes no more than the second, both pass the same items only
if they agree on all. -/
theorem map_filter_eq_iff {α : Type u} {β : Type v} {p q : α → Bool} (h : ∀ a, p a → q a)
    (f : α → β) (xs : List α) :
    (xs.filter p).map f = (xs.filter q).map f ↔ ∀ a ∈ xs, q a → p a := by
  constructor
  · intro he
    have hp : xs.filter p = (xs.filter q).filter p := by
      rw [List.filter_filter]
      exact List.filter_congr fun a _ => by simpa using h a
    have hl : ((xs.filter q).filter p).length = (xs.filter q).length := by
      simpa [← hp] using congrArg List.length he
    intro a ha hq
    exact List.length_filter_eq_length_iff.1 hl a (List.mem_filter.2 ⟨ha, hq⟩)
  · intro hall
    congr 1
    exact List.filter_congr fun a ha => Bool.eq_iff_iff.2 ⟨h a, hall a ha⟩

section Kept
variable {σ : Type u} {α : Type v} [Source σ α] (shown : List (α × Option StreamFault))

/-- What is passed over without a failure is an item that came with the end. -/
theorem unflagged_eq_unfailed_iff :
    unflagged shown = unfailed shown ↔ ∀ r ∈ shown, r.2 ≠ some .ended := by
  have hp (r : α × Option StreamFault) (h : r.2.isNone) : (failure? r.2).isNone := by
    rw [Option.isNone_iff_eq_none.1 h]
    rfl
  rw [unflagged, unfailed, map_filter_eq_iff hp]
  refine forall₂_congr fun r _ => ?_
  rcases r with ⟨a, _ | e⟩
  · simp
  · cases e <;> simp [failure?]

theorem unflagged_eq_all_iff : unflagged shown = shown.map (·.1) ↔ ∀ r ∈ shown, r.2 = none := by
  have hall : shown.map (·.1) = (shown.filter fun _ => true).map (·.1) := by
    rw [List.filter_eq_self.2 fun _ _ => rfl]
  rw [hall, unflagged, map_filter_eq_iff fun _ _ => rfl]
  simp

/-- An item is kept if the slot is empty at it. So the items without a failure are all kept
if and only if none of them comes with the end, and what is kept is what there is to collect if and
only if the source ends well and no item comes with anything in the slot. -/
theorem collectUnflagged_keeps (s : σ) [Ends s] :
    ∃ (shown : List (α × Option StreamFault)) (t : σ), Shows s shown t ∧
      collectUnflagged s = (unflagged shown, t) ∧
      (unflagged shown = unfailed shown ↔ ∀ r ∈ shown, r.2 ≠ some .ended) ∧
      collect s = (verdict (shown.map (·.1)) (error t), t) ∧
      ((collect s).1 = .ok (collectUnflagged s).1 ↔
        failure? (error t) = none ∧ ∀ r ∈ shown, r.2 = none) := by
  obtain ⟨xs, t, hd⟩ := exists_drains s
  obtain ⟨shown, h⟩ := hd.exists_shows
  refine ⟨shown, t, h, collectUnflagged_of_shows h, unflagged_eq_unfailed_iff shown,
    collect_of_drains h.drains, ?_⟩
  rw [collect_of_drains h.drains, collectUnflagged_of_shows h, ← unflagged_eq_all_iff, verdict]
  cases failure? (error t) with
  | some e => simp
  | none => simp [eq_comm]

end Kept

section Scripted
variable {α : Type u} [Inhabited α]
open Double

def showing (shown : List (α × Option StreamFault)) : ScriptedSource α where
  script := shown.map fun r => ⟨some r.1, r.2⟩

/-- The slot stays as it was at the last item. -/
theorem shows_showing (shown : List (α × Option StreamFault)) :
    ∃ t, Shows (showing shown) shown t ∧ error t = (shown.map (·.2)).getLastD none := by
  suffices hs : ∀ entry, ∃ t, Shows { showing shown with entry } shown t ∧
      error t = (shown.map (·.2)).getLastD entry.error from hs {}
  induction shown with
  | nil => exact fun entry => ⟨_, .stop rfl, rfl⟩
  | cons r rest ih =>
    intro entry
    obtain ⟨t, ht, he⟩ := ih ⟨some r.1, r.2⟩
    have ha : advance { showing (r :: rest) with entry } =
        (true, { showing rest with entry := ⟨some r.1, r.2⟩ }) := rfl
    exact ⟨t, .item ha ht, by rw [he, List.map_cons, List.getLastD_cons]⟩

/-- A failure comes with the second item and the end with the third. -/
theorem collectUnflagged_keeps_first :
    let s := showing [(1, none), (2, some .closed), (3, some .ended)]
    (collectUnflagged s).1 = [1] ∧ (collect s).1 ≠ .ok [1] := by
  intro s
  obtain ⟨u, hu, -⟩ := shows_showing [(1, none), (2, some .closed), (3, some .ended)]
  obtain ⟨shown, t, h, hkept, -, -, hall⟩ := collectUnflagged_keeps s
  obtain ⟨rfl, rfl⟩ := h.unique hu
  have hone : (collectUnflagged s).1 = [1] := by
    rw [hkept]
    rfl
  rw [hone] at hall
  exact ⟨hone, fun hc => by simpa using (hall.1 hc).2⟩

/-- Nothing fails, and the last item is lost. -/
theorem collectUnflagged_loses_last :
    let s := showing [(1, none), (2, some .ended)]
    (∃ t, Shows s [(1, none), (2, some .ended)] t ∧ error t = some .ended) ∧
      (collect s).1 = .ok [1, 2] ∧ (collectUnflagged s).1 = [1] := by
  intro s
  obtain ⟨t, ht, he⟩ := shows_showing [(1, none), (2, some .ended)]
  refine ⟨⟨t, ht, he⟩, ?_, ?_⟩
  · rw [collect_of_drains ht.drains, he]
    rfl
  · rw [collectUnflagged_of_shows ht]
    rfl

end Scripted
end PullStreams.Source
