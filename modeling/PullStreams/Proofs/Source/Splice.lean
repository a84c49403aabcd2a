import PullStreams.Proofs.Answers
import PullStreams.Proofs.Custody
import PullStreams.Proofs.Outcome

namespace PullStreams
open Source

namespace Concat
variable {ρ : Type u} {α : Type v} [Source ρ α]

/-- A search among some of the sources is one among all of them as far as it goes. -/
theorem seek_around (before after passed ahead : List ρ) :
    seek (before ++ passed) (ahead ++ after) =
      match seek passed ahead with
      | (true, c) => (true, { c with passed := before ++ c.passed, ahead := c.ahead ++ after })
      | (false, c) =>
        match c.stopped with
        | some _ => (false, { c with passed := before ++ c.passed, ahead := c.ahead ++ after })
        | none => seek (before ++ c.passed) after := by
  induction ahead generalizing passed with
  | nil => rfl
  | cons s rest ih =>
    match h : Source.advance s with
    | (true, t) => simp [seek, h]
    | (false, t) =>
      cases hf : failure? (Source.error t) with
      | some e => simp [seek, h, hf]
      | none =>
        simp only [List.cons_append, seek, h, hf]
        rw [List.append_assoc, ih]

inductive Sought : Bool × Concat ρ → Prop
  | item {passed ahead : List ρ} {s : ρ} : Sought (true, { passed, ahead := s :: ahead })
  | failed {passed ahead : List ρ} {s : ρ} {e : StreamFault} (he : failure? (some e) = some e) :
    Sought (false, { passed, ahead := s :: ahead, stopped := some e })
  | ended {passed : List ρ} : Sought (false, { passed, ahead := [] })

theorem sought_seek (passed ahead : List ρ) : Sought (seek passed ahead) := by
  induction ahead generalizing passed with
  | nil => exact .ended
  | cons s rest ih =>
    match h : Source.advance s with
    | (true, t) => simpa [seek, h] using Sought.item
    | (false, t) =>
      cases hf : failure? (Source.error t) with
      | some e =>
        have he : failure? (some e) = some e := by rw [← hf, failure?_failure?]
        simpa [seek, h, hf] using Sought.failed he
      | none => simpa [seek, h, hf] using ih (passed ++ [t])

theorem closeAll_append (ms ms' : List ρ) :
    closeAll (ms ++ ms') =
      ((closeAll ms).1.bind fun _ => (closeAll ms').1, (closeAll ms).2 ++ (closeAll ms').2) := by
  induction ms with
  | nil => rfl
  | cons s rest ih =>
    simp only [List.cons_append, closeAll, ih]
    cases (Source.close s).1 <;> rfl

theorem close_of_open {c : Concat ρ} (h : c.isClosed = false) :
    c.close.1 = (closeAll c.members).1 ∧ c.close.2.members = (closeAll c.members).2 ∧
      c.close.2.isClosed = true ∧ c.close.2.stopped = c.stopped := by
  rw [close, if_neg (by simp [h]), members, closeAll_append]
  exact ⟨rfl, rfl, rfl, rfl⟩

end Concat

variable {μ : Type u} {ρ : Type v} {α : Type w} [Source μ α] [Source ρ α]

/-- A member does what a search among the sources does that it stands for. -/
inductive Follows (members : μ → List ρ) (Open : μ → Prop) (Reading : μ → List ρ → List ρ → Prop) :
    Bool × μ → Bool × Concat ρ → Prop
  | item {m : μ} {passed ahead : List ρ} {s : ρ} (h : Reading m passed (s :: ahead)) :
    Follows members Open Reading (true, m) (true, { passed, ahead := s :: ahead })
  | failed {m : μ} {passed ahead : List ρ} {s : ρ} {e : StreamFault} (ho : Open m)
    (hm : members m = passed ++ s :: ahead) (hc : current m = current s)
    (he : failure? (error m) = some e) :
    Follows members Open Reading (false, m)
      (false, { passed, ahead := s :: ahead, stopped := some e })
  | ended {m : μ} {passed : List ρ} (ho : Open m) (hm : members m = passed)
    (he : failure? (error m) = none) :
    Follows members Open Reading (false, m) (false, { passed, ahead := [] })

variable (μ ρ) in
/-- Each source of type `μ` stands for some of type `ρ`, one after the other. -/
structure Splice where
  members : μ → List ρ
  /-- It has not been closed. -/
  Open : μ → Prop
  /-- It has come past the sources of the first list to those of the second. -/
  Reading : μ → List ρ → List ρ → Prop
  open_of_reading {m : μ} {passed ahead : List ρ} : Reading m passed ahead → Open m
  members_of_reading {m : μ} {passed ahead : List ρ} :
    Reading m passed ahead → members m = passed ++ ahead
  current_of_reading {m : μ} {passed ahead : List ρ} {s : ρ} :
    Reading m passed (s :: ahead) → current m = current s
  advance {m : μ} {passed ahead : List ρ} :
    Reading m passed ahead → Follows members Open Reading (advance m) (Concat.seek passed ahead)
  close {m : μ} : Open m →
    (close m).1 = (Concat.closeAll (members m)).1 ∧
      members (close m).2 = (Concat.closeAll (members m)).2

namespace Splice

/-- Nothing has been read yet, and there is something to read. -/
def Fresh (S : Splice μ ρ) (m : μ) : Prop := S.members m ≠ [] ∧ S.Reading m [] (S.members m)

/-- Members that have been passed stand for passed sources; the one that is being read is amid its
sources, and those after it have not been touched. -/
inductive Aligned (S : Splice μ ρ) (passed : List μ) : List μ → List ρ → List ρ → Prop
  | ended : Aligned S passed [] (passed.flatMap S.members) []
  | reading {m : μ} {rest : List μ} {before after : List ρ} {s : ρ}
    (hm : S.Reading m before (s :: after)) (hr : ∀ m ∈ rest, S.Fresh m) :
    Aligned S passed (m :: rest) (passed.flatMap S.members ++ before)
      (s :: after ++ rest.flatMap S.members)

/-- `c` has come as far among its members as `d` among the sources that these stand for. -/
structure Matches [Inhabited α] (S : Splice μ ρ) (c : Concat μ) (d : Concat ρ) : Prop where
  isClosed : c.isClosed = d.isClosed
  stopped : c.stopped = d.stopped
  members : c.members.flatMap S.members = d.members
  current : c.current = d.current
  isOpen : c.isClosed = false → ∀ m ∈ c.members, S.Open m
  aligned : c.isClosed = false → c.stopped = none →
    S.Aligned c.passed c.ahead d.passed d.ahead

variable {S : Splice μ ρ} {passed rest : List μ} {before after : List ρ}

theorem aligned_fresh (passed : List μ) (hr : ∀ m ∈ rest, S.Fresh m) :
    S.Aligned passed rest (passed.flatMap S.members) (rest.flatMap S.members) := by
  cases rest with
  | nil => exact .ended
  | cons m rest =>
    obtain ⟨hm, hrest⟩ := List.forall_mem_cons.1 hr
    obtain ⟨hne, hm⟩ := hm
    rw [List.flatMap_cons]
    generalize S.members m = ms at hne hm
    cases ms with
    | nil => exact absurd rfl hne
    | cons s ms =>
      have ha : S.Aligned passed (m :: rest) _ _ := .reading hm hrest
      simpa using ha

theorem Fresh.isOpen {m : μ} (h : S.Fresh m) : S.Open m := S.open_of_reading h.2

theorem closeAll_flatMap {ms : List μ} (ho : ∀ m ∈ ms, S.Open m) :
    (Concat.closeAll ms).1 = (Concat.closeAll (ms.flatMap S.members)).1 ∧
      (Concat.closeAll ms).2.flatMap S.members = (Concat.closeAll (ms.flatMap S.members)).2 := by
  induction ms with
  | nil => exact ⟨rfl, rfl⟩
  | cons m rest ih =>
    obtain ⟨hm, hrest⟩ := List.forall_mem_cons.1 ho
    obtain ⟨h1, h2⟩ := S.close hm
    obtain ⟨h1', h2'⟩ := ih hrest
    rw [List.flatMap_cons, Concat.closeAll_append, ← h1, ← h1', ← h2, ← h2']
    exact ⟨rfl, rfl⟩

section Bisimulation
variable [Inhabited α]

theorem matches_ofList (hr : ∀ m ∈ rest, S.Fresh m) :
    S.Matches (Concat.ofList rest) (Concat.ofList (rest.flatMap S.members)) where
  isClosed := rfl
  stopped := rfl
  members := rfl
  current := by
    cases rest with
    | nil => rfl
    | cons m rest =>
      obtain ⟨⟨hne, hm⟩, -⟩ := List.forall_mem_cons.1 hr
      cases h : S.members m with
      | nil => exact absurd h hne
      | cons s ms =>
        rw [h] at hm
        simpa [Concat.ofList, Concat.current, h] using S.current_of_reading hm
  isOpen _ m hm := (hr m hm).isOpen
  aligned _ _ := aligned_fresh [] hr

/-- Passing a member is passing all its sources. -/
theorem matches_seek (h : S.Aligned passed rest before after) (ho : ∀ m ∈ passed, S.Open m) :
    (Concat.seek passed rest).1 = (Concat.seek before after).1 ∧
      S.Matches (Concat.seek passed rest).2 (Concat.seek before after).2 := by
  induction rest generalizing passed before after with
  | nil =>
    cases h
    have hmembers : (Concat.seek passed ([] : List μ)).2.members = passed := List.append_nil passed
    refine ⟨rfl, rfl, rfl, ?_, rfl, fun _ => ?_, fun _ _ => .ended⟩
    · rw [hmembers]
      exact (List.append_nil _).symm
    · rwa [hmembers]
  | cons m rest ih =>
    cases h with
    | @reading _ _ before after s hm hr =>
      have hopen (m' : μ) (hm' : S.Open m') : ∀ m ∈ passed ++ m' :: rest, S.Open m :=
        List.forall_mem_append.2 ⟨ho, List.forall_mem_cons.2 ⟨hm', fun m h => (hr m h).isOpen⟩⟩
      have hf := S.advance hm
      rw [Concat.seek_around, Concat.seek]
      generalize Concat.seek before (s :: after) = found at hf ⊢
      generalize Source.advance m = moved at hf ⊢
      cases hf with
      | @item m' before' after' s' h' =>
        refine ⟨rfl, rfl, rfl, ?_, ?_, fun _ => hopen m' (S.open_of_reading h'), fun _ _ => ?_⟩
        · simp [Concat.members, S.members_of_reading h']
        · simpa [Concat.current] using S.current_of_reading h'
        · exact .reading h' hr
      | @failed m' before' after' s' e ho' hm' hc he =>
        simp only [he]
        refine ⟨trivial, rfl, rfl, ?_, ?_, fun _ => hopen m' ho', fun _ hs => by simp at hs⟩
        · simp [Concat.members, hm']
        · simpa [Concat.current] using hc
      | @ended m' before' ho' hm' he =>
        simp only [he]
        have ha := aligned_fresh (S := S) (passed ++ [m']) hr
        rw [List.flatMap_append, List.flatMap_singleton, hm'] at ha
        exact ih ha (List.forall_mem_append.2 ⟨ho, List.forall_mem_singleton.2 ho'⟩)

theorem matches_close {c : Concat μ} {d : Concat ρ} (h : S.Matches c d) :
    c.close.1 = d.close.1 ∧ S.Matches c.close.2 d.close.2 := by
  cases hc : c.isClosed with
  | true =>
    have hd : d.isClosed = true := h.isClosed ▸ hc
    rw [Concat.close, if_pos hc, Concat.close, if_pos hd]
    exact ⟨rfl, h⟩
  | false =>
    have hd : d.isClosed = false := h.isClosed ▸ hc
    obtain ⟨hc1, hc2, hc3, hc4⟩ := Concat.close_of_open hc
    obtain ⟨hd1, hd2, hd3, hd4⟩ := Concat.close_of_open hd
    obtain ⟨he, hm⟩ := closeAll_flatMap (h.isOpen hc)
    rw [h.members] at he hm
    refine ⟨by rw [hc1, hd1, he], by rw [hc3, hd3], by rw [hc4, hd4, h.stopped], ?_, ?_, ?_, ?_⟩
    · rw [hc2, hd2, hm]
    · rw [Concat.current, if_pos hc3, Concat.current, if_pos hd3]
    · simp [hc3]
    · simp [hc3]

theorem matches_advance {c : Concat μ} {d : Concat ρ} (h : S.Matches c d) :
    c.advance.1 = d.advance.1 ∧ S.Matches c.advance.2 d.advance.2 := by
  have hd : (d.isClosed || d.stopped.isSome) = (c.isClosed || c.stopped.isSome) := by
    rw [h.isClosed, h.stopped]
  rw [Concat.advance, Concat.advance, hd]
  split
  · exact ⟨rfl, h⟩
  · rename_i hr
    simp only [Bool.or_eq_true, not_or, Bool.not_eq_true, Option.isSome_eq_false_iff,
      Option.isNone_iff_eq_none] at hr
    exact matches_seek (h.aligned hr.1 hr.2) fun m hm =>
      h.isOpen hr.1 m (List.mem_append_left _ hm)

/-- How the members are put together makes no difference. -/
theorem bisimulation (S : Splice μ ρ) : Bisimulation S.Matches where
  advance := matches_advance
  current h := h.current
  error h := h.stopped
  close := matches_close

end Bisimulation

section Instances
variable {κ : Type x} {ν : Type y} [Source κ α] [Source ν α]

theorem follows_map {f : μ → ν} (hf : Passes f) {members : μ → List ρ} {members' : ν → List ρ}
    {Open : μ → Prop} {Open' : ν → Prop} {Reading : μ → List ρ → List ρ → Prop}
    {Reading' : ν → List ρ → List ρ → Prop} (hm : ∀ m, members' (f m) = members m)
    (ho : ∀ m, Open m → Open' (f m))
    (hr : ∀ m passed ahead, Reading m passed ahead → Reading' (f m) passed ahead)
    {moved : Bool × μ} {found : Bool × Concat ρ} (h : Follows members Open Reading moved found) :
    Follows members' Open' Reading' (moved.map id f) found := by
  cases h with
  | item h => exact .item (hr _ _ _ h)
  | failed ho' hm' hc he =>
    exact .failed (ho _ ho') ((hm _).trans hm') ((hf.current _).trans hc) (by rwa [hf.error])
  | ended ho' hm' he => exact .ended (ho _ ho') ((hm _).trans hm') (by rwa [hf.error])

/-- A source stands for itself. -/
def single {f : κ → ρ} (hf : Passes f) : Splice κ ρ where
  members s := [f s]
  Open _ := True
  Reading s passed ahead := passed = [] ∧ ahead = [f s]
  open_of_reading _ := trivial
  members_of_reading h := by rw [h.1, h.2, List.nil_append]
  current_of_reading h := by
    obtain ⟨rfl, -⟩ := List.cons.inj h.2
    exact (hf.current _).symm
  advance {s passed ahead} h := by
    obtain ⟨rfl, rfl⟩ := h
    rw [Concat.seek, hf.advance]
    match Source.advance s with
    | (true, t) => exact .item ⟨rfl, rfl⟩
    | (false, t) =>
      have he : error (f t) = error t := hf.error t
      simp only [Prod.map, id, he]
      cases hfail : failure? (error t) with
      | some e => exact .failed trivial rfl (hf.current t).symm hfail
      | none => exact .ended trivial rfl hfail
  close {s} _ := by
    simp only [Concat.closeAll, hf.close]
    refine ⟨?_, rfl⟩
    show (Source.close s).1 = (Source.close s).1.bind fun _ => .ok ()
    cases (Source.close s).1 <;> rfl

/-- Sources of two types, each with what it stands for. -/
def sum (S : Splice μ ρ) (T : Splice ν ρ) : Splice (μ ⊕ ν) ρ where
  members := Sum.elim S.members T.members
  Open := Sum.elim S.Open T.Open
  Reading := Sum.elim S.Reading T.Reading
  open_of_reading {m _ _} h := by
    cases m with
    | inl m => exact S.open_of_reading h
    | inr m => exact T.open_of_reading h
  members_of_reading {m _ _} h := by
    cases m with
    | inl m => exact S.members_of_reading h
    | inr m => exact T.members_of_reading h
  current_of_reading {m _ _ _} h := by
    cases m with
    | inl m => exact S.current_of_reading h
    | inr m => exact T.current_of_reading h
  advance {m _ _} h := by
    cases m with
    | inl m =>
      exact follows_map passes_inl (fun _ => rfl) (fun _ => id) (fun _ _ _ => id) (S.advance h)
    | inr m =>
      exact follows_map passes_inr (fun _ => rfl) (fun _ => id) (fun _ _ _ => id) (T.advance h)
  close {m} h := by
    cases m with
    | inl m => exact S.close h
    | inr m => exact T.close h

/-- Members one after the other stand for all that each of them stands for. -/
def concat [Inhabited α] (S : Splice μ ρ) : Splice (Concat μ) ρ where
  members c := c.members.flatMap S.members
  Open c := c.isClosed = false ∧ ∀ m ∈ c.members, S.Open m
  Reading c passed ahead := S.Matches c { passed, ahead }
  open_of_reading h := ⟨h.isClosed, h.isOpen h.isClosed⟩
  members_of_reading h := h.members
  current_of_reading h := h.current
  advance {c passed ahead} h := by
    obtain ⟨he, hm⟩ := matches_advance h
    change c.advance.1 = (Concat.seek passed ahead).1 at he
    change S.Matches c.advance.2 (Concat.seek passed ahead).2 at hm
    show Follows _ _ _ c.advance _
    generalize c.advance = moved at he hm ⊢
    obtain ⟨more, c'⟩ := moved
    have hs := Concat.sought_seek passed ahead
    generalize Concat.seek passed ahead = found at he hm hs ⊢
    cases hs with
    | item =>
      obtain rfl : more = true := he
      exact .item hm
    | failed hf =>
      obtain rfl : more = false := he
      refine .failed ⟨hm.isClosed, hm.isOpen hm.isClosed⟩ hm.members hm.current ?_
      exact (congrArg failure? hm.stopped).trans hf
    | ended =>
      obtain rfl : more = false := he
      refine .ended ⟨hm.isClosed, hm.isOpen hm.isClosed⟩ ?_ ?_
      · exact hm.members.trans (List.append_nil _)
      · exact congrArg failure? hm.stopped
  close {c} h := by
    obtain ⟨h1, h2, -, -⟩ := Concat.close_of_open h.1
    obtain ⟨he, hm⟩ := closeAll_flatMap h.2
    exact ⟨h1.trans he, (congrArg (·.flatMap S.members) h2).trans hm⟩

theorem fresh_single {f : κ → ρ} (hf : Passes f) (s : κ) : (single hf).Fresh s :=
  ⟨List.cons_ne_nil _ _, rfl, rfl⟩

theorem fresh_concat [Inhabited α] {S : Splice μ ρ} {ms : List μ} (hne : ms ≠ [])
    (h : ∀ m ∈ ms, S.Fresh m) : S.concat.Fresh (Concat.ofList ms) := by
  refine ⟨?_, matches_ofList h⟩
  cases ms with
  | nil => exact absurd rfl hne
  | cons m rest =>
    have hm := (h m List.mem_cons_self).1
    simp [concat, Concat.members, Concat.ofList, hm]

theorem fresh_pair {S : Splice μ ρ} {T : Splice ν ρ} {m : μ} {n : ν} (hm : S.Fresh m)
    (hn : T.Fresh n) : ∀ p ∈ [Sum.inl m, Sum.inr n], (S.sum T).Fresh p :=
  List.forall_mem_cons.2 ⟨hm, List.forall_mem_singleton.2 hn⟩

end Instances
end Splice
end PullStreams
