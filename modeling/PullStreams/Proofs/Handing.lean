import PullStreams.Proofs.Transport

namespace PullStreams

/-- The pieces of a feed, none of them empty, are the bytes. -/
structure Feed.Holds (f : Feed) (bs : Bytes) (fault : Option IoFault) : Prop where
  flatten : f.pieces.flatten = bs
  ne_nil : ∀ piece ∈ f.pieces, piece ≠ []
  fault : f.fault = fault

namespace Feed

theorem holds_nil (fault : Option IoFault) : Holds ⟨[], fault⟩ [] fault :=
  ⟨rfl, fun _ h => absurd h List.not_mem_nil, rfl⟩

theorem holds_ofBytes (bs : Bytes) (fault : Option IoFault) :
    (ofBytes bs fault).Holds bs fault := by
  cases bs with
  | nil => exact holds_nil fault
  | cons b bs => exact ⟨List.append_nil _, by simp [ofBytes, ofPieces], rfl⟩

theorem Holds.prepend {f : Feed} {bs piece : Bytes} {fault : Option IoFault} (h : f.Holds bs fault)
    (hne : piece ≠ []) : (f.prepend piece).Holds (piece ++ bs) fault where
  flatten := congrArg (piece ++ ·) h.flatten
  ne_nil := List.forall_mem_cons.2 ⟨hne, h.ne_nil⟩
  fault := h.fault

end Feed

namespace ByteReader

/-- What a read of at most `n` bytes may find where `bs` are still to come, and then the end or the
fault. `Rest` is about the reader after it. -/
inductive Handed {ρ : Type u} (Rest : ρ → Bytes → Prop) (fault : Option IoFault) (n : Nat) :
    Bytes → Except IoFault Bytes × ρ → Prop
  | piece {t : ρ} {b : UInt8} {piece rest : Bytes} (hl : (b :: piece).length ≤ n)
    (h : Rest t rest) : Handed Rest fault n (b :: piece ++ rest) (.ok (b :: piece), t)
  | again {t : ρ} {bs : Bytes} {e : IoFault} (he : e.isInterrupted = true) (h : Rest t bs) :
    Handed Rest fault n bs (.error e, t)
  | stop {t : ρ} (hf : fault = none) (h : Rest t []) : Handed Rest fault n [] (.ok [], t)
  | fail {t : ρ} {e : IoFault} (hf : fault = some e) (he : e.isInterrupted = false)
    (h : Rest t []) : Handed Rest fault n [] (.error e, t)

/-- However it is read, `r` hands out `bs`, then comes to its end or to the fault that stops it for
good. -/
def HandsOut {ρ : Type u} [ByteReader ρ] (fault : Option IoFault) (r : ρ) (bs : Bytes) : Prop :=
  ∃ Rest : ρ → Bytes → Prop, Rest r bs ∧
    ∀ n r bs, 0 < n → Rest r bs → Handed Rest fault n bs (read n r)

section HandsOut
variable {ρ : Type u} [ByteReader ρ] {fault : Option IoFault} {n : Nat} {r : ρ} {bs : Bytes}

omit [ByteReader ρ] in
theorem Handed.mono {Rest Rest' : ρ → Bytes → Prop} (hr : ∀ t bs, Rest t bs → Rest' t bs)
    {answer : Except IoFault Bytes × ρ} (h : Handed Rest fault n bs answer) :
    Handed Rest' fault n bs answer := by
  cases h with
  | piece hl h => exact .piece hl (hr _ _ h)
  | again he h => exact .again he (hr _ _ h)
  | stop hf h => exact .stop hf (hr _ _ h)
  | fail hf he h => exact .fail hf he (hr _ _ h)

theorem HandsOut.handed (h : HandsOut fault r bs) (hn : 0 < n) :
    Handed (HandsOut fault) fault n bs (read n r) := by
  obtain ⟨Rest, hr, hstep⟩ := h
  exact (hstep n r bs hn hr).mono fun t bs ht => ⟨Rest, ht, hstep⟩

variable [FiniteReader ρ]

/-- All that is read, at most `n` bytes at a time. -/
theorem HandsOut.holds_contents (hn : 0 < n) (h : HandsOut fault r bs) :
    (contents n r).Holds bs fault := by
  fun_induction contents n r generalizing bs with
  | case1 r t hr =>
    have hh := h.handed hn
    rw [hr] at hh
    cases hh with
    | stop hf => exact hf ▸ Feed.holds_nil none
  | case2 r b piece t hr ih =>
    have hh := h.handed hn
    rw [hr] at hh
    cases hh with
    | piece hl h => exact (ih h).prepend (List.cons_ne_nil b piece)
  | case3 r e t hr he ih =>
    have hh := h.handed hn
    rw [hr] at hh
    cases hh with
    | again _ h => exact ih h
    | fail _ he' => simp [he] at he'
  | case4 r e t hr he =>
    have hh := h.handed hn
    rw [hr] at hh
    cases hh with
    | again he' => simp [he] at he'
    | fail hf => exact hf ▸ Feed.holds_nil (some e)

/-- What is taken from the front is not handed out again, and nothing else is lost. -/
theorem HandsOut.takeHead (h : HandsOut fault r bs) (hc : n ≤ bs.length ∨ fault = none) :
    ∃ t, takeHead n r = (bs.take n, none, t) ∧ HandsOut fault t (bs.drop n) := by
  fun_induction ByteReader.takeHead n r generalizing bs with
  | case1 r => exact ⟨r, rfl, h⟩
  | case2 n r hn t hr =>
    have hh := h.handed (Nat.pos_of_ne_zero hn)
    rw [hr] at hh
    cases hh with
    | stop _ h => exact ⟨t, by simp, by simpa using h⟩
  | case3 n r hn b piece t hr ih =>
    have hh := h.handed (Nat.pos_of_ne_zero hn)
    rw [hr] at hh
    cases hh with
    | @piece _ _ _ rest hl h =>
      have hc : n - (b :: piece).length ≤ rest.length ∨ fault = none := by
        refine hc.imp_left fun hc => ?_
        rw [List.length_append] at hc
        omega
      obtain ⟨u, hu, hrest⟩ := ih h hc
      refine ⟨u, ?_, ?_⟩
      · rw [hu, List.take_append, List.take_of_length_le hl]
        rfl
      · rwa [List.drop_append, List.drop_of_length_le hl, List.nil_append]
  | case4 n r hn e t hr he ih =>
    have hh := h.handed (Nat.pos_of_ne_zero hn)
    rw [hr] at hh
    cases hh with
    | again _ h => exact ih h hc
    | fail _ he' => simp [he] at he'
  | case5 n r hn e t hr he =>
    have hh := h.handed (Nat.pos_of_ne_zero hn)
    rw [hr] at hh
    cases hh with
    | again he' => simp [he] at he'
    | fail hf => simp [hf, hn] at hc

/-- A fault that comes before the bytes that are wanted is told, with the bytes before it. -/
theorem HandsOut.takeHead_of_fault {e : IoFault} (h : HandsOut (some e) r bs)
    (hl : bs.length < n) : ∃ t, ByteReader.takeHead n r = (bs, some e, t) := by
  fun_induction ByteReader.takeHead n r generalizing bs with
  | case1 r => exact absurd hl (Nat.not_lt_zero _)
  | case2 n r hn t hr =>
    have hh := h.handed (Nat.pos_of_ne_zero hn)
    rw [hr] at hh
    cases hh with
    | stop hf => cases hf
  | case3 n r hn b piece t hr ih =>
    have hh := h.handed (Nat.pos_of_ne_zero hn)
    rw [hr] at hh
    cases hh with
    | @piece _ _ _ rest _ h =>
      have hrest : rest.length < n - (b :: piece).length := by
        rw [List.length_append] at hl
        omega
      obtain ⟨u, hu⟩ := ih h hrest
      exact ⟨u, by rw [hu]; rfl⟩
  | case4 n r hn e' t hr he ih =>
    have hh := h.handed (Nat.pos_of_ne_zero hn)
    rw [hr] at hh
    cases hh with
    | again _ h => exact ih h hl
    | fail _ he' => simp [he] at he'
  | case5 n r hn e' t hr he =>
    have hh := h.handed (Nat.pos_of_ne_zero hn)
    rw [hr] at hh
    cases hh with
    | again he' => simp [he] at he'
    | fail hf => exact ⟨t, by rw [hf]⟩

end HandsOut
end ByteReader

namespace Feed
open ByteReader
variable {f : Feed} {bs : Bytes} {fault : Option IoFault}

theorem Holds.handed {n : Nat} (hn : 0 < n) (h : f.Holds bs fault) :
    Handed (fun g bs => g.Holds bs fault) (fault.map IoFault.forGood) n bs
      (ByteReader.read n f) := by
  obtain ⟨m, rfl⟩ : ∃ m, n = m + 1 := ⟨n - 1, by omega⟩
  obtain ⟨pieces, fault'⟩ := f
  obtain ⟨rfl, hne, hf⟩ := h
  simp only at hf hne
  subst hf
  match pieces, hne with
  | [], _ =>
    cases fault' with
    | none => exact .stop rfl (holds_nil none)
    | some e => exact .fail rfl e.isInterrupted_forGood (holds_nil (some e))
  | [] :: rest, hne => exact absurd rfl (hne [] List.mem_cons_self)
  | (b :: piece) :: rest, hne =>
    have hrest : ∀ p ∈ rest, p ≠ [] := fun p hp => hne p (List.mem_cons_of_mem _ hp)
    have hl : (b :: piece.take m).length ≤ m + 1 := by
      rw [List.length_cons, List.length_take]
      omega
    rw [read_piece, ← flatten_piecesAfter b piece rest m]
    exact .piece hl ⟨rfl, ne_nil_of_piecesAfter hrest, rfl⟩

/-- A feed hands out what it holds. -/
theorem Holds.handsOut (h : f.Holds bs fault) :
    HandsOut (fault.map IoFault.forGood) f bs :=
  ⟨fun g bs => g.Holds bs fault, h, fun _ _ _ hn hg => hg.handed hn⟩

end Feed
end PullStreams
