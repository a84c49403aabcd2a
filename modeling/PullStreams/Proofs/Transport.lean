import PullStreams.ByteReader
import PullStreams.Proofs.Source.Stored
import PullStreams.Render

namespace PullStreams

structure Buffer where
  bytes : Bytes := []

namespace Buffer

instance : ByteWriter Buffer where
  write bs w := (.ok bs.length, ⟨w.bytes ++ bs⟩)
  flush w := (.ok (), w)

instance : PatientWriter Buffer where
  wf := ⟨fun w => ⟨w, fun _ ⟨_, _, h, _⟩ => by simp [ByteWriter.write] at h⟩⟩

theorem writeAll_eq (bs : Bytes) (w : Buffer) :
    ByteWriter.writeAll bs w = (.ok (), ⟨w.bytes ++ bs⟩) := by
  unfold ByteWriter.writeAll
  cases bs with
  | nil => simp [ByteWriter.drain]
  | cons b rest =>
    have h : ByteWriter.write (b :: rest) w = (.ok (rest.length + 1), ⟨w.bytes ++ b :: rest⟩) := rfl
    rw [ByteWriter.drain_of_some h, List.drop_length, ByteWriter.drain]

end Buffer

namespace Format
open Source
variable {σ : Type u} {α : Type v} [Source σ α] {f : Format α} {n : Nat} {xs : List α} {bs : Bytes}

/-- The records of the items, of which the first is number `n`, are `bs` one after the other. -/
inductive Records (f : Format α) : Nat → List α → Bytes → Prop
  | nil (n : Nat) : Records f n [] []
  | cons {n : Nat} {a : α} {xs : List α} {bs more : Bytes} (h : f.record n a = .ok bs)
    (rest : Records f (n + 1) xs more) : Records f n (a :: xs) (bs ++ more)

theorem put_buffer (n : Nat) (bs : Bytes) (w : Buffer) :
    put n bs w = (.ok (), ⟨w.bytes ++ bs⟩) := by
  rw [put, Buffer.writeAll_eq]
  rfl

theorem sweep_buffer [FiniteSource σ] (hr : f.Records n xs bs) {s t : σ} (hd : Drains s xs t)
    (w : Buffer) :
    sweep f.visit (n, w) s = (.ok (n + xs.length, ⟨w.bytes ++ bs⟩), t) := by
  induction hd generalizing n bs w with
  | stop h =>
    cases hr
    rw [sweep_of_stop h, List.append_nil]
    rfl
  | @item s t u xs h _ ih =>
    cases hr with
    | @cons _ _ _ first more hfirst rest =>
      have hv : f.visit (n, w) t = .ok (n + 1, ⟨w.bytes ++ first⟩) := by
        simp [visit, hfirst, put_buffer]
      rw [sweep_of_item h, hv]
      simp only [ih rest, List.append_assoc, List.length_cons, Nat.add_assoc, Nat.add_comm 1]

/-- A buffer receives all records of a source that ends well. -/
theorem render_buffer [FiniteSource σ] (hr : f.Records 0 xs bs) {s t : σ} (hd : Drains s xs t)
    (ht : failure? (error t) = none) :
    f.render s ({} : Buffer) = (.ok xs.length, t, ⟨f.opening ++ bs ++ f.closing⟩) := by
  have hs := sweep_buffer hr hd ⟨f.opening⟩
  rw [Nat.zero_add] at hs
  have hstart : f.start ({} : Buffer) = .ok (0, ⟨f.opening⟩) := by
    rw [start, put_buffer]
    rfl
  rw [render_of_sweepsTo hstart (Source.sweepsTo_of_eq hs)]
  simp only [conclude, ht, finish, put_buffer]
  rfl

/-- A format without opening and closing leaves the records of a list in the buffer. -/
theorem render_list [Inhabited α] (hr : f.Records 0 xs bs) (ho : f.opening = [])
    (hc : f.closing = []) :
    ∃ s, f.render (ListSource.ofList xs) ({} : Buffer) = (.ok xs.length, s, ⟨bs⟩) := by
  obtain ⟨s, hd, he⟩ := ListSource.denotes xs .ended
  have hrender := render_buffer hr hd he
  rw [ho, hc, List.nil_append, List.append_nil] at hrender
  exact ⟨s, hrender⟩

end Format

namespace ByteReader
variable {ρ : Type u} [ByteReader ρ]

/-- Reads of at most `n` bytes go past the bytes to the end, or to the fault that stops them.
Interrupted reads count for nothing where whoever reads repeats them. -/
inductive Gives (n : Nat) (repeats : Bool) :
    ρ → Bytes → Option IoFault → ρ → Prop
  | stop {r t : ρ} (h : read n r = (.ok [], t)) : Gives n repeats r [] none t
  | fail {r t : ρ} {e : IoFault} (h : read n r = (.error e, t))
    (he : (repeats && e.isInterrupted) = false) : Gives n repeats r [] (some e) t
  | again {r s t : ρ} {e : IoFault} {bs : Bytes} {fault : Option IoFault} (hr : repeats = true)
    (h : read n r = (.error e, s)) (he : e.isInterrupted = true)
    (rest : Gives n repeats s bs fault t) : Gives n repeats r bs fault t
  | piece {r s t : ρ} {b : UInt8} {piece bs : Bytes} {fault : Option IoFault}
    (h : read n r = (.ok (b :: piece), s)) (rest : Gives n repeats s bs fault t) :
    Gives n repeats r (b :: piece ++ bs) fault t

def firstPiece (n : Nat) (r : ρ) : Bytes :=
  match read n r with
  | (.ok piece, _) => piece
  | (.error _, _) => []

theorem firstPiece_of_read {n : Nat} {r s : ρ} {piece : Bytes} (h : read n r = (.ok piece, s)) :
    firstPiece n r = piece := by
  rw [firstPiece, h]

/-- The first read gets some of the bytes if there are any. -/
theorem Gives.exists_piece {n : Nat} {r t : ρ} {bytes : Bytes} {fault : Option IoFault}
    (h : Gives n false r bytes fault t) (hne : bytes ≠ []) :
    ∃ b piece bs s, read n r = (.ok (b :: piece), s) ∧ Gives n false s bs fault t ∧
      bytes = b :: piece ++ bs := by
  cases h with
  | stop | fail => exact absurd rfl hne
  | again hr => cases hr
  | piece h rest => exact ⟨_, _, _, _, h, rest, rfl⟩

end ByteReader

namespace Feed
open ByteReader
variable {n : Nat} {repeats : Bool}

/-- The pieces after a read of `n` bytes and one of a first piece, of which `piece` comes after the
first byte. -/
def piecesAfter (n : Nat) (piece : Bytes) (rest : List Bytes) : List Bytes :=
  if (piece.drop n).isEmpty then rest else piece.drop n :: rest

section PiecesAfter
variable (b : UInt8) (piece : Bytes) (rest : List Bytes)

theorem read_piece (fault : Option IoFault) :
    ByteReader.read (n + 1) (⟨(b :: piece) :: rest, fault⟩ : Feed) =
      (.ok (b :: piece.take n), ⟨piecesAfter n piece rest, fault⟩) := by
  cases fault <;> rfl

theorem flatten_piecesAfter (n : Nat) :
    b :: piece.take n ++ (piecesAfter n piece rest).flatten = ((b :: piece) :: rest).flatten := by
  unfold piecesAfter
  split
  · rename_i hd
    have hd : piece.drop n = [] := by simpa using hd
    rw [List.flatten_cons, List.take_of_length_le (List.drop_eq_nil_iff.1 hd)]
  · rw [List.flatten_cons, List.flatten_cons, List.cons_append, List.cons_append,
      ← List.append_assoc, List.take_append_drop]

variable {b piece rest}

theorem ne_nil_of_piecesAfter (hne : ∀ p ∈ rest, p ≠ []) :
    ∀ p ∈ piecesAfter n piece rest, p ≠ [] := by
  intro p hp
  unfold piecesAfter at hp
  split at hp
  · exact hne p hp
  · rename_i hd
    rcases List.mem_cons.1 hp with rfl | hp
    · simpa using hd
    · exact hne p hp

end PiecesAfter

theorem gives (hn : 0 < n) (pieces : List Bytes) (fault : Option IoFault)
    (hne : ∀ piece ∈ pieces, piece ≠ []) :
    Gives n repeats (⟨pieces, fault⟩ : Feed) pieces.flatten (fault.map IoFault.forGood)
      ⟨[], fault⟩ := by
  -- A piece may take more than one read, so the induction is on all bytes that are left.
  induction hl : pieces.flatten.length using Nat.strongRecOn generalizing pieces with
  | _ left ih =>
    subst hl
    match pieces, hne with
    | [], _ =>
      cases fault with
      | none => exact .stop rfl
      | some e => exact .fail rfl (by simp)
    | [] :: rest, hne => exact absurd rfl (hne [] List.mem_cons_self)
    | (b :: piece) :: rest, hne =>
      obtain ⟨m, rfl⟩ : ∃ m, n = m + 1 := ⟨n - 1, by omega⟩
      have hrest : ∀ p ∈ rest, p ≠ [] := fun p hp => hne p (List.mem_cons_of_mem _ hp)
      have hlen := congrArg List.length (flatten_piecesAfter b piece rest m)
      rw [← flatten_piecesAfter b piece rest m]
      refine .piece (read_piece b piece rest fault)
        (ih _ ?_ _ (ne_nil_of_piecesAfter hrest) rfl)
      simp only [List.length_append, List.length_cons] at hlen ⊢
      omega

theorem gives_ofPieces (hn : 0 < n) (repeats : Bool) (pieces : List Bytes)
    (fault : Option IoFault) :
    Gives n repeats (ofPieces pieces fault) pieces.flatten (fault.map IoFault.forGood)
      ⟨[], fault⟩ := by
  have hne : ∀ piece ∈ pieces.filter (!·.isEmpty), piece ≠ [] := by
    intro piece hp
    simpa using (List.mem_filter.1 hp).2
  rw [← List.flatten_filter_not_isEmpty]
  exact gives hn _ fault hne

theorem gives_ofBytes (hn : 0 < n) (repeats : Bool) (bytes : Bytes) (fault : Option IoFault) :
    Gives n repeats (ofBytes bytes fault) bytes (fault.map IoFault.forGood) ⟨[], fault⟩ := by
  have hg := gives_ofPieces hn repeats [bytes] fault
  rwa [List.flatten_singleton] at hg

end Feed
end PullStreams
