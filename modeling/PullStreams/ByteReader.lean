import PullStreams.Fault

namespace PullStreams

/-- Hands out bytes, at most as many as are asked for; none means the end. -/
class ByteReader (ρ : Type u) where
  read : Nat → ρ → Except IoFault Bytes × ρ

/-- Every reader of the type has a bound on the bytes that it will hand out, and on how often it is
interrupted before it answers. -/
class FiniteReader (ρ : Type u) [ByteReader ρ] : Prop where
  bounded : ∃ left waits : ρ → Nat, ∀ n s t,
    (∀ bs, ByteReader.read n s = (.ok bs, t) → left t + bs.length ≤ left s) ∧
    (∀ e, ByteReader.read n s = (.error e, t) →
      left t ≤ left s ∧ (e.isInterrupted = true → waits t < waits s))

namespace ByteReader

section Bounds
variable {ρ : Type u} [ByteReader ρ] [FiniteReader ρ]

noncomputable def left (r : ρ) : Nat := (FiniteReader.bounded (ρ := ρ)).choose r

noncomputable def waits (r : ρ) : Nat := (FiniteReader.bounded (ρ := ρ)).choose_spec.choose r

theorem left_of_read_ok {n : Nat} {s t : ρ} {bs : Bytes} (h : read n s = (.ok bs, t)) :
    left t + bs.length ≤ left s :=
  ((FiniteReader.bounded (ρ := ρ)).choose_spec.choose_spec n s t).1 bs h

theorem left_of_read_error {n : Nat} {s t : ρ} {e : IoFault} (h : read n s = (.error e, t)) :
    left t ≤ left s :=
  (((FiniteReader.bounded (ρ := ρ)).choose_spec.choose_spec n s t).2 e h).1

theorem waits_of_interrupted {n : Nat} {s t : ρ} {e : IoFault} (h : read n s = (.error e, t))
    (he : e.isInterrupted = true) : waits t < waits s :=
  (((FiniteReader.bounded (ρ := ρ)).choose_spec.choose_spec n s t).2 e h).2 he

end Bounds

def bufferSize : Nat := 8192

end ByteReader

/-- All that a reader has to give: pieces, of which a read gets one or a part of one, then its end
or the fault that stops it. -/
structure Feed where
  pieces : List Bytes := []
  fault : Option IoFault := none

namespace Feed

def bytes (f : Feed) : Bytes := f.pieces.flatten

/-- A piece of no bytes would be an end. -/
def ofPieces (pieces : List Bytes) (fault : Option IoFault) : Feed :=
  ⟨pieces.filter (!·.isEmpty), fault⟩

def ofBytes (data : Bytes) (fault : Option IoFault) : Feed := ofPieces [data] fault

/-- Bytes that fail for good at an offset, if one is given that lies within them. -/
def failing (data : Bytes) : Option (Nat × IoFault) → Feed
  | some (offset, e) =>
    if offset ≤ data.length then ofBytes (data.take offset) (some e) else ofBytes data none
  | none => ofBytes data none

/-- How many bytes are left after each piece, the last first. -/
def remainders (f : Feed) : List Nat :=
  (f.pieces.tail.foldr (fun piece ns => (piece.length + ns.headD 0) :: ns) []).reverse

def prepend (piece : Bytes) (f : Feed) : Feed := { f with pieces := piece :: f.pieces }

def read (n : Nat) (f : Feed) : Except IoFault Bytes × Feed :=
  match f.pieces, f.fault with
  | [], some e => (.error e.forGood, f)
  | [], none => (.ok [], f)
  | piece :: rest, _ =>
    (.ok (piece.take n),
      { f with pieces := if (piece.drop n).isEmpty then rest else piece.drop n :: rest })

theorem length_of_read_ok {n : Nat} {f g : Feed} {bs : Bytes} (h : f.read n = (.ok bs, g)) :
    g.bytes.length + bs.length ≤ f.bytes.length := by
  unfold read at h
  split at h
  · simp at h
  · simp only [Prod.mk.injEq, Except.ok.injEq] at h
    simp [← h.1, ← h.2, bytes]
  · rename_i piece rest hp
    simp only [Prod.mk.injEq, Except.ok.injEq] at h
    have hl : (piece.take n).length + (piece.drop n).length = piece.length := by
      rw [← List.length_append, List.take_append_drop]
    simp only [← h.1, ← h.2, bytes, hp]
    split
    · rename_i hd
      simp_all
      omega
    · simp only [List.flatten_cons, List.length_append]
      omega

theorem eq_of_read_error {n : Nat} {f g : Feed} {e : IoFault} (h : f.read n = (.error e, g)) :
    g = f ∧ e.isInterrupted = false := by
  unfold read at h
  split at h
  · simp only [Prod.mk.injEq, Except.error.injEq] at h
    exact ⟨h.2.symm, by simp [← h.1]⟩
  · simp at h
  · simp at h

instance : ByteReader Feed where
  read := read

instance : FiniteReader Feed where
  bounded := ⟨fun f => f.bytes.length, fun _ => 0, fun _ _ _ =>
    ⟨fun _ h => length_of_read_ok h, fun e h => by
      have := eq_of_read_error h
      simp [this]⟩⟩

end Feed

namespace ByteReader

def contents {ρ : Type u} [ByteReader ρ] [FiniteReader ρ] (size : Nat) (r : ρ) : Feed :=
  match _h : read size r with
  | (.ok [], _) => {}
  | (.ok (b :: bs), r) => (contents size r).prepend (b :: bs)
  | (.error e, r) =>
    match _he : e.isInterrupted with
    | true => contents size r
    | false => { fault := some e }
termination_by (left r, waits r)
decreasing_by
  · have := left_of_read_ok _h
    exact .left _ _ (by simp at this; omega)
  · have := waits_of_interrupted _h _he
    rcases Nat.lt_or_eq_of_le (left_of_read_error _h) with h | h
    · exact .left _ _ h
    · rw [h]
      exact .right _ this

/-- Reads `count` bytes, or all if there are fewer, with the fault that stopped it; an interrupted
read is repeated. -/
def takeHead {ρ : Type u} [ByteReader ρ] [FiniteReader ρ] (count : Nat) (r : ρ) :
    Bytes × Option IoFault × ρ :=
  if count = 0 then ([], none, r)
  else
    match _h : read count r with
    | (.ok [], r) => ([], none, r)
    | (.ok (b :: bs), r) =>
      (takeHead (count - (b :: bs).length) r).map ((b :: bs) ++ ·) id
    | (.error e, r) =>
      match _he : e.isInterrupted with
      | true => takeHead count r
      | false => ([], some e, r)
termination_by (left r, waits r)
decreasing_by
  · have := left_of_read_ok _h
    exact .left _ _ (by simp at this; omega)
  · have := waits_of_interrupted _h _he
    rcases Nat.lt_or_eq_of_le (left_of_read_error _h) with h | h
    · exact .left _ _ h
    · rw [h]
      exact .right _ this

end ByteReader

/-- How many bytes whoever reads asks for, read after read. -/
inductive Demand where
  /-- A buffer that is emptied before each read. -/
  | buffer (size : Nat)
  /-- A list that grows as it is filled; a read is for `limit` bytes at most. -/
  | growing (held capacity limit : Nat)

namespace Demand

def list : Demand := .growing 0 0 ByteReader.bufferSize

/-- The first read into a list only probes. -/
def probe : Nat := 32

def capacityFor (held capacity : Nat) : Nat :=
  if held = capacity then max (2 * capacity) (held + probe) else capacity

def size : Demand → Nat
  | .buffer size => size
  | .growing held capacity limit =>
    if capacity = 0 then probe else min (capacityFor held capacity - held) limit

def after (count : Nat) : Demand → Demand
  | .buffer size => .buffer size
  | .growing held capacity limit =>
    if capacity = 0 then .growing count (max 8 count) limit
    else
      let room := min (capacityFor held capacity - held) limit
      .growing (held + count) (capacityFor held capacity)
        (if limit ≤ room && count = room then 2 * limit else limit)

end Demand
end PullStreams
