import PullStreams.Source
import PullStreams.ByteReader

namespace PullStreams

namespace Line

def lf : UInt8 := 10

def cr : UInt8 := 13

/-- Moves bytes to the front of `line`, which is kept last byte first, up to and with a line feed.
-/
def takeLine (line : Bytes) : Bytes → Bool × Bytes × Bytes
  | [] => (false, line, [])
  | b :: rest => if b = lf then (true, b :: line, rest) else takeLine (b :: line) rest

theorem length_takeLine (line buffer : Bytes) :
    (takeLine line buffer).2.1.length + (takeLine line buffer).2.2.length =
      line.length + buffer.length := by
  fun_induction takeLine line buffer <;> simp_all <;> omega

theorem lf_notMem_of_takeLine {line buffer : Bytes} (h : (takeLine line buffer).1 = false) :
    lf ∉ buffer := by
  fun_induction takeLine line buffer with
  | case1 => exact List.not_mem_nil
  | case2 => cases h
  | case3 line b rest hb ih => exact List.not_mem_cons_of_ne_of_not_mem (Ne.symm hb) (ih h)

section Finite
variable {ρ : Type u} [ByteReader ρ]

/-- After a read that gives no line feed, or none of its bytes yet, the line goes on in `t`. -/
def GoesOn (t s : ρ) : Prop :=
  (∃ bs, ByteReader.read ByteReader.bufferSize s = (.ok bs, t) ∧ bs ≠ [] ∧ lf ∉ bs) ∨
    ∃ e, ByteReader.read ByteReader.bufferSize s = (.error e, t) ∧ e.isInterrupted = true

/-- No line of a reader of the type goes on for ever. -/
class FiniteLines (ρ : Type u) [ByteReader ρ] : Prop where
  wf : WellFounded fun t s : ρ => GoesOn t s

instance [FiniteReader ρ] : FiniteLines ρ where
  wf := by
    refine Subrelation.wf (fun {t s} h => ?_)
      (InvImage.wf (fun r => (ByteReader.left r, ByteReader.waits r))
        (Prod.lex Nat.lt_wfRel Nat.lt_wfRel).wf)
    obtain ⟨bs, hr, hne, -⟩ | ⟨e, hr, he⟩ := h
    · have hpos := List.length_pos_iff.2 hne
      have hleft := ByteReader.left_of_read_ok hr
      exact .left _ _ (show ByteReader.left t < ByteReader.left s by omega)
    · have := ByteReader.waits_of_interrupted hr he
      rcases Nat.lt_or_eq_of_le (ByteReader.left_of_read_error hr) with h | h
      · exact .left _ _ h
      · rw [InvImage, h]
        exact .right _ this

structure Pending (ρ : Type u) where
  buffer : Bytes
  reader : ρ

instance [FiniteLines ρ] : WellFoundedRelation (Pending ρ) :=
  invImage (fun p : Pending ρ => (if lf ∈ p.buffer then 0 else 1, p.reader))
    (Prod.lex Nat.lt_wfRel ⟨_, FiniteLines.wf⟩)

theorem Pending.rel_of_goesOn [FiniteLines ρ] {buffer buffer' : Bytes} {s t : ρ}
    (hlf : lf ∉ buffer) (h : lf ∈ buffer' ∨ GoesOn t s) :
    WellFoundedRelation.rel (⟨buffer', t⟩ : Pending ρ) ⟨buffer, s⟩ := by
  show Prod.Lex _ _ (if lf ∈ buffer' then 0 else 1, t) (if lf ∈ buffer then 0 else 1, s)
  rw [if_neg hlf]
  split
  · exact .left _ _ Nat.zero_lt_one
  · exact .right _ (h.resolve_left ‹_›)

end Finite

/-- The next line with its line feed, last byte first, and what is left in the buffer. The line is
empty at the end of the input. -/
def read {ρ : Type u} [ByteReader ρ] [FiniteLines ρ] (line buffer : Bytes) (r : ρ) :
    Except IoFault Bytes × Bytes × ρ :=
  match _hl : takeLine line buffer with
  | (true, line, rest) => (.ok line, rest, r)
  | (false, line, _) =>
    match _h : ByteReader.read ByteReader.bufferSize r with
    | (.ok [], r) => (.ok line, [], r)
    | (.ok (b :: bs), r) => read line (b :: bs) r
    | (.error e, r) =>
      match _he : e.isInterrupted with
      | true => read line [] r
      | false => (.error e, [], r)
termination_by (⟨buffer, r⟩ : Pending ρ)
decreasing_by
  · refine Pending.rel_of_goesOn (lf_notMem_of_takeLine (by rw [_hl])) ?_
    by_cases hlf : lf ∈ b :: bs
    · exact .inl hlf
    · exact .inr (.inl ⟨_, _h, List.cons_ne_nil _ _, hlf⟩)
  · exact Pending.rel_of_goesOn (lf_notMem_of_takeLine (by rw [_hl])) (.inr (.inr ⟨_, _h, _he⟩))

/-- The bytes read come from the line so far, the buffer and the reader. -/
theorem left_of_read {ρ : Type u} [ByteReader ρ] [FiniteReader ρ] {line buffer out rest : Bytes}
    {s t : ρ} (h : read line buffer s = (.ok out, rest, t)) :
    out.length + rest.length + ByteReader.left t ≤
      line.length + buffer.length + ByteReader.left s := by
  fun_induction read line buffer s with
  | case1 line buffer s line' rest' hl =>
    have := length_takeLine line buffer
    simp_all
  | case2 line buffer s line' x hl u hu =>
    have := length_takeLine line buffer
    have := ByteReader.left_of_read_ok hu
    simp_all
    omega
  | case3 line buffer s line' x hl b bs u hu ih =>
    have := length_takeLine line buffer
    have := ByteReader.left_of_read_ok hu
    have := ih h
    simp_all
    omega
  | case4 line buffer s line' x hl e u hu he ih =>
    have := length_takeLine line buffer
    have := ByteReader.left_of_read_error hu
    have := ih h
    simp_all
    omega
  | case5 => simp at h

/-- Removes one line feed and then at most one carriage return from the end of a line. -/
def strip (line : Bytes) : Bytes := dropHead cr (dropHead lf line)
where
  dropHead (b : UInt8) (line : Bytes) : Bytes := if line.head? = some b then line.tail else line

end Line

/-- Lines of text. The first that is not UTF-8 ends the source, and is counted. -/
structure LineSource (ρ : Type u) where
  reader : ρ
  buffer : Bytes := []
  isOpen : Bool := true
  linesRead : Nat := 0
  slot : Option String := none
  stopped : Option StreamFault := none

namespace LineSource
variable {ρ : Type u}

def ofReader (reader : ρ) : LineSource ρ := { reader }

variable [ByteReader ρ]

def advance [Line.FiniteLines ρ] (s : LineSource ρ) : Bool × LineSource ρ :=
  if s.stopped.isSome || !s.isOpen then (false, { s with slot := none })
  else
    match Line.read [] s.buffer s.reader with
    | (.ok [], buffer, reader) =>
      (false, { s with buffer, reader, slot := none, stopped := some .ended })
    | (.ok line, buffer, reader) =>
      let linesRead := s.linesRead + 1
      match Utf8.decode (Line.strip line).reverse with
      | .ok text => (true, { s with buffer, reader, linesRead, slot := some text })
      | .error e =>
        (false,
          { s with buffer, reader, linesRead, slot := none, stopped := some (.decode linesRead e) })
    | (.error e, buffer, reader) =>
      (false, { s with buffer, reader, slot := none, stopped := some (.io e) })

instance [Line.FiniteLines ρ] : Source (LineSource ρ) String where
  advance := advance
  current s := s.slot.getD default
  error s := s.stopped
  close s := (.ok (), if s.isOpen then { s with isOpen := false, slot := none } else s)

section Advance
variable [Line.FiniteLines ρ]

inductive Advanced (s : LineSource ρ) : Bool × LineSource ρ → Prop
  | done (h : s.stopped.isSome = true ∨ s.isOpen = false) :
    Advanced s (false, { s with slot := none })
  | ended {buffer : Bytes} {r : ρ} (ho : s.isOpen = true) (hs : s.stopped = none)
    (hr : Line.read [] s.buffer s.reader = (.ok [], buffer, r)) :
    Advanced s (false, { s with buffer, reader := r, slot := none, stopped := some .ended })
  | item {line buffer : Bytes} {r : ρ} {text : String} (ho : s.isOpen = true)
    (hs : s.stopped = none) (hr : Line.read [] s.buffer s.reader = (.ok line, buffer, r))
    (hne : line ≠ []) (hd : Utf8.decode (Line.strip line).reverse = .ok text) :
    Advanced s
      (true, { s with buffer, reader := r, linesRead := s.linesRead + 1, slot := some text })
  | refused {line buffer : Bytes} {r : ρ} {e : Utf8Fault} (ho : s.isOpen = true)
    (hs : s.stopped = none) (hr : Line.read [] s.buffer s.reader = (.ok line, buffer, r))
    (hne : line ≠ []) (hd : Utf8.decode (Line.strip line).reverse = .error e) :
    Advanced s
      (false, { s with buffer, reader := r, linesRead := s.linesRead + 1, slot := none,
                       stopped := some (.decode (s.linesRead + 1) e) })
  | failed {buffer : Bytes} {r : ρ} {e : IoFault} (ho : s.isOpen = true) (hs : s.stopped = none)
    (hr : Line.read [] s.buffer s.reader = (.error e, buffer, r)) :
    Advanced s (false, { s with buffer, reader := r, slot := none, stopped := some (.io e) })

theorem advance_of_over {s : LineSource ρ} (h : s.stopped.isSome = true ∨ s.isOpen = false) :
    s.advance = (false, { s with slot := none }) := by
  rw [advance, if_pos (by simpa using h)]

theorem advanced_advance (s : LineSource ρ) : Advanced s s.advance := by
  by_cases hover : s.stopped.isSome = true ∨ s.isOpen = false
  · rw [advance_of_over hover]
    exact .done hover
  · obtain ⟨hs, ho⟩ : s.stopped = none ∧ s.isOpen = true := by simpa using hover
    rw [advance, if_neg (by simpa using hover)]
    match hr : Line.read [] s.buffer s.reader with
    | (.error e, buffer, r) => exact .failed ho hs hr
    | (.ok [], buffer, r) => exact .ended ho hs hr
    | (.ok (b :: line), buffer, r) =>
      simp only
      cases hd : Utf8.decode (Line.strip (b :: line)).reverse with
      | ok text => exact .item ho hs hr (List.cons_ne_nil _ _) hd
      | error e => exact .refused ho hs hr (List.cons_ne_nil _ _) hd

end Advance

variable [FiniteReader ρ]

noncomputable def left (s : LineSource ρ) : Nat := s.buffer.length + ByteReader.left s.reader

instance : FiniteSource (LineSource ρ) :=
  .of_size left fun s t h => by
    have ha : Advanced s (true, t) := h ▸ advanced_advance s
    cases ha with
    | item _ _ hr hne =>
      have := Line.left_of_read hr
      have := List.length_pos_iff.2 hne
      simp only [left, List.length_nil] at *
      omega

end LineSource
end PullStreams
