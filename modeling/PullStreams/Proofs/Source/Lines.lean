import PullStreams.Proofs.Transport
import PullStreams.Source.Lines

namespace PullStreams
open ByteReader

namespace Line

theorem takeLine_append (line xs ys : Bytes) :
    takeLine line (xs ++ ys) =
      match takeLine line xs with
      | (true, line, rest) => (true, line, rest ++ ys)
      | (false, line, _) => takeLine line ys := by
  induction xs generalizing line with
  | nil => rfl
  | cons b xs ih =>
    rw [List.cons_append, takeLine, takeLine]
    by_cases hb : b = lf
    · rw [if_pos hb, if_pos hb]
    · rw [if_neg hb, if_neg hb, ih]

theorem takeLine_of_no_lf {text : Bytes} (h : lf ∉ text) (line : Bytes) :
    takeLine line text = (false, text.reverse ++ line, []) := by
  induction text generalizing line with
  | nil => rfl
  | cons b text ih =>
    obtain ⟨hb, ht⟩ := not_or.1 (mt List.mem_cons.2 h)
    rw [takeLine, if_neg (Ne.symm hb), ih ht]
    simp

theorem takeLine_of_lf {text : Bytes} (h : lf ∉ text) (line rest : Bytes) :
    takeLine line (text ++ lf :: rest) = (true, lf :: (text.reverse ++ line), rest) := by
  rw [takeLine_append, takeLine_of_no_lf h]
  simp [takeLine]

/-- A line without line end loses nothing. -/
theorem strip_of_lf {text : Bytes} (h : cr ∉ text) : strip (lf :: text.reverse) = text.reverse := by
  have hhead : text.reverse.head? ≠ some cr := by
    intro hc
    exact h (List.mem_reverse.1 (List.mem_of_mem_head? hc))
  have hlf : strip.dropHead lf (lf :: text.reverse) = text.reverse := if_pos rfl
  have hcr : strip.dropHead cr text.reverse = text.reverse := if_neg hhead
  rw [strip, hlf, hcr]

section Read
variable {ρ : Type u} [ByteReader ρ] [FiniteReader ρ] {r s t : ρ}
  {line out buffer rest bytes bs : Bytes} {fault : Option IoFault}

/-- The bytes that are in the buffer or come from the reader. -/
def Ahead (buffer : Bytes) (r : ρ) (bytes : Bytes) (fault : Option IoFault) (t : ρ) : Prop :=
  ∃ bs, Gives bufferSize true r bs fault t ∧ bytes = buffer ++ bs

theorem read_of_taken (h : takeLine line buffer = (true, out, rest)) :
    read line buffer r = (.ok out, rest, r) := by
  rw [read, h]

/-- A buffer without line feed is only moved to the line. -/
theorem read_of_no_lf (h : takeLine line buffer = (false, out, rest)) :
    read line buffer r = read out [] r := by
  rw [read, h, read, takeLine]

theorem read_of_end (hr : ByteReader.read bufferSize r = (.ok [], t)) :
    read line [] r = (.ok line, [], t) := by
  rw [read, takeLine]
  simp only
  split <;> simp_all

theorem read_of_piece {b : UInt8} (hr : ByteReader.read bufferSize r = (.ok (b :: bs), s)) :
    read line [] r = read line (b :: bs) s := by
  rw [read, takeLine]
  simp only
  split <;> simp_all

theorem read_of_error {e : IoFault} (hr : ByteReader.read bufferSize r = (.error e, s)) :
    read line [] r = if e.isInterrupted then read line [] s else (.error e, [], s) := by
  rw [read, takeLine]
  simp only
  split
  · simp_all
  · simp_all
  · split <;> simp_all

/-- A line that ends in a line feed, wherever the reader breaks off its pieces. -/
theorem read_of_line (h : Ahead buffer r bytes fault t)
    (hl : takeLine line bytes = (true, out, rest)) :
    ∃ s buffer', read line buffer r = (.ok out, buffer', s) ∧ Ahead buffer' s rest fault t := by
  obtain ⟨bs, hg, rfl⟩ := h
  -- What is in the buffer is looked at first, and the reader is asked only from an empty one.
  have hbuffer {r' : ρ} {line' buffer' bs' : Bytes} (hg' : Gives bufferSize true r' bs' fault t)
      (hl' : takeLine line' (buffer' ++ bs') = (true, out, rest))
      (ih : ∀ line, takeLine line bs' = (true, out, rest) → ∃ s buffer',
        read line [] r' = (.ok out, buffer', s) ∧ Ahead buffer' s rest fault t) :
      ∃ s buffer'', read line' buffer' r' = (.ok out, buffer'', s) ∧
        Ahead buffer'' s rest fault t := by
    rw [takeLine_append] at hl'
    match htb : takeLine line' buffer' with
    | (true, out', rest') =>
      simp only [htb, Prod.mk.injEq, true_and] at hl'
      obtain ⟨rfl, rfl⟩ := hl'
      exact ⟨r', rest', read_of_taken htb, bs', hg', rfl⟩
    | (false, out', rest') =>
      simp only [htb] at hl'
      rw [read_of_no_lf htb]
      exact ih out' hl'
  refine hbuffer hg hl ?_
  clear hl
  induction hg with
  | stop | fail => simp [takeLine]
  | again hr h he _ ih =>
    intro line hl
    rw [read_of_error h, if_pos he]
    exact ih hbuffer line hl
  | @piece r s t b piece bs fault h rest ih =>
    intro line hl
    rw [read_of_piece h]
    exact hbuffer rest hl (ih hbuffer)

/-- What stands after the last line feed, or the fault that comes before one. -/
theorem read_of_rest (h : Ahead buffer r bytes fault t)
    (hl : takeLine line bytes = (false, out, rest)) :
    read line buffer r = (fault.elim (.ok out) .error, [], t) := by
  obtain ⟨bs, hg, rfl⟩ := h
  rw [takeLine_append] at hl
  match htb : takeLine line buffer with
  | (true, out', rest') => simp [htb] at hl
  | (false, out', rest') =>
    simp only [htb] at hl
    rw [read_of_no_lf htb]
    clear htb
    induction hg generalizing out' with
    | stop h =>
      obtain ⟨rfl, -⟩ : out' = out ∧ rest = [] := by simpa [takeLine] using hl
      exact read_of_end h
    | fail h he =>
      rw [read_of_error h, if_neg (by simpa using he)]
      rfl
    | again hr h he _ ih =>
      rw [read_of_error h, if_pos he]
      exact ih _ hl
    | @piece r s t b piece bs fault h _ ih =>
      rw [takeLine_append] at hl
      match hp : takeLine out' (b :: piece) with
      | (true, _, _) => simp [hp] at hl
      | (false, out'', _) =>
        simp only [hp] at hl
        rw [read_of_piece h, read_of_no_lf hp]
        exact ih _ hl

end Read
end Line

namespace LineSource

variable {ρ : Type u} [ByteReader ρ] [FiniteReader ρ] {s : LineSource ρ} {bytes rest : Bytes}
  {fault : Option IoFault} {t : ρ}

/-- The source goes on, and has the bytes still ahead. -/
structure Holds (s : LineSource ρ) (bytes : Bytes) (fault : Option IoFault) (t : ρ) : Prop where
  isOpen : s.isOpen = true
  isLive : s.stopped = none
  ahead : Line.Ahead s.buffer s.reader bytes fault t

omit [FiniteReader ρ] in
theorem holds_ofReader {r : ρ} (h : ByteReader.Gives ByteReader.bufferSize true r bytes fault t) :
    (ofReader r).Holds bytes fault t :=
  ⟨rfl, rfl, bytes, h, rfl⟩

/-- An advance makes a text of the line that it has read, or stops at it. -/
theorem advance_of_read {out buffer : Bytes} {r : ρ} (hopen : s.isOpen = true)
    (hlive : s.stopped = none) (hread : Line.read [] s.buffer s.reader = (.ok out, buffer, r))
    (hne : out ≠ []) :
    s.advance =
      match Utf8.decode (Line.strip out).reverse with
      | .ok text =>
        (true, { s with buffer, reader := r, linesRead := s.linesRead + 1, slot := some text })
      | .error e =>
        (false, { s with
          buffer, reader := r, linesRead := s.linesRead + 1, slot := none
          stopped := some (.decode (s.linesRead + 1) e) }) := by
  obtain ⟨b, line, rfl⟩ := List.exists_cons_of_ne_nil hne
  cases hd : Utf8.decode (Line.strip (b :: line)).reverse <;>
    simp [advance, hopen, hlive, hread, hd]

theorem advance_of_fault {e : IoFault} {buffer : Bytes} {r : ρ} (hopen : s.isOpen = true)
    (hlive : s.stopped = none) (hread : Line.read [] s.buffer s.reader = (.error e, buffer, r)) :
    s.advance = (false, { s with buffer, reader := r, slot := none, stopped := some (.io e) }) := by
  simp [advance, hopen, hlive, hread]

theorem linesRead_of_advance {s t : LineSource ρ} (h : Source.advance s = (true, t)) :
    t.linesRead = s.linesRead + 1 := by
  have ha : Advanced s (true, t) := h ▸ advanced_advance s
  cases ha with
  | item => rfl

theorem advance_of_lf {line : Bytes} {text : String} (h : s.Holds (line ++ Line.lf :: rest) fault t)
    (hlf : Line.lf ∉ line) (hcr : Line.cr ∉ line) (ht : Utf8.decode line = .ok text) :
    ∃ s', Source.advance s = (true, s') ∧ Source.current s' = text ∧ s'.Holds rest fault t := by
  have hl := Line.takeLine_of_lf hlf [] rest
  rw [List.append_nil] at hl
  obtain ⟨r, buffer, hread, hahead⟩ := Line.read_of_line h.ahead hl
  refine ⟨{ s with buffer, reader := r, linesRead := s.linesRead + 1, slot := some text }, ?_, rfl,
    h.isOpen, h.isLive, hahead⟩
  show s.advance = _
  rw [advance_of_read h.isOpen h.isLive hread (List.cons_ne_nil _ _), Line.strip_of_lf hcr,
    List.reverse_reverse, ht]

theorem advance_of_end (h : s.Holds [] none t) :
    ∃ s', Source.advance s = (false, s') ∧ Source.error s' = some .ended := by
  have hread : Line.read [] s.buffer s.reader = (.ok [], [], t) := Line.read_of_rest h.ahead rfl
  refine ⟨{ s with buffer := [], reader := t, slot := none, stopped := some .ended }, ?_, rfl⟩
  show s.advance = _
  simp [advance, h.isOpen, h.isLive, hread]

end LineSource
end PullStreams
