import PullStreams.Source
import PullStreams.ByteReader
import PullStreams.Csv.Row
import PullStreams.Csv.Fault

namespace PullStreams.Csv

/-- Bytes on their way from a reader to rows. `position` is where the next row starts. -/
structure RowReader (ρ : Type u) where
  reader : ρ
  buffer : Bytes := []
  position : Position := .start
  hasRead : Bool := false
  /-- Nothing more will be read. -/
  isOver : Bool := false

namespace RowReader
variable {ρ : Type u}

def byteOrderMark : Bytes := [0xEF, 0xBB, 0xBF]

def passed (p : Position) (b : UInt8) : Position :=
  { p with byte := p.byte + 1, line := p.line + if b = lf then 1 else 0 }

def scan (sep : Separator) (s : Scanner) (p : Position) :
    Bytes → (List Bytes ⊕ Scanner) × Position × Bytes
  | [] => (.inr s, p, [])
  | b :: rest =>
    match s.step sep b with
    | some s => scan sep s (passed p b) rest
    | none => (.inl s.row, passed p b, rest)

/-- Takes a chunk into the empty buffer. A byte order mark is dropped if it opens the first chunk;
a first chunk of nothing else leaves the buffer empty, which is the end of the input. -/
def receive (r : RowReader ρ) (reader : ρ) (chunk : Bytes) : RowReader ρ :=
  if !r.hasRead && byteOrderMark.isPrefixOf chunk then
    { r with
      reader, hasRead := true
      buffer := chunk.drop 3
      position := { r.position with byte := r.position.byte + 3 } }
  else { r with reader, hasRead := true, buffer := chunk }

theorem reader_receive (r : RowReader ρ) (reader : ρ) (chunk : Bytes) :
    (r.receive reader chunk).reader = reader := by
  unfold receive
  split <;> rfl

/-- A byte order mark may be missing from the buffer. -/
theorem buffer_receive (r : RowReader ρ) (reader : ρ) (chunk : Bytes) :
    (r.receive reader chunk).buffer = chunk ∨
      chunk = byteOrderMark ++ (r.receive reader chunk).buffer := by
  unfold receive
  split
  · rename_i h
    have hp : byteOrderMark <+: chunk :=
      List.isPrefixOf_iff_prefix.1 (Bool.and_eq_true_iff.1 h).2
    exact .inr (List.prefix_iff_eq_append.1 hp).symm
  · exact .inl rfl

/-- Where the scanner gets by a buffer in which no row ends. -/
theorem run_of_scan {sep : Separator} {s t : Scanner} {p q : Position} {buffer rest : Bytes}
    (h : scan sep s p buffer = (.inr t, q, rest)) : s.run sep buffer = some t := by
  induction buffer generalizing s p with
  | nil =>
    obtain ⟨hs, -⟩ := Prod.mk.inj h
    exact congrArg some (Sum.inr.inj hs)
  | cons b bs ih =>
    cases hb : s.step sep b with
    | none => simp [scan, hb] at h
    | some u =>
      rw [Scanner.run_cons hb]
      exact ih (by simpa [scan, hb] using h)

/-- A row takes a byte, or was begun before. -/
theorem length_of_scan {sep : Separator} {s : Scanner} {p q : Position} {buffer rest : Bytes}
    {x : List Bytes ⊕ Scanner} (h : scan sep s p buffer = (x, q, rest)) :
    (∀ row, x = .inl row → rest.length < buffer.length) ∧
      (∀ t, x = .inr t → rest = [] ∧ (buffer = [] → t = s)) := by
  induction buffer generalizing s p with
  | nil =>
    simp only [scan, Prod.mk.injEq] at h
    obtain ⟨rfl, _, rfl⟩ := h
    simp
  | cons b bs ih =>
    unfold scan at h
    split at h
    · have := ih h
      refine ⟨fun row hx => ?_, fun t hx => ⟨(this.2 t hx).1, by simp⟩⟩
      have := this.1 row hx
      simp only [List.length_cons]
      omega
    · simp only [Prod.mk.injEq] at h
      obtain ⟨rfl, _, rfl⟩ := h
      simp

theorem length_buffer_receive_le (r : RowReader ρ) (reader : ρ) (chunk : Bytes) :
    (r.receive reader chunk).buffer.length ≤ chunk.length := by
  unfold receive
  split <;> simp

section Finite
variable [ByteReader ρ]

/-- After a read of bytes in which no row ends, the row goes on: from the scanner and the reader in
`p` to those in `q`. -/
def GoesOn (sep : Separator) (q p : Scanner × ρ) : Prop :=
  ∃ chunk bs, ByteReader.read ByteReader.bufferSize p.2 = (.ok chunk, q.2) ∧ bs ≠ [] ∧
    (bs = chunk ∨ chunk = byteOrderMark ++ bs) ∧ p.1.run sep bs = some q.1

/-- No row of a reader of the type goes on for ever. -/
class FiniteRows (sep : Separator) (ρ : Type u) [ByteReader ρ] : Prop where
  wf : WellFounded fun q p : Scanner × ρ => GoesOn sep q p

instance {sep : Separator} [FiniteReader ρ] : FiniteRows sep ρ where
  wf := by
    refine Subrelation.wf (fun {q p} h => ?_)
      (InvImage.wf (fun p => ByteReader.left p.2) Nat.lt_wfRel.wf)
    obtain ⟨chunk, bs, hr, hne, hchunk, -⟩ := h
    have hpos : 0 < chunk.length := by
      rcases hchunk with rfl | rfl
      · exact List.length_pos_iff.2 hne
      · simp [byteOrderMark]
    have hleft := ByteReader.left_of_read_ok hr
    show ByteReader.left q.2 < ByteReader.left p.2
    omega

structure Pending (sep : Separator) (ρ : Type u) where
  scanner : Scanner
  buffer : Bytes
  reader : ρ

def Pending.phase {sep : Separator} (p : Pending sep ρ) : Nat × Scanner × ρ :=
  (p.scanner.run sep p.buffer).elim (0, p.scanner, p.reader) (1, ·, p.reader)

instance {sep : Separator} [FiniteRows sep ρ] : WellFoundedRelation (Pending sep ρ) :=
  invImage Pending.phase (Prod.lex Nat.lt_wfRel ⟨GoesOn sep, FiniteRows.wf⟩)

theorem Pending.rel_of_read {sep : Separator} [FiniteRows sep ρ] {s s' : Scanner}
    {buffer chunk bs : Bytes} {r t : ρ} (hs : s.run sep buffer = some s')
    (hr : ByteReader.read ByteReader.bufferSize r = (.ok chunk, t)) (hne : bs ≠ [])
    (hchunk : bs = chunk ∨ chunk = byteOrderMark ++ bs) :
    WellFoundedRelation.rel (⟨s', bs, t⟩ : Pending sep ρ) ⟨s, buffer, r⟩ := by
  show Prod.Lex _ _ (Pending.phase ⟨s', bs, t⟩) (Pending.phase ⟨s, buffer, r⟩)
  simp only [Pending.phase, hs, Option.elim_some]
  cases hrun : s'.run sep bs with
  | none => exact .left _ _ Nat.zero_lt_one
  | some s'' => exact .right _ ⟨chunk, bs, hr, hne, hchunk, hrun⟩

end Finite

def readFrom {ρ : Type u} [ByteReader ρ] (sep : Separator) [FiniteRows sep ρ] (s : Scanner)
    (r : RowReader ρ) : Except IoFault (Option (List Bytes)) × RowReader ρ :=
  match _hs : scan sep s r.position r.buffer with
  | (.inl row, position, buffer) => (.ok (some row), { r with position, buffer })
  | (.inr s, position, _) =>
    match _h : ByteReader.read ByteReader.bufferSize r.reader with
    | (.ok [], reader) => (.ok s.atEnd, { r with reader, position, buffer := [] })
    | (.ok (b :: bs), reader) =>
      let r := { r with position }.receive reader (b :: bs)
      if _hb : r.buffer.isEmpty then (.ok s.atEnd, r) else readFrom sep s r
    | (.error e, reader) => (.error e, { r with reader, position, buffer := [], isOver := true })
termination_by (⟨s, r.buffer, r.reader⟩ : Pending sep ρ)
decreasing_by
  rw [reader_receive]
  exact Pending.rel_of_read (run_of_scan _hs) _h (by simpa using _hb) (buffer_receive _ _ _)

variable [ByteReader ρ]

/-- The next row with the position where it starts. -/
def next (sep : Separator) [FiniteRows sep ρ] (r : RowReader ρ) :
    Except IoFault (Option (Position × List Bytes)) × RowReader ρ :=
  if r.isOver then (.ok none, r)
  else
    match readFrom sep {} r with
    | (.ok (some row), s) =>
      (.ok (some (r.position, row)),
        { s with position := { s.position with record := s.position.record + 1 } })
    | (.ok none, s) => (.ok none, { s with isOver := true })
    | (.error e, s) => (.error e, s)

section Left
variable [FiniteReader ρ]

noncomputable def left (r : RowReader ρ) : Nat := r.buffer.length + ByteReader.left r.reader

theorem left_of_readFrom {sep : Separator} {s : Scanner} {r t : RowReader ρ} {row : List Bytes}
    (h : readFrom sep s r = (.ok (some row), t)) :
    t.left < r.left ∨ s.mode ≠ .startRow ∧ t.left ≤ r.left := by
  fun_induction readFrom sep s r with
  | case1 s r row' position buffer hs =>
    simp only [Prod.mk.injEq, Except.ok.injEq] at h
    have := (length_of_scan hs).1 row' rfl
    simp only [left, ← h.2]
    exact .inl (by omega)
  | case2 s r s' position x hs reader hr =>
    simp only [Prod.mk.injEq, Except.ok.injEq] at h
    have hb := ByteReader.left_of_read_ok hr
    have hc := ((length_of_scan hs).2 s' rfl).2
    simp only [left, ← h.2, List.length_nil] at *
    cases hbuf : r.buffer with
    | nil =>
      rw [hc hbuf] at h
      refine .inr ⟨fun hm => ?_, by simp; omega⟩
      simp [Scanner.atEnd, hm] at h
    | cons b bs => exact .inl (by simp; omega)
  | case3 s r s' position x hs b bs reader hr r' he =>
    simp only [Prod.mk.injEq, Except.ok.injEq] at h
    have hb := ByteReader.left_of_read_ok hr
    have hc := (length_of_scan hs).2 s' rfl |>.2
    have hr' : r'.buffer = [] ∧ r'.reader = reader :=
      ⟨by simpa using he, reader_receive _ _ _⟩
    simp only [left, ← h.2, hr', List.length_nil, List.length_cons] at *
    exact .inl (by omega)
  | case4 s r s' position x hs b bs reader hr r' he ih =>
    have hb := ByteReader.left_of_read_ok hr
    have hc := length_buffer_receive_le { r with position } reader (b :: bs)
    have hreader := reader_receive { r with position } reader (b :: bs)
    have := ih h
    have hlt : t.left ≤ (b :: bs).length + ByteReader.left reader := by
      simp only [left, r'] at *
      rw [hreader] at this
      omega
    cases hbuf : r.buffer with
    | nil =>
      have hs' : s' = s := ((length_of_scan hs).2 s' rfl).2 hbuf
      simp only [left, r'] at *
      rw [hreader] at this
      subst hs'
      rcases this with h | h
      · exact .inl (by omega)
      · exact .inr ⟨h.1, by omega⟩
    | cons c cs => exact .inl (by simp only [left, hbuf, List.length_cons] at *; omega)
  | case5 => simp at h

theorem left_of_next {sep : Separator} {r t : RowReader ρ} {row : Position × List Bytes}
    (h : next sep r = (.ok (some row), t)) : t.left < r.left := by
  unfold next at h
  split at h
  · simp at h
  · split at h
    · rename_i row' s hs
      simp only [Prod.mk.injEq] at h
      have := left_of_readFrom hs
      simp only [left, ← h.2] at *
      rcases this with h | h
      · exact h
      · exact absurd rfl h.1
    · simp at h
    · simp at h

end Left
end RowReader
end PullStreams.Csv
