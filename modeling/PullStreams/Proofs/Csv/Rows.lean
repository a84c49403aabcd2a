import PullStreams.Csv.Decode
import PullStreams.Csv.Source
import PullStreams.Proofs.Csv.Scanner
import PullStreams.Proofs.Text
import PullStreams.Proofs.Transport

namespace PullStreams.Csv
open ByteReader

namespace RowReader
variable {ρ : Type u} {sep : Separator} {s t : Scanner} {p q : Position} {rest : Bytes}
  {row : List Bytes}

theorem scan_append (xs ys : Bytes) :
    scan sep s p (xs ++ ys) =
      match scan sep s p xs with
      | (.inl row, q, rest) => (.inl row, q, rest ++ ys)
      | (.inr s, q, _) => scan sep s q ys := by
  induction xs generalizing s p with
  | nil => rfl
  | cons b xs ih =>
    rw [List.cons_append, scan, scan]
    cases s.step sep b with
    | none => rfl
    | some s => exact ih

theorem scan_of_run {bs : Bytes} (h : s.run sep bs = some t) :
    ∃ q, scan sep s p bs = (.inr t, q, []) := by
  induction bs generalizing s p with
  | nil =>
    obtain rfl := Option.some.inj h
    exact ⟨p, rfl⟩
  | cons b bs ih =>
    cases hb : s.step sep b with
    | none => simp [Scanner.run, hb] at h
    | some u =>
      rw [Scanner.run_cons hb] at h
      obtain ⟨q, hq⟩ := ih (p := passed p b) h
      exact ⟨q, by rw [scan, hb]; exact hq⟩

theorem scan_encodeRow (sep : Separator) {fields : List Bytes} (hne : fields ≠ []) (p : Position)
    (rest : Bytes) :
    ∃ q, scan sep {} p (encodeRow sep fields ++ rest) = (.inl fields, q, rest) := by
  obtain ⟨bs, t, hrow, hrun, hlf, rfl⟩ := Scanner.exists_run_encodeRow sep hne
  obtain ⟨q, hq⟩ := scan_of_run (p := p) hrun
  refine ⟨passed q lf, ?_⟩
  rw [hrow, List.append_assoc, scan_append, hq]
  simp [scan, hlf]

section Reading
variable [ByteReader ρ] [FiniteReader ρ] {r r' : RowReader ρ} {reader u : ρ} {bs bytes : Bytes}
  {x : List Bytes} {fault : Option IoFault}

theorem readFrom_of_row (h : scan sep s r.position r.buffer = (.inl row, q, rest)) :
    readFrom sep s r = (.ok (some row), { r with position := q, buffer := rest }) := by
  rw [readFrom, h]

theorem readFrom_of_end (h : scan sep s r.position r.buffer = (.inr t, q, rest))
    (hr : ByteReader.read bufferSize r.reader = (.ok [], reader)) :
    readFrom sep s r = (.ok t.atEnd, { r with reader, position := q, buffer := [] }) := by
  rw [readFrom, h]
  simp only
  split <;> simp_all

theorem readFrom_of_read (h : scan sep s r.position r.buffer = (.inr t, q, rest)) {b : UInt8}
    (hr : ByteReader.read bufferSize r.reader = (.ok (b :: bs), reader)) :
    readFrom sep s r =
      if ({ r with position := q }.receive reader (b :: bs)).buffer.isEmpty then
        (.ok t.atEnd, { r with position := q }.receive reader (b :: bs))
      else readFrom sep t ({ r with position := q }.receive reader (b :: bs)) := by
  rw [readFrom, h]
  simp only
  split
  · simp_all
  · rename_i b' bs' reader' hr'
    rw [hr] at hr'
    obtain ⟨h1, rfl⟩ := Prod.mk.inj hr'
    obtain ⟨rfl, rfl⟩ := List.cons.inj (Except.ok.inj h1)
    rfl
  · simp_all

omit [ByteReader ρ] [FiniteReader ρ] in
theorem receive_of_not_mark (hm : r.hasRead = true ∨ ¬ byteOrderMark <+: bs) :
    r.receive reader bs = { r with reader, hasRead := true, buffer := bs } := by
  have hmark : (!r.hasRead && byteOrderMark.isPrefixOf bs) = false := by
    rcases hm with hm | hm
    · simp [hm]
    · simp [Bool.eq_false_iff.2 (mt List.isPrefixOf_iff_prefix.1 hm)]
  simp [receive, hmark]

/-- A byte order mark is looked for in the first piece only. -/
theorem readFrom_of_piece (h : scan sep s r.position r.buffer = (.inr t, q, rest)) {b : UInt8}
    (hr : ByteReader.read bufferSize r.reader = (.ok (b :: bs), reader))
    (hm : r.hasRead = true ∨ ¬ byteOrderMark <+: b :: bs) :
    readFrom sep s r =
      readFrom sep t { r with reader, position := q, hasRead := true, buffer := b :: bs } := by
  have hreceive : { r with position := q }.receive reader (b :: bs) =
      { r with reader, position := q, hasRead := true, buffer := b :: bs } :=
    receive_of_not_mark (r := { r with position := q }) hm
  rw [readFrom_of_read h hr, hreceive]
  rfl

/-- Rows are still to come, from the bytes that are in the buffer or come from the reader. No byte
order mark opens them. -/
structure Holds (r : RowReader ρ) (bytes : Bytes) (fault : Option IoFault) (u : ρ) : Prop where
  isOver : r.isOver = false
  ahead : ∃ bs, Gives bufferSize false r.reader bs fault u ∧ bytes = r.buffer ++ bs
  mark : r.hasRead = true ∨ r.buffer = [] ∧ ¬ byteOrderMark <+: bytes

omit [FiniteReader ρ] in
theorem holds_ofReader {r : ρ} (h : Gives bufferSize false r bytes fault u)
    (hm : ¬ byteOrderMark <+: bytes) : ({ reader := r } : RowReader ρ).Holds bytes fault u :=
  ⟨rfl, ⟨bytes, h, rfl⟩, .inr ⟨rfl, hm⟩⟩

theorem exists_readFrom (h : r.Holds bytes fault u)
    (hs : scan sep s r.position bytes = (.inl row, q, rest)) :
    ∃ r', readFrom sep s r = (.ok (some row), r') ∧ r'.Holds rest fault u := by
  obtain ⟨hover, ⟨bs, hg, rfl⟩, hmark⟩ := h
  -- As with lines, what is in the buffer is looked at before the reader is asked.
  have hbuffer {r : RowReader ρ} {s : Scanner} {bs : Bytes}
      (hg : Gives bufferSize false r.reader bs fault u) (hover : r.isOver = false)
      (hmark : r.hasRead = true ∨ r.buffer = [] ∧ ¬ byteOrderMark <+: r.buffer ++ bs)
      (hs : scan sep s r.position (r.buffer ++ bs) = (.inl row, q, rest))
      (ih : ∀ t p x, scan sep s r.position r.buffer = (.inr t, p, x) →
        scan sep t p bs = (.inl row, q, rest) →
          ∃ r', readFrom sep s r = (.ok (some row), r') ∧ r'.Holds rest fault u) :
      ∃ r', readFrom sep s r = (.ok (some row), r') ∧ r'.Holds rest fault u := by
    rw [scan_append] at hs
    match hb : scan sep s r.position r.buffer with
    | (.inr t, p, x) =>
      simp only [hb] at hs
      exact ih t p x hb hs
    | (.inl row', p, rest') =>
      simp only [hb, Prod.mk.injEq, Sum.inl.injEq] at hs
      obtain ⟨rfl, rfl, rfl⟩ := hs
      have hread : r.hasRead = true := hmark.resolve_right fun hm => by simp [hm.1, scan] at hb
      exact ⟨_, readFrom_of_row hb, hover, ⟨bs, hg, rfl⟩, .inl hread⟩
  refine hbuffer hg hover hmark hs ?_
  clear hs
  generalize hreader : r.reader = reader at hg
  induction hg generalizing r s with
  | stop | fail => simp [scan]
  | again hr => cases hr
  | @piece reader reader' u b piece bs fault hread hrest ih =>
    intro t p x hb hs
    have hfirst : r.hasRead = true ∨ ¬ byteOrderMark <+: b :: piece := by
      refine hmark.imp_right fun hm hprefix => hm.2 ?_
      rw [hm.1]
      exact hprefix.trans (List.prefix_append _ _)
    rw [readFrom_of_piece hb (hreader ▸ hread) hfirst]
    exact hbuffer hrest hover (.inl rfl) hs (ih hover (.inl rfl) hbuffer rfl)

theorem next_of_row (hover : r.isOver = false)
    (h : readFrom sep {} r = (.ok (some row), r')) :
    next sep r = (.ok (some (r.position, row)),
      { r' with position := { r'.position with record := r'.position.record + 1 } }) := by
  rw [next, if_neg (by simp [hover]), h]

/-- The next row is the one that the bytes begin with. -/
theorem exists_next {fields : List Bytes} (hne : fields ≠ [])
    (h : r.Holds (encodeRow sep fields ++ rest) fault u) :
    ∃ p r', next sep r = (.ok (some (p, fields)), r') ∧ r'.Holds rest fault u := by
  obtain ⟨q, hq⟩ := scan_encodeRow sep hne r.position rest
  obtain ⟨r', hread, hover, hahead, hmark⟩ := exists_readFrom h hq
  exact ⟨_, _, next_of_row h.isOver hread, hover, hahead, hmark⟩

theorem next_of_end (sep : Separator) (h : r.Holds [] none u) :
    ∃ r', next sep r = (.ok none, r') ∧ r'.isOver = true := by
  obtain ⟨hover, ⟨bs, hg, hbytes⟩, -⟩ := h
  obtain ⟨hbuffer, rfl⟩ := List.nil_eq_append_iff.1 hbytes
  generalize hreader : r.reader = reader at hg
  generalize hempty : ([] : Bytes) = bs at hg
  cases hg with
  | again hr => cases hr
  | piece => cases hempty
  | stop hread =>
    have hscan : scan sep {} r.position r.buffer = (.inr {}, r.position, []) := by
      rw [hbuffer, scan]
    have hend := readFrom_of_end hscan (hreader ▸ hread)
    refine ⟨{ r with reader := u, buffer := [], isOver := true }, ?_, rfl⟩
    rw [next, if_neg (by simp [hover]), hend]
    rfl

/-- A first piece without the byte order mark that may open it. -/
def unmark (piece : Bytes) : Bytes := if byteOrderMark <+: piece then piece.drop 3 else piece

omit [ByteReader ρ] [FiniteReader ρ] in
theorem unmark_ne_nil {piece : Bytes} (hne : piece ≠ []) (h : piece ≠ byteOrderMark) :
    unmark piece ≠ [] := by
  unfold unmark
  split
  · rename_i hmark
    obtain ⟨rest, rfl⟩ := hmark
    intro hrest
    have hrest : rest = [] := hrest
    exact h (by rw [hrest, List.append_nil])
  · exact hne

omit [ByteReader ρ] [FiniteReader ρ] in
theorem exists_receive_first (reader r : ρ) (piece : Bytes) :
    ∃ position, ({ reader := r } : RowReader ρ).receive reader piece =
      { reader, position, buffer := unmark piece, hasRead := true } := by
  by_cases hm : byteOrderMark <+: piece
  · have hmark : byteOrderMark.isPrefixOf piece = true := List.isPrefixOf_iff_prefix.2 hm
    exact ⟨_, by simp [receive, unmark, hm, hmark]; rfl⟩
  · refine ⟨.start, ?_⟩
    rw [receive_of_not_mark (.inr hm), unmark, if_neg hm]

/-- The first row is the one that the bytes begin with once a mark is off the first piece. -/
theorem exists_next_of_first {r : ρ} {b : UInt8} {piece : Bytes} {fields : List Bytes}
    (hr : ByteReader.read bufferSize r = (.ok (b :: piece), reader))
    (hg : Gives bufferSize false reader bs fault u) (hne : unmark (b :: piece) ≠ [])
    (hfields : fields ≠ []) (hbytes : unmark (b :: piece) ++ bs = encodeRow sep fields ++ rest) :
    ∃ p r', next sep ({ reader := r } : RowReader ρ) = (.ok (some (p, fields)), r') ∧
      r'.Holds rest fault u := by
  obtain ⟨position, hreceive⟩ := exists_receive_first reader r (b :: piece)
  obtain ⟨q, hq⟩ := scan_encodeRow sep hfields position rest
  obtain ⟨r', hread, hover, hahead, hmark⟩ := exists_readFrom
    (r := { reader, position, buffer := unmark (b :: piece), hasRead := true })
    ⟨rfl, ⟨bs, hg, hbytes.symm⟩, .inl rfl⟩ hq
  have hfirst : readFrom sep {} ({ reader := r } : RowReader ρ) = (.ok (some fields), r') := by
    rw [readFrom_of_read (r := { reader := r }) rfl hr]
    show (if (({ reader := r } : RowReader ρ).receive reader (b :: piece)).buffer.isEmpty then _
      else readFrom sep {} (({ reader := r } : RowReader ρ).receive reader (b :: piece))) = _
    rw [hreceive, if_neg (by simpa using hne), hread]
  exact ⟨_, _, next_of_row rfl hfirst, hover, hahead, hmark⟩

/-- Nothing is read after a first piece of a mark alone. -/
theorem exists_next_of_mark (sep : Separator) {r : ρ}
    (hr : ByteReader.read bufferSize r = (.ok byteOrderMark, reader)) :
    ∃ r', next sep ({ reader := r } : RowReader ρ) = (.ok none, r') ∧ r'.isOver = true := by
  have hread : readFrom sep {} ({ reader := r } : RowReader ρ) =
      (.ok none, ({ reader := r } : RowReader ρ).receive reader byteOrderMark) :=
    readFrom_of_read (r := { reader := r }) rfl hr
  exact ⟨_, by rw [next, if_neg (by simp), hread], rfl⟩

end Reading

theorem not_byteOrderMark_of_lt {b : UInt8} (h : b < 0xEF) (bs : Bytes) :
    ¬ byteOrderMark <+: b :: bs := by
  intro hprefix
  obtain ⟨rfl, -⟩ := List.cons_prefix_cons.1 hprefix
  exact absurd h (by decide)

theorem byte_not_mem_byteOrderMark (sep : Separator) : sep.byte ∉ byteOrderMark := by
  cases sep <;> decide

/-- A byte order mark that stands before a separator is part of a field without quotes. -/
theorem exists_of_encodeField_mark {sep : Separator} {field more bs : Bytes}
    (h : encodeField sep field ++ sep.byte :: more = byteOrderMark ++ bs) :
    ∃ rest, field = byteOrderMark ++ rest ∧ encodeField sep rest ++ sep.byte :: more = bs := by
  cases hq : needsQuotes sep field with
  | true => simp [encodeField, hq, byteOrderMark, quoteByte] at h
  | false =>
    rw [encodeField, hq, if_neg Bool.false_ne_true] at h
    -- The separator is no byte of the mark, so the mark ends within the field.
    obtain ⟨rest, rfl⟩ : ∃ rest, field = byteOrderMark ++ rest := by
      rcases List.append_eq_append_iff.1 h with ⟨tail, hmark, htail⟩ | ⟨rest, hfield, -⟩
      · cases tail with
        | nil => exact ⟨[], by rw [hmark, List.append_nil, List.append_nil]⟩
        | cons c tail =>
          obtain ⟨rfl, -⟩ := List.cons.inj htail
          exact absurd (by simp [hmark]) (byte_not_mem_byteOrderMark sep)
      · exact ⟨rest, hfield⟩
    have hrest : needsQuotes sep rest = false := by
      simp only [needsQuotes, List.any_append, Bool.or_eq_false_iff] at hq
      exact hq.2
    refine ⟨rest, rfl, ?_⟩
    rw [encodeField, hrest, if_neg Bool.false_ne_true]
    rw [List.append_assoc] at h
    exact List.append_cancel_left h

end RowReader

/-- The digits of a number are never taken for hexadecimal ones. -/
theorem readInteger_toString {range : Text.IntegerRange} (hzero : range.contains 0 = true) {n : Int}
    (hn : range.contains n = true) : readInteger range (toString n) = .ok n := by
  obtain ⟨c, cs, hcs, hdigit, -⟩ := Text.exists_toList_toString_int n
  have hx : ∀ rest, (toString n).toList ≠ '0' :: 'x' :: rest := by
    rintro rest heq
    rw [hcs] at heq
    by_cases h : n < 0
    · simp [h] at heq
    · rw [if_neg h, List.nil_append] at heq
      have hd := hdigit 'x' (by rw [heq]; simp)
      exact absurd hd (by decide)
  unfold readInteger
  split
  · rename_i rest heq
    exact absurd heq (hx rest)
  · exact Text.readInteger_toString hzero hn

theorem textsOf_bytesOf (position : Position) (index : Nat) (texts : List String) :
    textsOf position index (texts.map Utf8.bytesOf) = .ok texts := by
  induction texts generalizing index with
  | nil => rfl
  | cons text texts ih =>
    rw [List.map_cons, textsOf, Utf8.decode_bytesOf]
    simp only [ih]
    rfl

inductive RowsOf {β : Type v} (sep : Separator) (decode : RowDecoder β)
    (names : Option (List String)) (width : Nat) : List β → Bytes → Prop
  | nil : RowsOf sep decode names width [] []
  | cons {b : β} {xs : List β} {texts : List String} {more : Bytes} (hw : texts.length = width)
    (h : decode names texts = .ok b) (rest : RowsOf sep decode names width xs more) :
    RowsOf sep decode names width (b :: xs) (encodeRow sep (texts.map Utf8.bytesOf) ++ more)

namespace RowsSource
variable {ρ : Type u} [ByteReader ρ] [FiniteReader ρ] {β : Type v} [Inhabited β] {sep : Separator}
  {decode : RowDecoder β} {s : RowsSource ρ sep decode} {bytes rest : Bytes}
  {fault : Option IoFault} {u : ρ}

/-- The source goes on, and has the bytes still ahead. -/
structure Holds (s : RowsSource ρ sep decode) (bytes : Bytes) (fault : Option IoFault) (u : ρ) :
    Prop where
  isOpen : s.isOpen = true
  isLive : s.stopped = none
  rows : s.rows.Holds bytes fault u

omit [Inhabited β] in
theorem advance_of_next {texts : List String} {p : Position} {rows : RowReader ρ}
    (ho : s.isOpen = true) (hl : s.stopped = none)
    (hnext : s.rows.next sep = (.ok (some (p, texts.map Utf8.bytesOf)), rows))
    (hwidth : s.width.getD texts.length = texts.length) {b : β}
    (hb : decode s.names texts = .ok b) :
    s.advance = (true, { s with rows, width := some texts.length, slot := some b }) := by
  have hvalue : valueOf decode s.names s.width p (texts.map Utf8.bytesOf) = .ok b := by
    simp only [valueOf, List.length_map, hwidth, textsOf_bytesOf, hb]
    exact if_neg fun h => h rfl
  simp [advance, ho, hl, hnext, hvalue, hwidth]

theorem exists_advance {texts : List String} (hne : texts ≠ [])
    (hs : s.Holds (encodeRow sep (texts.map Utf8.bytesOf) ++ rest) fault u)
    (hwidth : s.width.getD texts.length = texts.length) {b : β}
    (hb : decode s.names texts = .ok b) :
    ∃ t, Source.advance s = (true, t) ∧ Source.current t = b ∧ t.Holds rest fault u ∧
      t.names = s.names ∧ t.width = some texts.length := by
  have hfields : texts.map Utf8.bytesOf ≠ [] := by simpa using hne
  obtain ⟨p, rows, hnext, hrows⟩ := RowReader.exists_next hfields hs.rows
  exact ⟨_, advance_of_next hs.isOpen hs.isLive hnext hwidth hb, rfl,
    ⟨hs.isOpen, hs.isLive, hrows⟩, rfl, rfl⟩

omit [Inhabited β] in
theorem advance_of_next_none {rows : RowReader ρ} (ho : s.isOpen = true) (hl : s.stopped = none)
    (h : s.rows.next sep = (.ok none, rows)) :
    s.advance = (false, { s with rows, slot := none, stopped := some .ended }) := by
  simp [advance, ho, hl, h]

theorem drains_of_rows {width : Nat} (hpos : 0 < width) {xs : List β}
    (h : RowsOf sep decode s.names width xs bytes) (hs : s.Holds bytes none u)
    (hwidth : s.width.getD width = width) :
    ∃ t, Source.Drains s xs t ∧ Source.error t = some .ended := by
  generalize hnames : s.names = names at h
  induction h generalizing s with
  | nil =>
    obtain ⟨rows, hnext, -⟩ := RowReader.next_of_end sep hs.rows
    exact ⟨_, .stop (advance_of_next_none hs.isOpen hs.isLive hnext), rfl⟩
  | @cons b xs texts more hw hb _ ih =>
    subst hw
    have hne : texts ≠ [] := List.length_pos_iff.1 hpos
    obtain ⟨t, ha, rfl, ht, hn, hw⟩ := exists_advance hne hs hwidth (hnames ▸ hb)
    obtain ⟨v, hd, he⟩ := ih ht (by rw [hw]; rfl) (hn.trans hnames)
    exact ⟨v, .item ha hd, he⟩

omit [Inhabited β] in
/-- With headers, the first row names the columns. -/
theorem ofReader_true_of_next {r : ρ} {p : Position} {texts : List String} {rows : RowReader ρ}
    (hnext : RowReader.next sep { reader := r } = (.ok (some (p, texts.map Utf8.bytesOf)), rows)) :
    (ofReader true r : RowsSource ρ sep decode) =
      { rows, names := some texts, width := some texts.length } := by
  simp [ofReader, hnext, textsOf_bytesOf, Except.toOption]

omit [Inhabited β] in
theorem exists_ofReader_header {texts : List String} (hne : texts ≠ []) {r : ρ}
    (h : Gives bufferSize false r (encodeRow sep (texts.map Utf8.bytesOf) ++ rest) fault u)
    (hm : ¬ RowReader.byteOrderMark <+: encodeRow sep (texts.map Utf8.bytesOf) ++ rest) :
    ∃ s : RowsSource ρ sep decode, ofReader true r = s ∧ s.Holds rest fault u ∧
      s.names = some texts ∧ s.width = some texts.length := by
  have hfields : texts.map Utf8.bytesOf ≠ [] := by simpa using hne
  obtain ⟨p, rows, hnext, hrows⟩ := RowReader.exists_next hfields (RowReader.holds_ofReader h hm)
  exact ⟨_, ofReader_true_of_next hnext, ⟨rfl, rfl, hrows⟩, rfl, rfl⟩

/-- With headers, what comes are the rows after the first. -/
theorem drains_ofReader_true {r : ρ} {p : Position} {texts : List String} (hne : texts ≠ [])
    {rows : RowReader ρ} (hnext : RowReader.next sep { reader := r } =
      (.ok (some (p, texts.map Utf8.bytesOf)), rows))
    (hrows : rows.Holds rest none u) {xs : List β}
    (hxs : RowsOf sep decode (some texts) texts.length xs rest) :
    ∃ t, Source.Drains (ofReader true r : RowsSource ρ sep decode) xs t ∧
      Source.error t = some .ended := by
  rw [ofReader_true_of_next hnext]
  exact drains_of_rows (List.length_pos_iff.2 hne) hxs ⟨rfl, rfl, hrows⟩ rfl

/-- Without, the first row comes with the others. -/
theorem drains_ofReader_false {r : ρ} {p : Position} {texts : List String} (hne : texts ≠ [])
    {rows : RowReader ρ} (hnext : RowReader.next sep { reader := r } =
      (.ok (some (p, texts.map Utf8.bytesOf)), rows))
    (hrows : rows.Holds rest none u) {b : β} (hb : decode none texts = .ok b) {xs : List β}
    (hxs : RowsOf sep decode none texts.length xs rest) :
    ∃ t, Source.Drains (ofReader false r : RowsSource ρ sep decode) (b :: xs) t ∧
      Source.error t = some .ended := by
  have ha :=
    advance_of_next (s := (ofReader false r : RowsSource ρ sep decode)) rfl rfl hnext rfl hb
  obtain ⟨t, hd, he⟩ := drains_of_rows (List.length_pos_iff.2 hne)
    (s := ⟨rows, none, some texts.length, true, some b, none⟩) hxs ⟨rfl, rfl, hrows⟩ rfl
  exact ⟨t, .item ha hd, he⟩

/-- Nothing comes where there is no first row. -/
theorem drains_ofReader_of_next_none (hasHeaders : Bool) {r : ρ} {rows : RowReader ρ}
    (hnext : RowReader.next sep { reader := r } = (.ok none, rows)) (hover : rows.isOver = true) :
    ∃ t, Source.Drains (ofReader hasHeaders r : RowsSource ρ sep decode) [] t ∧
      Source.error t = some .ended := by
  cases hasHeaders with
  | false => exact ⟨_, .stop (advance_of_next_none rfl rfl hnext), rfl⟩
  | true =>
    have hof : (ofReader true r : RowsSource ρ sep decode) = { rows, names := some [] } := by
      simp [ofReader, hnext]
    have hagain : rows.next sep = (.ok none, rows) := by
      rw [RowReader.next, if_pos hover]
    rw [hof]
    exact ⟨_, .stop (advance_of_next_none rfl rfl hagain), rfl⟩

/-- Nothing comes of no bytes. -/
theorem drains_ofReader_nil (hasHeaders : Bool) {r : ρ} (h : Gives bufferSize false r [] none u) :
    ∃ t, Source.Drains (ofReader hasHeaders r : RowsSource ρ sep decode) [] t ∧
      Source.error t = some .ended := by
  have hrows := RowReader.holds_ofReader h (by decide)
  obtain ⟨rows, hnext, hover⟩ := RowReader.next_of_end sep hrows
  exact drains_ofReader_of_next_none hasHeaders hnext hover

end RowsSource
end PullStreams.Csv
