import Mathlib
import PullStreams.Csv.Decode
import PullStreams.Csv.Encode
import PullStreams.Csv.Format
import PullStreams.Proofs.Csv.Rows

namespace PullStreams.Csv

structure Record where
  id : UInt32
  name : String

namespace Record

def toValue (r : Record) : Value := .record [("id", .int r.id.toNat), ("name", .text r.name)]

def shape : Shape :=
  .record "struct Record" [⟨"id", .integer (.unsigned 32) "u32", .required⟩,
    ⟨"name", .text, .required⟩]

def header : List String := ["id", "name"]

def texts (r : Record) : List String := [toString r.id.toNat, r.name]

theorem fieldsOf_toValue (r : Record) : fieldsOf r.toValue = .ok (r.texts.map Utf8.bytesOf) := rfl

theorem headerOf_toValue (r : Record) : headerOf r.toValue = .ok header := rfl

theorem encode_false (sep : Separator) (r : Record) :
    encode sep false r.toValue = .ok (encodeRow sep (r.texts.map Utf8.bytesOf)) := by
  rw [encode, fieldsOf_toValue]
  rfl

theorem encode_true (sep : Separator) (r : Record) :
    encode sep true r.toValue = .ok (encodeRow sep (header.map Utf8.bytesOf) ++
      encodeRow sep (r.texts.map Utf8.bytesOf)) := by
  rw [encode, fieldsOf_toValue, headerOf_toValue]
  rfl

theorem readInteger_id (r : Record) :
    readInteger (.unsigned 32) (toString r.id.toNat) = .ok r.id.toNat := by
  have hid : (Text.IntegerRange.unsigned 32).contains r.id.toNat = true := by
    have hlt := r.id.toNat_lt
    have hmax : (Text.IntegerRange.unsigned 32).max = 2 ^ 32 - 1 := rfl
    have hmin : (Text.IntegerRange.unsigned 32).min = 0 := rfl
    simp only [Text.IntegerRange.contains, Bool.and_eq_true, decide_eq_true_eq]
    omega
  -- It is read as an integer, whose text is that of the number by definition.
  have hread := readInteger_toString rfl hid
  exact hread

/-- With the header as without, the number is read from the first text. -/
theorem decode_of_id {text : String} {v : Value}
    (h : readScalar (.integer (.unsigned 32) "u32") 0 text = .ok v) (name : String) :
    decode shape none [text, name] = .ok (.record [("id", v), ("name", .text name)]) ∧
      decode shape (some header) [text, name] =
        .ok (.record [("id", v), ("name", .text name)]) := by
  have hname : readScalar .text 1 name = .ok (.text name) := rfl
  constructor
  · simp only [decode, shape, readFieldsInOrder, readField, h, hname]
    rfl
  · simp [decode, shape, header, readNamed, readField, h, hname, completeFields, List.lookup, bind,
      Except.bind, pure, Except.pure]

theorem decode_texts (r : Record) {names : Option (List String)}
    (h : names = none ∨ names = some header) : decode shape names r.texts = .ok r.toValue := by
  have hid : readScalar (.integer (.unsigned 32) "u32") 0 (toString r.id.toNat) =
      .ok (.int r.id.toNat) := by
    rw [readScalar, readInteger_id]
  obtain ⟨hplain, hheader⟩ := decode_of_id hid r.name
  rcases h with rfl | rfl
  · exact hplain
  · exact hheader

end Record

/-- Records that ask for no header are rows of themselves. -/
theorem exists_rows (options : Options) {names : Option (List String)}
    (hnames : names = none ∨ names = some Record.header) (records : List Record) {n : Nat}
    (hn : (options.hasHeaders && decide (n = 0)) = false) :
    ∃ bytes, (rowsFormat options encode).Records n (records.map Record.toValue) bytes ∧
      RowsOf options.separator (decode Record.shape) names 2 (records.map Record.toValue)
        bytes := by
  induction records generalizing n with
  | nil => exact ⟨[], .nil n, .nil⟩
  | cons r records ih =>
    obtain ⟨bytes, hr, hrows⟩ := ih (n := n + 1) (by simp)
    have hrecord : (rowsFormat options encode).record n r.toValue =
        .ok (encodeRow options.separator (r.texts.map Utf8.bytesOf)) := by
      simp only [rowsFormat, hn, Record.encode_false]
      rfl
    exact ⟨_, .cons hrecord hr, .cons rfl (r.decode_texts hnames) hrows⟩

/-- The number that a row of a record begins with is not taken for a byte order mark. -/
theorem Record.not_byteOrderMark (sep : Separator) (r : Record) (bs : Bytes) :
    ¬ RowReader.byteOrderMark <+: encodeRow sep (r.texts.map Utf8.bytesOf) ++ bs := by
  obtain ⟨b, digits, hid, hb⟩ := Text.exists_bytesOf_toString r.id.toNat
  obtain ⟨c, tail, hrow, hc⟩ := exists_encodeRow_eq_cons sep b digits [Utf8.bytesOf r.name]
  have hlt : c < 0xEF := by
    rcases hc with rfl | rfl
    · exact UInt8.lt_of_le_of_lt hb (by decide)
    · decide
  rw [texts, List.map_cons, hid, List.map_singleton, hrow]
  exact RowReader.not_byteOrderMark_of_lt hlt _

theorem Record.not_byteOrderMark_header (sep : Separator) (bs : Bytes) :
    ¬ RowReader.byteOrderMark <+: encodeRow sep (header.map Utf8.bytesOf) ++ bs := by
  have hheader : header.map Utf8.bytesOf = [[0x69, 0x64], [0x6E, 0x61, 0x6D, 0x65]] := by cbv
  obtain ⟨c, tail, hrow, hc⟩ :=
    exists_encodeRow_eq_cons sep 0x69 [0x64] [[0x6E, 0x61, 0x6D, 0x65]]
  have hlt : c < 0xEF := by
    rcases hc with rfl | rfl <;> decide
  rw [hheader, hrow]
  exact RowReader.not_byteOrderMark_of_lt hlt _

/-- What is written of records, and that they are read back from it. -/
theorem exists_records (options : Options) (records : List Record) :
    ∃ bytes, (rowsFormat options encode).Records 0 (records.map Record.toValue) bytes ∧
      ∀ {ρ : Type u} [ByteReader ρ] [FiniteReader ρ] (r t : ρ),
        ByteReader.Gives ByteReader.bufferSize false r bytes none t →
          ∃ u, Source.Drains (RowsSource.ofReader options.hasHeaders r :
              RowsSource ρ options.separator (decode Record.shape))
              (records.map Record.toValue) u ∧ Source.error u = some .ended := by
  cases records with
  | nil => exact ⟨[], .nil 0, fun _ _ hg => RowsSource.drains_ofReader_nil _ hg⟩
  | cons first records =>
    cases hheaders : options.hasHeaders with
    | false =>
      have hnames : (none : Option (List String)) = none ∨ none = some Record.header := .inl rfl
      obtain ⟨more, hr, hrows⟩ := exists_rows options hnames records (n := 1) (by simp)
      have hrecord : (rowsFormat options encode).record 0 first.toValue =
          .ok (encodeRow options.separator (first.texts.map Utf8.bytesOf)) := by
        simp only [rowsFormat, hheaders, Bool.false_and, Record.encode_false]
        rfl
      have hall := RowsOf.cons rfl (first.decode_texts hnames) hrows
      refine ⟨_, .cons hrecord hr, fun r t hg => ?_⟩
      have hholds := RowReader.holds_ofReader hg (first.not_byteOrderMark _ _)
      exact RowsSource.drains_of_rows Nat.two_pos hall ⟨rfl, rfl, hholds⟩ rfl
    | true =>
      have hnames : some Record.header = none ∨ some Record.header = some Record.header :=
        .inr rfl
      obtain ⟨more, hr, hrows⟩ := exists_rows options hnames records (n := 1) (by simp)
      have hrecord : (rowsFormat options encode).record 0 first.toValue =
          .ok (encodeRow options.separator (Record.header.map Utf8.bytesOf) ++
            encodeRow options.separator (first.texts.map Utf8.bytesOf)) := by
        simp only [rowsFormat, hheaders, decide_true, Bool.and_self, Record.encode_true]
        rfl
      have hall := RowsOf.cons rfl (first.decode_texts hnames) hrows
      refine ⟨_, .cons hrecord hr, fun r t hg => ?_⟩
      rw [List.append_assoc] at hg
      obtain ⟨s, hs, hholds, hn, hwidth⟩ := RowsSource.exists_ofReader_header (by decide) hg
        (Record.not_byteOrderMark_header _ _)
      rw [hs]
      exact RowsSource.drains_of_rows Nat.two_pos (hn ▸ hall) hholds (by rw [hwidth]; rfl)

/-- Rendered as rows into a buffer, the records are all counted, and are what comes out of the
buffer again with the same options, in whatever pieces the bytes are read. -/
theorem records_round_trip (options : Options) (records : List Record) :
    ∃ s w, (rowsFormat options encode).render (ListSource.ofList (records.map Record.toValue))
        ({} : Buffer) = (.ok records.length, s, w) ∧
      ∀ {ρ : Type u} [ByteReader ρ] [FiniteReader ρ] (r t : ρ),
        ByteReader.Gives ByteReader.bufferSize false r w.bytes none t →
          ∃ u, Source.Drains (RowsSource.ofReader options.hasHeaders r :
              RowsSource ρ options.separator (decode Record.shape))
              (records.map Record.toValue) u ∧ Source.error u = some .ended := by
  obtain ⟨bytes, hr, hread⟩ := exists_records.{u} options records
  obtain ⟨s, hrender⟩ := Format.render_list hr rfl rfl
  rw [List.length_map] at hrender
  exact ⟨s, ⟨bytes⟩, hrender, hread⟩

example :
    let (result, _, w) := (rowsFormat { separator := .tab } encode).render
      (ListSource.ofList [Record.toValue ⟨7, "a\tb"⟩]) ({} : Buffer)
    result = .ok 1 ∧ w.bytes = Utf8.bytesOf "id\tname\n7\t\"a\tb\"\n" := by
  cbv

/-- A name with a separator in it, one with quotes and a line end, and one of nothing. -/
theorem records_round_trip_quoted :
    let records : List Record := [⟨1, "a,b"⟩, ⟨4294967295, "\"c\"\r\n"⟩, ⟨0, ""⟩]
    ∃ s w, (rowsFormat {} encode).render (ListSource.ofList (records.map Record.toValue))
        ({} : Buffer) = (.ok 3, s, w) ∧
      ∃ u, Source.Drains (RowsSource.ofReader true (Feed.ofBytes w.bytes none) :
          RowsSource Feed .comma (decode Record.shape)) (records.map Record.toValue) u ∧
        Source.error u = some .ended := by
  intro records
  obtain ⟨s, w, hrender, hread⟩ := records_round_trip {} records
  have hg := Feed.gives_ofPieces (n := ByteReader.bufferSize) (by decide) false [w.bytes] none
  rw [List.flatten_singleton] at hg
  exact ⟨s, w, hrender, hread _ _ hg⟩

end PullStreams.Csv
