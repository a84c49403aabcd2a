import Mathlib
import PullStreams.Csv.Encode
import PullStreams.Csv.Format
import PullStreams.Double.Source
import PullStreams.Double.Writer
import PullStreams.Json.Format
import PullStreams.Proofs.Rendering
import PullStreams.Source.Listed

namespace PullStreams

namespace Json
variable {α : Type u}

def linesLayout (encode : α → Except Fault Bytes) : Layout α where
  encode _ a := (encode a).mapError .json
  join records := records.flatMap (· ++ Utf8.bytesOf "\n")

def arrayLayout (encode : α → Except Fault Bytes) : Layout α where
  opening := Utf8.bytesOf "["
  encode _ a := (encode a).mapError .json
  join records := (Utf8.bytesOf ",").intercalate records
  closing := Utf8.bytesOf "]"

theorem follows_linesFormat (encode : α → Except Fault Bytes) :
    (linesFormat encode).Follows (linesLayout encode) where
  opening := rfl
  closing := rfl
  join_nil := rfl
  record_of_error {n a e} h := by
    cases ha : encode a <;> simp_all [linesLayout, linesFormat]
  record_of_ok {n a bs} h := by
    refine ⟨bs ++ Utf8.bytesOf "\n", ?_, fun records _ => ?_⟩
    · cases ha : encode a <;> simp_all [linesLayout, linesFormat]
    · simp [linesLayout]

theorem intercalate_append_singleton (sep bs : Bytes) (records : List Bytes) :
    sep.intercalate (records ++ [bs]) =
      sep.intercalate records ++ if records.length = 0 then bs else sep ++ bs := by
  induction records with
  | nil => simp [List.intercalate]
  | cons a rest ih =>
    cases rest with
    | nil => simp [List.intercalate]
    | cons b rest =>
      -- With two records or more the first separator stands after the first of them.
      have hcons (later : List Bytes) :
          sep.intercalate (a :: b :: later) = a ++ (sep ++ sep.intercalate (b :: later)) := by
        simp [List.intercalate]
      rw [List.cons_append, List.cons_append, hcons, hcons, ← List.cons_append, ih]
      simp

theorem follows_arrayFormat (encode : α → Except Fault Bytes) :
    (arrayFormat encode).Follows (arrayLayout encode) where
  opening := rfl
  closing := rfl
  join_nil := rfl
  record_of_error {n a e} h := by
    cases ha : encode a <;> simp_all [arrayLayout, arrayFormat]
  record_of_ok {n a bs} h := by
    refine ⟨if n = 0 then bs else Utf8.bytesOf "," ++ bs, ?_, fun records hn => ?_⟩
    · cases ha : encode a <;> simp_all [arrayLayout, arrayFormat]
    · rw [← hn]
      exact intercalate_append_singleton _ bs records

end Json

namespace Csv

/-- The encodings as they are; the first item is asked for a header too. -/
def rowsLayout {α : Type u} (options : Options)
    (encode : Separator → Bool → α → Except Fault Bytes) : Layout α where
  encode n a := (encode options.separator (options.hasHeaders && n = 0) a).mapError .csv
  join := List.flatten

theorem follows_rowsFormat {α : Type u} (options : Options)
    (encode : Separator → Bool → α → Except Fault Bytes) :
    (rowsFormat options encode).Follows (rowsLayout options encode) where
  opening := rfl
  closing := rfl
  join_nil := rfl
  record_of_error h := h
  record_of_ok {n a bs} h := ⟨bs, h, fun records _ => by simp [rowsLayout]⟩

/-- No row is written for a value that asks for no header. -/
def headerRow (sep : Separator) (names : List String) : Bytes :=
  if names.isEmpty then [] else encodeRow sep (names.map Utf8.bytesOf)

/-- An encoding with a header is the header and the encoding without one, which is a row. Header and
row agree in length, if there is a header. -/
theorem encode_true {sep : Separator} {v : Value} {bs : Bytes} (h : encode sep true v = .ok bs) :
    ∃ names fields, headerOf v = .ok names ∧ fieldsOf v = .ok fields ∧
      encode sep false v = .ok (encodeRow sep fields) ∧
      (names = [] ∨ fields.length = names.length) ∧
      bs = headerRow sep names ++ encodeRow sep fields := by
  unfold encode at h
  cases hn : headerOf v with
  | error e => simp [hn, bind, Except.bind] at h
  | ok names =>
    cases hf : fieldsOf v with
    | error e => simp [hn, hf, bind, Except.bind] at h
    | ok fields =>
      have hrow : encode sep false v = .ok (encodeRow sep fields) := by
        simp [encode, hf, bind, Except.bind, pure, Except.pure]
      simp only [hn, hf, if_true, bind, Except.bind, pure, Except.pure] at h
      by_cases hempty : names.isEmpty = true
      · rw [if_pos hempty] at h
        refine ⟨names, fields, rfl, rfl, hrow, .inl (List.isEmpty_iff.1 hempty), ?_⟩
        rw [headerRow, if_pos hempty]
        exact (Except.ok.inj h).symm
      · rw [if_neg hempty] at h
        by_cases hlen : fields.length ≠ names.length
        · rw [if_pos hlen] at h
          cases h
        · rw [if_neg hlen] at h
          refine ⟨names, fields, rfl, rfl, hrow, .inr (not_not.1 hlen), ?_⟩
          rw [headerRow, if_neg hempty]
          exact (Except.ok.inj h).symm

end Csv

/-- Lines, arrays and rows: unless items are encoded and taken for ever, there is an account of the
rendering. Whatever ends it, no record is delivered in part but for the one whose write failed, and
the count is that of the records delivered in full. -/
theorem formats_account {σ : Type u} {α : Type v} [Source σ α] {ω : Type w} [ByteWriter ω]
    [PatientWriter ω] (source : σ) (w : ω) :
    (∀ encode, (Json.linesFormat encode).Accounts (Json.linesLayout encode) source w ↔
      ¬ (Json.linesFormat encode).NeverEnds source w) ∧
    (∀ encode, (Json.arrayFormat encode).Accounts (Json.arrayLayout encode) source w ↔
      ¬ (Json.arrayFormat encode).NeverEnds source w) ∧
    (∀ options encode,
      (Csv.rowsFormat options encode).Accounts (Csv.rowsLayout options encode) source w ↔
        ¬ (Csv.rowsFormat options encode).NeverEnds source w) ∧
    ∀ sep v bs, Csv.encode sep true v = .ok bs →
      ∃ names fields, Csv.headerOf v = .ok names ∧ Csv.fieldsOf v = .ok fields ∧
        Csv.encode sep false v = .ok (Csv.encodeRow sep fields) ∧
        bs = Csv.headerRow sep names ++ Csv.encodeRow sep fields := by
  refine ⟨?_, ?_, ?_, ?_⟩
  · intro encode
    exact (Json.follows_linesFormat encode).accounts_iff source w
  · intro encode
    exact (Json.follows_arrayFormat encode).accounts_iff source w
  · intro options encode
    exact (Csv.follows_rowsFormat options encode).accounts_iff source w
  · intro sep v bs h
    obtain ⟨names, fields, hnames, hfields, hrow, -, hbs⟩ := Csv.encode_true h
    exact ⟨names, fields, hnames, hfields, hrow, hbs⟩

/-- The writer has room for two records, of a list of three or of any number. -/
theorem formats_account_limited :
    let encode (n : Nat) : Except Json.Fault Bytes := .ok (Utf8.bytesOf (toString n))
    let f : Format Nat := Json.arrayFormat encode
    let w : Double.LimitedWriter := { limit := 4 }
    let sevens : Double.Repeated Nat := ⟨7⟩
    PatientWriter Double.LimitedWriter ∧
      f.Accounts (Json.arrayLayout encode) (ListSource.ofList [1, 2, 3]) w ∧
      f.Accounts (Json.arrayLayout encode) sevens w ∧
      ∃ (_ : f.RenderEnds sevens w) (v : Double.LimitedWriter),
        f.render sevens w = (.error ⟨2, .io (Double.LimitedWriter.refusal 4)⟩, sevens, v) ∧
          v.bytes = Utf8.bytesOf "[7,7" := by
  intro encode f w sevens
  have hlist : ¬ f.NeverEnds (ListSource.ofList [1, 2, 3]) w :=
    (Format.renderEnds_iff f (ListSource.ofList [1, 2, 3]) w).1 inferInstance
  let wrote (text : String) : Double.LimitedWriter :=
    { limit := 4, stored := Deque.append (Utf8.bytesOf text) {} }
  have hstart : f.start w = .ok (0, wrote "[") := by
    subst f encode w wrote
    cbv
  have hfirst : f.visit (0, wrote "[") sevens = .ok (1, wrote "[7") := by
    subst f encode sevens wrote
    cbv
  have hsecond : f.visit (1, wrote "[7") sevens = .ok (2, wrote "[7,7") := by
    subst f encode sevens wrote
    cbv
  have hthird : f.visit (2, wrote "[7,7") sevens =
      .error (⟨2, .io (Double.LimitedWriter.refusal 4)⟩, wrote "[7,7") := by
    subst f encode sevens wrote
    cbv
  have hsweep : Source.SweepsTo f.visit (0, wrote "[") sevens
      (.error (⟨2, .io (Double.LimitedWriter.refusal 4)⟩, wrote "[7,7"), sevens) :=
    .pass rfl hfirst (.pass rfl hsecond (.halt rfl hthird))
  have hends : f.RenderEnds sevens w := .of_sweepsTo hstart hsweep
  obtain ⟨-, harray, -, -⟩ := formats_account (ListSource.ofList [1, 2, 3]) w
  obtain ⟨-, harray', -, -⟩ := formats_account sevens w
  refine ⟨inferInstance, (harray encode).2 hlist, ?_, hends, wrote "[7,7", ?_, ?_⟩
  · exact (harray' encode).2 ((Format.renderEnds_iff f sevens w).1 hends)
  · exact Format.render_of_sweepsTo hstart hsweep
  · subst wrote
    cbv

end PullStreams
