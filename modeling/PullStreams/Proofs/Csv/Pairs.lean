import Mathlib
import PullStreams.Csv.Encode
import PullStreams.Csv.Format
import PullStreams.Proofs.Csv.Rows

namespace PullStreams.Csv
open ByteReader RowReader

structure Pair where
  name : String
  number : Int64

namespace Pair

def toValue (p : Pair) : Value := .list [.text p.name, .int p.number.toInt]

def shape : Shape := .tuple [.text, .integer (.signed 64) "i64"]

def texts (p : Pair) : List String := [p.name, toString p.number.toInt]

def row (sep : Separator) (p : Pair) : Bytes := encodeRow sep (p.texts.map Utf8.bytesOf)

theorem encode_toValue (sep : Separator) (wantsHeader : Bool) (p : Pair) :
    encode sep wantsHeader p.toValue = .ok (p.row sep) := by
  cases wantsHeader <;> rfl

theorem readInteger_number (p : Pair) :
    readInteger (.signed 64) (toString p.number.toInt) = .ok p.number.toInt := by
  have hnumber : (Text.IntegerRange.signed 64).contains p.number.toInt = true := by
    have hlow := p.number.le_toInt
    have hhigh := p.number.toInt_lt
    have hmin : (Text.IntegerRange.signed 64).min = -2 ^ 63 := rfl
    have hmax : (Text.IntegerRange.signed 64).max = 2 ^ 63 - 1 := rfl
    simp only [Text.IntegerRange.contains, Bool.and_eq_true, decide_eq_true_eq]
    omega
  exact readInteger_toString rfl hnumber

/-- The names above the rows do not matter to a pair. -/
theorem decode_texts (names : Option (List String)) (p : Pair) :
    decode shape names p.texts = .ok p.toValue := by
  have hname : readScalar .text 0 p.name = .ok (.text p.name) := rfl
  have hnumber : readScalar (.integer (.signed 64) "i64") 1 (toString p.number.toInt) =
      .ok (.int p.number.toInt) := by
    rw [readScalar, readInteger_number]
  simp only [decode, shape, texts, readScalars, hname, hnumber]
  rfl

theorem records_pairs (options : Options) (pairs : List Pair) (n : Nat) :
    (rowsFormat options encode).Records n (pairs.map toValue)
      (pairs.flatMap (row options.separator)) := by
  induction pairs generalizing n with
  | nil => exact .nil n
  | cons p pairs ih =>
    refine .cons ?_ (ih (n + 1))
    simp only [rowsFormat, encode_toValue]
    rfl

theorem rowsOf_pairs (sep : Separator) (names : Option (List String)) (pairs : List Pair) :
    RowsOf sep (decode shape) names 2 (pairs.map toValue) (pairs.flatMap (row sep)) := by
  induction pairs with
  | nil => exact .nil
  | cons p pairs ih => exact .cons rfl (p.decode_texts names) ih

def unmarked (p : Pair) : Pair := { p with name := Text.unmarked p.name }

theorem row_eq_append (sep : Separator) (p : Pair) :
    p.row sep = encodeField sep (Utf8.bytesOf p.name) ++
      sep.byte :: (line sep [Utf8.bytesOf (toString p.number.toInt)] ++ [lf]) := by
  rw [row, texts, encodeRow_eq_line, List.map_cons, List.map_singleton, line_cons_cons]
  simp

/-- A row that begins with a byte order mark has it from the name of the pair. -/
theorem row_of_mark {sep : Separator} {p : Pair} {more bs : Bytes}
    (h : p.row sep ++ more = byteOrderMark ++ bs) :
    p.unmarked ≠ p ∧ p.unmarked.row sep ++ more = bs := by
  rw [row_eq_append, List.append_assoc, List.cons_append] at h
  obtain ⟨rest, hname, hrest⟩ := exists_of_encodeField_mark h
  obtain ⟨hne, hbytes⟩ := Text.unmarked_of_mark hname
  refine ⟨fun he => hne (congrArg name he), ?_⟩
  rw [row_eq_append, unmarked, hbytes, List.append_assoc]
  exact hrest

/-- The pair as it is read in the first row, of which `piece` was read first. -/
def asFirst (piece : Bytes) (p : Pair) : Pair := if byteOrderMark <+: piece then p.unmarked else p

theorem asFirst_eq_iff {sep : Separator} {p : Pair} {piece bs more : Bytes}
    (h : piece ++ bs = p.row sep ++ more) : p.asFirst piece = p ↔ ¬ byteOrderMark <+: piece := by
  unfold asFirst
  split
  · rename_i hmark
    obtain ⟨rest, rfl⟩ := hmark
    rw [List.append_assoc] at h
    simp [(row_of_mark h.symm).1]
  · rename_i hmark
    simp [hmark]

theorem unmark_append {sep : Separator} {p : Pair} {piece bs more : Bytes}
    (h : piece ++ bs = p.row sep ++ more) :
    unmark piece ++ bs = (p.asFirst piece).row sep ++ more := by
  unfold unmark asFirst
  split
  · rename_i hmark
    obtain ⟨rest, rfl⟩ := hmark
    rw [List.append_assoc] at h
    exact (row_of_mark h.symm).2.symm
  · exact h

end Pair

/-- The pairs that are read back when `piece` was read first. A piece that is a byte order mark and
no more is taken for the end. -/
def readBack (hasHeaders : Bool) (piece : Bytes) (pairs : List Pair) : List Pair :=
  if piece = byteOrderMark then []
  else if hasHeaders then pairs.tail
  else pairs.modifyHead (·.asFirst piece)

section Reading
variable {ρ : Type u} [ByteReader ρ] {sep : Separator} {r t : ρ} {pairs : List Pair}

theorem readBack_nil (hasHeaders : Bool) (piece : Bytes) : readBack hasHeaders piece [] = [] := by
  unfold readBack
  split
  · rfl
  · split <;> rfl

/-- The first read gets some of the row of the first pair. -/
theorem exists_firstPiece {p : Pair}
    (hg : Gives bufferSize false r ((p :: pairs).flatMap (Pair.row sep)) none t) :
    ∃ b piece bs s, read bufferSize r = (.ok (b :: piece), s) ∧ Gives bufferSize false s bs none t ∧
      b :: piece ++ bs = p.row sep ++ pairs.flatMap (Pair.row sep) := by
  obtain ⟨b, piece, bs, s, hr, hrest, hbytes⟩ := hg.exists_piece (by simp [Pair.row_eq_append])
  exact ⟨b, piece, bs, s, hr, hrest, hbytes.symm⟩

/-- Nothing is lost where no row is taken for a header and no name begins with what is taken for a
mark. -/
theorem readBack_eq_iff (hasHeaders : Bool)
    (hg : Gives bufferSize false r (pairs.flatMap (Pair.row sep)) none t) :
    readBack hasHeaders (firstPiece bufferSize r) pairs = pairs ↔
      pairs = [] ∨ hasHeaders = false ∧ ¬ byteOrderMark <+: firstPiece bufferSize r := by
  cases pairs with
  | nil => simp [readBack_nil]
  | cons p pairs =>
    obtain ⟨b, piece, bs, s, hr, -, hbytes⟩ := exists_firstPiece hg
    rw [firstPiece_of_read hr]
    have hfirst := Pair.asFirst_eq_iff hbytes
    by_cases hmark : b :: piece = byteOrderMark
    · simp [readBack, hmark]
    · cases hasHeaders <;> simp [readBack, hmark, hfirst]

variable [FiniteReader ρ]

theorem exists_drains_readBack (hasHeaders : Bool)
    (hg : Gives bufferSize false r (pairs.flatMap (Pair.row sep)) none t) :
    ∃ u, Source.Drains (RowsSource.ofReader hasHeaders r : RowsSource ρ sep (decode Pair.shape))
        ((readBack hasHeaders (firstPiece bufferSize r) pairs).map Pair.toValue) u ∧
      Source.error u = some .ended := by
  cases pairs with
  | nil =>
    rw [readBack_nil]
    exact RowsSource.drains_ofReader_nil hasHeaders hg
  | cons p pairs =>
    obtain ⟨b, piece, bs, s, hr, hrest, hbytes⟩ := exists_firstPiece hg
    rw [firstPiece_of_read hr]
    by_cases hmark : b :: piece = byteOrderMark
    -- With the mark gone nothing is left of the piece, and an empty piece is an end.
    · obtain ⟨rows, hnext, hover⟩ := exists_next_of_mark sep (hmark ▸ hr)
      rw [readBack, if_pos hmark]
      exact RowsSource.drains_ofReader_of_next_none hasHeaders hnext hover
    · have hne : unmark (b :: piece) ≠ [] := unmark_ne_nil (List.cons_ne_nil b piece) hmark
      have htexts : (p.asFirst (b :: piece)).texts ≠ [] := List.cons_ne_nil _ _
      obtain ⟨q, rows, hnext, hrows⟩ := exists_next_of_first hr hrest hne
        (mt List.map_eq_nil_iff.1 htexts) (Pair.unmark_append hbytes)
      rw [readBack, if_neg hmark]
      cases hasHeaders with
      | true =>
        exact RowsSource.drains_ofReader_true htexts hnext hrows (Pair.rowsOf_pairs sep _ pairs)
      | false =>
        exact RowsSource.drains_ofReader_false htexts hnext hrows (Pair.decode_texts none _)
          (Pair.rowsOf_pairs sep none pairs)

end Reading

theorem exists_render_pairs (options : Options) (pairs : List Pair) :
    ∃ s, (rowsFormat options encode).render (ListSource.ofList (pairs.map Pair.toValue))
      ({} : Buffer) = (.ok pairs.length, s, ⟨pairs.flatMap (Pair.row options.separator)⟩) := by
  obtain ⟨s, hrender⟩ := Format.render_list (Pair.records_pairs options pairs 0) rfl rfl
  rw [List.length_map] at hrender
  exact ⟨s, hrender⟩

/-- All pairs are written, and come out of the buffer again with the same options if there is no
header to take the first row for and what is read first does not begin with a byte order mark. A
pair that is taken for the header is lost, and the source ends as well as ever. -/
theorem pairs_read_back (options : Options) (pairs : List Pair) :
    ∃ s w, (rowsFormat options encode).render (ListSource.ofList (pairs.map Pair.toValue))
        ({} : Buffer) = (.ok pairs.length, s, w) ∧
      ∀ {ρ : Type u} [ByteReader ρ] [FiniteReader ρ] (r t : ρ),
        Gives bufferSize false r w.bytes none t →
          let comes := readBack options.hasHeaders (firstPiece bufferSize r) pairs
          (∃ u, Source.Drains (RowsSource.ofReader options.hasHeaders r :
              RowsSource ρ options.separator (decode Pair.shape)) (comes.map Pair.toValue) u ∧
            Source.error u = some .ended) ∧
          (comes = pairs ↔ pairs = [] ∨ options.hasHeaders = false ∧
            ¬ byteOrderMark <+: firstPiece bufferSize r) := by
  obtain ⟨s, hrender⟩ := exists_render_pairs options pairs
  refine ⟨s, _, hrender, fun r t hg => ?_⟩
  exact ⟨exists_drains_readBack options.hasHeaders hg, readBack_eq_iff options.hasHeaders hg⟩

/-- A name that begins with a byte order mark comes back without it. -/
theorem pairs_read_back_marked :
    let pairs : List Pair := [⟨"\uFEFFa", 1⟩, ⟨"b", -2⟩]
    ∃ s w, (rowsFormat { hasHeaders := false } encode).render
        (ListSource.ofList (pairs.map Pair.toValue)) ({} : Buffer) = (.ok 2, s, w) ∧
      ∃ u, Source.Drains (RowsSource.ofReader false (Feed.ofBytes w.bytes none) :
          RowsSource Feed .comma (decode Pair.shape))
          [.list [.text "a", .int 1], .list [.text "b", .int (-2)]] u ∧
        Source.error u = some .ended := by
  intro pairs
  obtain ⟨s, w, hrender, hread⟩ := pairs_read_back { hasHeaders := false } pairs
  obtain ⟨hd, -⟩ := hread _ _ (Feed.gives_ofBytes (by decide) false w.bytes none)
  obtain ⟨s', hrender'⟩ := exists_render_pairs { hasHeaders := false } pairs
  obtain ⟨-, rfl⟩ := Prod.mk.inj (Prod.mk.inj (hrender.symm.trans hrender')).2
  have hcomes : (readBack false (firstPiece bufferSize (Feed.ofBytes
      (pairs.flatMap (Pair.row .comma)) none)) pairs).map Pair.toValue =
      [.list [.text "a", .int 1], .list [.text "b", .int (-2)]] := by cbv
  exact ⟨s, _, hrender, hcomes ▸ hd⟩

/-- Of two pairs that are written with the options that are the default, one comes back. -/
theorem render_loses_first_pair :
    let pairs : List Pair := [⟨"a", 1⟩, ⟨"b", 2⟩]
    ∃ s w, (rowsFormat {} encode).render (ListSource.ofList (pairs.map Pair.toValue))
        ({} : Buffer) = (.ok 2, s, w) ∧
      ∃ u, Source.Drains (RowsSource.ofReader true (Feed.ofBytes w.bytes none) :
          RowsSource Feed .comma (decode Pair.shape)) [.list [.text "b", .int 2]] u ∧
        Source.error u = some .ended := by
  intro pairs
  obtain ⟨s, hrender⟩ := exists_render_pairs {} pairs
  have hg := Feed.gives_ofBytes (n := bufferSize) (by decide) false
    (pairs.flatMap (Pair.row .comma)) none
  have hcomes : (readBack true (firstPiece bufferSize (Feed.ofBytes
      (pairs.flatMap (Pair.row .comma)) none)) pairs).map Pair.toValue =
      [.list [.text "b", .int 2]] := by cbv
  exact ⟨s, _, hrender, hcomes ▸ exists_drains_readBack true hg⟩

end PullStreams.Csv
