import Mathlib
import PullStreams.Json.Decode
import PullStreams.Json.Format
import PullStreams.Json.Lines
import PullStreams.Proofs.Json.Lines
import PullStreams.Proofs.Source.Lines

namespace PullStreams.Json
variable {α : Type u}

/-- What is relied on of the encoding of an item: it is text that is not blank, has no control
characters, and decodes to the item. -/
structure ReadsBack (decode : String → Except Fault α) (a : α) (bs : Bytes) : Prop where
  noControls : ∀ b ∈ bs, 0x20 ≤ b
  decodes : ∃ text, Utf8.decode bs = .ok text ∧ Text.isBlank text = false ∧ decode text = .ok a

/-- Each item has a line that reads back as the item. -/
inductive LinesOf (decode : String → Except Fault α) : List α → Bytes → Prop
  | nil : LinesOf decode [] []
  | cons {a : α} {xs : List α} {bs more : Bytes} (h : ReadsBack decode a bs)
    (rest : LinesOf decode xs more) : LinesOf decode (a :: xs) (bs ++ Line.lf :: more)

theorem ReadsBack.not_mem {decode : String → Except Fault α} {a : α} {bs : Bytes}
    (h : ReadsBack decode a bs) {b : UInt8} (hb : b < 0x20) : b ∉ bs := by
  intro hm
  exact absurd (h.noControls b hm) (UInt8.not_le.2 hb)

theorem exists_lines {encode : α → Except Fault Bytes} {decode : String → Except Fault α}
    {xs : List α} (h : ∀ a ∈ xs, ∃ bs, encode a = .ok bs ∧ ReadsBack decode a bs) (n : Nat) :
    ∃ bytes, (linesFormat encode).Records n xs bytes ∧ LinesOf decode xs bytes := by
  induction xs generalizing n with
  | nil => exact ⟨[], .nil n, .nil⟩
  | cons a xs ih =>
    obtain ⟨bs, he, hb⟩ := h a List.mem_cons_self
    obtain ⟨more, hr, hl⟩ := ih (fun x hx => h x (List.mem_cons_of_mem a hx)) (n + 1)
    have hrecord : (linesFormat encode).record n a = .ok (bs ++ [Line.lf]) := by
      have hlf : Utf8.bytesOf "\n" = [Line.lf] := by cbv
      simp only [linesFormat, he, hlf]
    have hbytes : bs ++ Line.lf :: more = bs ++ [Line.lf] ++ more := by simp
    exact ⟨bs ++ Line.lf :: more, hbytes ▸ .cons hrecord hr, .cons hb hl⟩

namespace LinesSource
variable {ρ : Type v} [ByteReader ρ] [FiniteReader ρ] {decode : String → Except Fault α}
  {skipsBlank : Bool} {s : LinesSource ρ decode skipsBlank}

theorem drains_of_lines [Inhabited α] {xs : List α} {bytes : Bytes} (h : LinesOf decode xs bytes)
    {t : ρ} (hs : s.stopped = none) (hl : s.lines.Holds bytes none t) :
    ∃ u, Source.Drains s xs u ∧ Source.error u = some .ended := by
  induction h generalizing s with
  | nil =>
    obtain ⟨lines, ha, he⟩ := LineSource.advance_of_end hl
    exact ⟨_, .stop (advance_of_stop hs ha), he⟩
  | @cons a xs bs more h _ ih =>
    obtain ⟨text, htext, hblank, hdecode⟩ := h.decodes
    obtain ⟨lines, ha, rfl, hl'⟩ :=
      LineSource.advance_of_lf hl (h.not_mem (by decide)) (h.not_mem (by decide)) htext
    obtain ⟨u, hd, he⟩ := ih (s := { lines, slot := some a }) rfl hl'
    exact ⟨u, .item (advance_of_value hs ha (by rw [hblank, Bool.and_false]) hdecode) hd, he⟩

end LinesSource

/-- Rendered as lines into a buffer, the items are all counted, and are what comes out of the buffer
again, whether blank lines are skipped or not and in whatever pieces the bytes are read. -/
theorem lines_round_trip [Inhabited α] (encode : α → Except Fault Bytes)
    (decode : String → Except Fault α) (xs : List α)
    (h : ∀ a ∈ xs, ∃ bs, encode a = .ok bs ∧ ReadsBack decode a bs) :
    ∃ s w, (linesFormat encode).render (ListSource.ofList xs) ({} : Buffer) =
        (.ok xs.length, s, w) ∧
      ∀ {ρ : Type v} [ByteReader ρ] [FiniteReader ρ] (skipsBlank : Bool) (r t : ρ),
        ByteReader.Gives ByteReader.bufferSize true r w.bytes none t →
          ∃ u, Source.Drains (LinesSource.ofReader r : LinesSource ρ decode skipsBlank) xs u ∧
            Source.error u = some .ended := by
  obtain ⟨bytes, hr, hl⟩ := exists_lines h 0
  obtain ⟨s, hrender⟩ := Format.render_list hr rfl rfl
  refine ⟨s, ⟨bytes⟩, hrender, ?_⟩
  intro ρ _ _ skipsBlank r t hg
  exact LinesSource.drains_of_lines hl rfl (LineSource.holds_ofReader hg)

/-- Two values, one of them with a line feed in it. -/
theorem lines_round_trip_values :
    let xs : List Value := [.text "a\nb", .list [.int 5, .null]]
    (∀ v ∈ xs, ∃ bs, encode v = .ok bs ∧ ReadsBack (decode .any) v bs) ∧
      ∃ s w, (linesFormat encode).render (ListSource.ofList xs) ({} : Buffer) = (.ok 2, s, w) ∧
        ∃ u, Source.Drains (LinesSource.ofReader (Feed.ofBytes w.bytes none) :
            LinesSource Feed (decode .any) true) xs u ∧ Source.error u = some .ended := by
  intro xs
  have hxs : ∀ v ∈ xs, ∃ bs, encode v = .ok bs ∧ ReadsBack (decode .any) v bs := by
    simp only [xs, List.forall_mem_cons]
    -- The line feed of the text is escaped, so that no line ends in the middle of an item.
    refine ⟨⟨[0x22, 0x61, 0x5C, 0x6E, 0x62, 0x22], by cbv, by simp, "\"a\\nb\"", by cbv,
        by cbv, by cbv⟩,
      ⟨[0x5B, 0x35, 0x2C, 0x6E, 0x75, 0x6C, 0x6C, 0x5D], by cbv, by simp, "[5,null]", by cbv,
        by cbv, by cbv⟩, by simp⟩
  obtain ⟨s, w, hrender, hread⟩ := lines_round_trip encode (decode .any) xs hxs
  have hg := Feed.gives_ofPieces (n := ByteReader.bufferSize) (by decide) true [w.bytes] none
  rw [List.flatten_singleton] at hg
  exact ⟨hxs, s, w, hrender, hread true _ _ hg⟩

end PullStreams.Json
