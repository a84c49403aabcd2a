import Mathlib
import PullStreams.Json.Decode
import PullStreams.Json.Lines
import PullStreams.Proofs.Run
import PullStreams.Proofs.Source.Split

namespace PullStreams

namespace Text

def trim (s : String) : List Char :=
  (s.toList.dropWhile isBlankChar).reverse.dropWhile isBlankChar |>.reverse

theorem isBlank_eq_isEmpty_trim (s : String) : isBlank s = (trim s).isEmpty := by
  rw [Bool.eq_iff_iff, isBlank, List.all_eq_true, List.isEmpty_iff, trim, List.reverse_eq_nil_iff,
    List.dropWhile_eq_nil_iff]
  constructor
  · intro h c hc
    exact h c ((List.dropWhile_sublist _).mem (List.mem_reverse.1 hc))
  · intro h c hc
    rw [← List.takeWhile_append_dropWhile (p := isBlankChar) (l := s.toList)] at hc
    rcases List.mem_append.1 hc with hc | hc
    · exact List.mem_takeWhile_imp hc
    · exact h c (List.mem_reverse.2 hc)

end Text

namespace Json
open Source
variable {β : Type v}

/-- The values of texts up to the first that cannot be read, which is told by its number. The number
of the first text is `n`, and blank texts count too where they are passed over. -/
def valuesFrom (decode : String → Except Fault β) (skipsBlank : Bool) (n : Nat) :
    List String → List β × Option (Nat × Fault)
  | [] => ([], none)
  | text :: rest =>
    if skipsBlank && (Text.trim text).isEmpty then valuesFrom decode skipsBlank (n + 1) rest
    else
      match decode text with
      | .ok b => (valuesFrom decode skipsBlank (n + 1) rest).map (b :: ·) id
      | .error e => ([], some (n, e))

namespace LinesSource
variable {ρ : Type u} [ByteReader ρ] [FiniteReader ρ] {decode : String → Except Fault β}
  {skipsBlank : Bool} {s : LinesSource ρ decode skipsBlank} {lines : LineSource ρ}

theorem advance_of_stop (hs : s.stopped = none) (h : Source.advance s.lines = (false, lines)) :
    s.advance = (false, { lines }) := by
  simp [advance, hs, Source.sweep_of_stop h]

theorem advance_of_blank (hs : s.stopped = none) (h : Source.advance s.lines = (true, lines))
    (hb : (skipsBlank && Text.isBlank (Source.current lines)) = true) :
    s.advance = ({ lines } : LinesSource ρ decode skipsBlank).advance := by
  have hv : visit decode skipsBlank () lines = .ok () := by simp [visit, hb]
  simp [advance, hs, Source.sweep_of_item h, hv]

theorem advance_of_value (hs : s.stopped = none) (h : Source.advance s.lines = (true, lines))
    (hb : (skipsBlank && Text.isBlank (Source.current lines)) = false) {b : β}
    (hd : decode (Source.current lines) = .ok b) :
    s.advance = (true, { lines, slot := some b }) := by
  have hv : visit decode skipsBlank () lines = .error (.ok b) := by simp [visit, hb, hd]
  simp [advance, hs, Source.sweep_of_item h, hv]

theorem advance_of_unreadable (hs : s.stopped = none) (h : Source.advance s.lines = (true, lines))
    (hb : (skipsBlank && Text.isBlank (Source.current lines)) = false) {e : Fault}
    (hd : decode (Source.current lines) = .error e) :
    s.advance = (false, { lines, stopped := some (unreadable lines.linesRead e) }) := by
  have hv : visit decode skipsBlank () lines = .error (.error (unreadable lines.linesRead e)) := by
    simp [visit, hb, hd]
  simp [advance, hs, Source.sweep_of_item h, hv]

/-- A source that has stopped leaves its lines alone. -/
theorem lines_advances [Inhabited β] (hs : s.stopped.isSome = true) (k : Nat) :
    (Source.advances k s).lines = s.lines ∧ (Source.advances k s).stopped = s.stopped := by
  induction k with
  | zero => exact ⟨rfl, rfl⟩
  | succ k ih =>
    have ha : Source.advance (Source.advances k s) =
        (false, { Source.advances k s with slot := none }) := by
      show (Source.advances k s).advance = _
      simp only [advance, ih.2, hs, if_true]
    rw [Source.advances, ha]
    exact ih

/-- Where a source stops whose lines go past the texts to `last`: there, or at the text that cannot
be read. -/
def StopsAt (v : LinesSource ρ decode skipsBlank) (lines last : LineSource ρ)
    (texts : List String) : Option (Nat × Fault) → Prop
  | none => v.stopped = none ∧ v.lines = last
  | some (n, e) =>
    v.stopped = some (unreadable n e) ∧ lines.linesRead < n ∧
      Reads lines (texts.take (n - lines.linesRead)) v.lines

theorem StopsAt.cons {v : LinesSource ρ decode skipsBlank} {lines last next : LineSource ρ}
    {texts : List String} {broken : Option (Nat × Fault)} (h : v.StopsAt next last texts broken)
    (ha : Source.advance lines = (true, next)) :
    v.StopsAt lines last (Source.current next :: texts) broken := by
  match broken, h with
  | none, h => exact h
  | some (n, e), ⟨hv, hn, hr⟩ =>
    have hnext := LineSource.linesRead_of_advance ha
    have hcount : n - lines.linesRead = n - next.linesRead + 1 := by omega
    refine ⟨hv, by omega, ?_⟩
    rw [hcount, List.take_succ_cons]
    exact .cons ha hr

variable (decode skipsBlank) in
theorem exists_drains_of_lines [Inhabited β] {texts : List String} {last : LineSource ρ}
    (h : Drains lines texts last) (slot : Option β) :
    ∃ v, Drains ({ lines, slot } : LinesSource ρ decode skipsBlank)
        (valuesFrom decode skipsBlank (lines.linesRead + 1) texts).1 v ∧
      v.StopsAt lines last texts
        (valuesFrom decode skipsBlank (lines.linesRead + 1) texts).2 := by
  -- The slot is general, since a value is in it when the next line is asked for.
  induction h generalizing slot with
  | stop ha => exact ⟨_, .stop (advance_of_stop rfl ha), rfl, rfl⟩
  | @item lines next last texts ha rest ih =>
    rw [← LineSource.linesRead_of_advance ha, valuesFrom, ← Text.isBlank_eq_isEmpty_trim]
    cases hb : skipsBlank && Text.isBlank (Source.current next) with
    | true =>
      obtain ⟨v, hd, hv⟩ := ih none
      exact ⟨v, hd.of_advance_eq (advance_of_blank rfl ha hb), hv.cons ha⟩
    | false =>
      cases hd : decode (Source.current next) with
      | ok b =>
        obtain ⟨v, hd', hv⟩ := ih (some b)
        exact ⟨v, .item (advance_of_value rfl ha hb hd) hd', hv.cons ha⟩
      | error e =>
        have hn := LineSource.linesRead_of_advance ha
        have hone : next.linesRead - lines.linesRead = 1 := by omega
        refine ⟨_, .stop (advance_of_unreadable rfl ha hb hd), rfl, by omega, ?_⟩
        rw [hone]
        exact .single ha

/-- The source yields what its lines are read as, and ends as they do, unless a line that is not
passed over cannot be read: it ends there then, names the line, and reads no other. -/
theorem drains_valuesFrom [Inhabited β] (decode : String → Except Fault β) (skipsBlank : Bool)
    (r : ρ) :
    ∃ texts last values broken v, Drains (LineSource.ofReader r) texts last ∧
      valuesFrom decode skipsBlank 1 texts = (values, broken) ∧
      Drains (ofReader r : LinesSource ρ decode skipsBlank) values v ∧
      match broken with
      | none => Source.error v = Source.error last
      | some (n, e) =>
        (∃ chain, Source.error v = some (.other chain) ∧
          (StreamFault.other chain).message = s!"parse JSONL line {n}" ++ ": " ++ e.message) ∧
        Reads (LineSource.ofReader r) (texts.take n) v.lines ∧
          ∀ k, (Source.advances k v).lines = v.lines := by
  obtain ⟨texts, last, hlines⟩ := exists_drains (LineSource.ofReader r)
  obtain ⟨v, hd, hv⟩ := exists_drains_of_lines decode skipsBlank hlines none
  refine ⟨texts, last, _, _, v, hlines, rfl, hd, ?_⟩
  have hfirst : (LineSource.ofReader r).linesRead + 1 = 1 := rfl
  rw [hfirst] at hv
  match (valuesFrom decode skipsBlank 1 texts).2, hv with
  | none, ⟨hstopped, hlast⟩ =>
    show v.stopped.or (Source.error v.lines) = _
    rw [hstopped, hlast, Option.none_or]
  | some (n, e), ⟨hstopped, _, hreads⟩ =>
    refine ⟨⟨[s!"parse JSONL line {n}", e.message], ?_, rfl⟩, hreads, fun k => ?_⟩
    · show v.stopped.or (Source.error v.lines) = _
      rw [hstopped, Option.some_or, unreadable]
    · exact (lines_advances (by rw [hstopped]; rfl) k).1

/-- The third line cannot be read, and the second counts although it is passed over. -/
theorem drains_valuesFrom_broken :
    FiniteReader Feed ∧
      ∃ v : LinesSource Feed (Json.decode .any) true,
        Drains (ofReader (Feed.ofBytes (Utf8.bytesOf "1\n \nx\n2") none)) [.int 1] v ∧
          ∃ chain, Source.error v = some (.other chain) ∧ (StreamFault.other chain).message =
            "parse JSONL line 3: expected value at line 1 column 1" := by
  have hlines : ∃ u, Drains
      (LineSource.ofReader (Feed.ofBytes (Utf8.bytesOf "1\n \nx\n2") none)) ["1", " ", "x", "2"] u
      := by
    have hg := Feed.gives_ofBytes (n := ByteReader.bufferSize) (by decide) true
      (Utf8.bytesOf "1\n \nx\n2") none
    have hcut : Line.textsFrom 1 (Line.ofBytes (Utf8.bytesOf "1\n \nx\n2") none) =
        (["1", " ", "x", "2"], none) := by cbv
    obtain ⟨u, hu, -⟩ := LineSource.drains_of_holds (LineSource.holds_ofReader hg)
      fun _ => ⟨_, .stop rfl⟩
    refine ⟨u, ?_⟩
    change Drains _ (Line.textsFrom 1 (Line.ofBytes _ none)).1 u at hu
    rwa [hcut] at hu
  have hread : valuesFrom (Json.decode .any) true 1 ["1", " ", "x", "2"] =
      ([.int 1], some (3, .unread .noValue ⟨1, 1⟩)) := by cbv
  obtain ⟨u, hu⟩ := hlines
  obtain ⟨texts, last, values, broken, v, ht, hvalues, hd, h⟩ := drains_valuesFrom
    (Json.decode .any) true (Feed.ofBytes (Utf8.bytesOf "1\n \nx\n2") none)
  obtain ⟨rfl, rfl⟩ := hu.unique ht
  rw [hread] at hvalues
  obtain ⟨rfl, rfl⟩ := Prod.mk.inj hvalues
  exact ⟨inferInstance, v, hd, h.1⟩

end LinesSource
end Json
end PullStreams
