import Mathlib
import PullStreams.Double.Reader
import PullStreams.Proofs.Run
import PullStreams.Proofs.Source.Lines

namespace PullStreams
open ByteReader Source

namespace Line

def pieces (bytes : Bytes) : List Bytes := bytes.splitBy fun b _ => b ≠ lf

/-- A piece without its line feed, and then without one carriage return. -/
def content (piece : Bytes) : Bytes := dropLast cr (dropLast lf piece)
where
  dropLast (b : UInt8) (bs : Bytes) : Bytes := if bs.getLast? = some b then bs.dropLast else bs

/-- The lines of bytes that come before the fault of a reader, or before its end. The end also ends
a line, and a fault does not. -/
def ofBytes (bytes : Bytes) (fault : Option IoFault) : List Bytes :=
  ((pieces bytes).filter fun piece => fault.isNone || piece.getLast? = some lf).map content

/-- The texts of lines up to the first that is not UTF-8, which is told by its number. The number of
the first line is `n`. -/
def textsFrom (n : Nat) : List Bytes → List String × Option (Nat × Utf8Fault)
  | [] => ([], none)
  | line :: rest =>
    match Utf8.decode line with
    | .ok text => (textsFrom (n + 1) rest).map (text :: ·) id
    | .error e => ([], some (n, e))

theorem pieces_of_no_lf {text : Bytes} (h : lf ∉ text) (hne : text ≠ []) :
    pieces text = [text] := by
  refine List.splitBy_of_isChain hne (List.Pairwise.isChain ?_)
  refine List.pairwise_of_forall_mem_list fun b hb _ _ => ?_
  exact decide_eq_true fun hlf => h (hlf ▸ hb)

theorem pieces_of_lf {text : Bytes} (h : lf ∉ text) (rest : Bytes) :
    pieces (text ++ lf :: rest) = (text ++ [lf]) :: pieces rest := by
  have hline : pieces (text ++ [lf]) = [text ++ [lf]] := by
    refine List.splitBy_of_isChain (by simp) (List.IsChain.append ?_ (by simp) ?_)
    · refine List.Pairwise.isChain (List.pairwise_of_forall_mem_list fun b hb _ _ => ?_)
      exact decide_eq_true fun hlf => h (hlf ▸ hb)
    · intro b hb _ _
      exact decide_eq_true fun hlf => h (hlf ▸ List.mem_of_getLast? hb)
  have hcut : pieces (text ++ [lf] ++ rest) = pieces (text ++ [lf]) ++ pieces rest := by
    refine List.splitBy_append fun b hb _ _ => ?_
    rw [List.getLast?_concat] at hb
    simp [Option.mem_some.1 hb]
  rw [List.append_cons, hcut, hline, List.singleton_append]

theorem reverse_strip (piece : Bytes) : (strip piece.reverse).reverse = content piece := by
  have hdrop (b : UInt8) (bs : Bytes) :
      strip.dropHead b bs.reverse = (content.dropLast b bs).reverse := by
    rw [strip.dropHead, content.dropLast, List.head?_reverse, List.tail_reverse]
    split <;> rfl
  rw [strip, hdrop, hdrop, List.reverse_reverse, content]

section OfBytes
variable {text : Bytes} (fault : Option IoFault)

theorem ofBytes_nil : ofBytes [] fault = [] := rfl

theorem ofBytes_of_lf (h : lf ∉ text) (rest : Bytes) :
    ofBytes (text ++ lf :: rest) fault = content (text ++ [lf]) :: ofBytes rest fault := by
  simp [ofBytes, pieces_of_lf h]

end OfBytes

theorem ofBytes_of_end {text : Bytes} (h : lf ∉ text) (hne : text ≠ []) :
    ofBytes text none = [content text] := by
  simp [ofBytes, pieces_of_no_lf h hne]

/-- A fault takes with it what no line feed ends. -/
theorem ofBytes_of_fault {text : Bytes} (h : lf ∉ text) (e : IoFault) :
    ofBytes text (some e) = [] := by
  by_cases hne : text = []
  · rw [hne, ofBytes_nil]
  · have hlast : text.getLast? ≠ some lf := fun hlf => h (List.mem_of_getLast? hlf)
    simp [ofBytes, pieces_of_no_lf h hne, hlast]

end Line

namespace LineSource
variable {ρ : Type u} [ByteReader ρ] [FiniteReader ρ] {s : LineSource ρ} {bytes rest text : Bytes}
  {fault : Option IoFault} {t : ρ}

def ending (broken : Option (Nat × Utf8Fault)) (fault : Option IoFault) : StreamFault :=
  match broken, fault with
  | some (n, e), _ => .decode n e
  | none, some e => .io e
  | none, none => .ended

/-- The lines of a piece and of what comes after it. -/
theorem drains_of_read {out buffer : Bytes} {r : ρ} {lines : List Bytes} (hopen : s.isOpen = true)
    (hlive : s.stopped = none) (hread : Line.read [] s.buffer s.reader = (.ok out, buffer, r))
    (hne : out ≠ [])
    (hrest : ∀ slot, ∃ u,
      Drains { s with buffer, reader := r, linesRead := s.linesRead + 1, slot }
        (Line.textsFrom (s.linesRead + 2) lines).1 u ∧
      error u = some (ending (Line.textsFrom (s.linesRead + 2) lines).2 fault)) :
    ∃ u, Drains s (Line.textsFrom (s.linesRead + 1) (Line.content out.reverse :: lines)).1 u ∧
      error u =
        some (ending (Line.textsFrom (s.linesRead + 1) (Line.content out.reverse :: lines)).2
          fault) := by
  have ha := advance_of_read hopen hlive hread hne
  have hstrip := Line.reverse_strip out.reverse
  rw [List.reverse_reverse] at hstrip
  rw [hstrip] at ha
  cases hd : Utf8.decode (Line.content out.reverse) with
  | ok text =>
    obtain ⟨u, hu, he⟩ := hrest (some text)
    rw [hd] at ha
    simp only [Line.textsFrom, hd, Prod.map, id]
    exact ⟨u, .item ha hu, he⟩
  | error e =>
    rw [hd] at ha
    simp only [Line.textsFrom, hd]
    exact ⟨_, .stop ha, rfl⟩

theorem drains_of_holds (hs : s.Holds bytes fault t)
    (hend : fault = none → ∃ t', Gives bufferSize true t [] none t') :
    ∃ u, Drains s (Line.textsFrom (s.linesRead + 1) (Line.ofBytes bytes fault)).1 u ∧
      error u = some (ending (Line.textsFrom (s.linesRead + 1) (Line.ofBytes bytes fault)).2 fault)
    := by
  -- On the bytes that are left: neither the reads nor the buffer follow the lines.
  induction hn : bytes.length using Nat.strongRecOn generalizing s bytes with
  | _ n ih =>
    subst hn
    by_cases hmem : Line.lf ∈ bytes
    · obtain ⟨text, rest, rfl, hlf⟩ := List.eq_append_cons_of_mem hmem
      obtain ⟨r, buffer, hread, hahead⟩ :=
        Line.read_of_line hs.ahead (Line.takeLine_of_lf hlf [] rest)
      rw [Line.ofBytes_of_lf fault hlf]
      have hlen : rest.length < (text ++ Line.lf :: rest).length := by simp; omega
      have hrest slot := ih rest.length hlen
        (s := { s with buffer, reader := r, linesRead := s.linesRead + 1, slot })
        ⟨hs.isOpen, hs.isLive, hahead⟩ rfl
      have hd := drains_of_read hs.isOpen hs.isLive hread (List.cons_ne_nil _ _) hrest
      simpa using hd
    · have hread := Line.read_of_rest hs.ahead (Line.takeLine_of_no_lf hmem [])
      match bytes, fault with
      | bytes, some e =>
        rw [Line.ofBytes_of_fault hmem]
        exact ⟨_, .stop (advance_of_fault hs.isOpen hs.isLive hread), rfl⟩
      | [], none =>
        obtain ⟨u, ha, he⟩ := advance_of_end hs
        exact ⟨u, .stop ha, he⟩
      | b :: text, none =>
        -- What the end of the reader ends is a line, and the reader is asked once more after it.
        obtain ⟨t', ht'⟩ := hend rfl
        have hrest slot : ∃ u,
            Drains { s with buffer := [], reader := t, linesRead := s.linesRead + 1, slot }
                (Line.textsFrom (s.linesRead + 2) []).1 u ∧
              error u = some (ending (Line.textsFrom (s.linesRead + 2) []).2 none) := by
          obtain ⟨u, ha, he⟩ := advance_of_end (s := { s with
            buffer := [], reader := t, linesRead := s.linesRead + 1, slot })
            ⟨hs.isOpen, hs.isLive, [], ht', rfl⟩
          exact ⟨u, .stop ha, he⟩
        have hd := drains_of_read hs.isOpen hs.isLive hread (by simp) hrest
        rw [Line.ofBytes_of_end hmem (List.cons_ne_nil _ _)]
        simpa using hd

/-- Whatever the pieces that the bytes come in and however often the reader is interrupted, the
source yields the lines of the bytes up to the first that is not UTF-8, and ends there, or as the
reader does. A reader that has come to its end stays there. -/
theorem drains_lines {r : ρ} (h : Gives bufferSize true r bytes fault t)
    (hend : fault = none → ∃ t', Gives bufferSize true t [] none t') :
    ∃ u, Drains (ofReader r) (Line.textsFrom 1 (Line.ofBytes bytes fault)).1 u ∧
      error u = some (ending (Line.textsFrom 1 (Line.ofBytes bytes fault)).2 fault) :=
  drains_of_holds (holds_ofReader h) hend

/-- The pieces break off in the middle of a character and between carriage return and line feed. -/
theorem drains_lines_broken_off :
    let bytes : Bytes := [0x61, 0xC3, 0xA9, 0x0D, 0x0A, 0x62, 0x0D]
    let r : Double.PieceReader :=
      { feed := .ofBytes bytes none, piece := some 2, interrupts := true }
    ∃ t, Gives bufferSize true r bytes none t ∧
      ((none : Option IoFault) = none → ∃ t', Gives bufferSize true t [] none t') ∧
      ∃ u, Drains (ofReader r) ["aé", "b"] u ∧ error u = some .ended := by
  intro bytes r
  have hlines : Line.textsFrom 1 (Line.ofBytes bytes none) = (["aé", "b"], none) := by cbv
  have hg : Gives bufferSize true r bytes none { r with feed := {} } :=
    .again rfl rfl rfl <| @Gives.piece _ _ _ _ _ _ _ 0x61 [0xC3] _ _ rfl <|
    .again rfl rfl rfl <| @Gives.piece _ _ _ _ _ _ _ 0xA9 [0x0D] _ _ rfl <|
    .again rfl rfl rfl <| @Gives.piece _ _ _ _ _ _ _ 0x0A [0x62] _ _ rfl <|
    .again rfl rfl rfl <| @Gives.piece _ _ _ _ _ _ _ 0x0D [] _ _ rfl <|
    .again rfl rfl rfl <| .stop rfl
  have hend : Gives bufferSize true { r with feed := {} } [] none { r with feed := {} } :=
    .again rfl rfl rfl <| .stop rfl
  have h := drains_lines hg fun _ => ⟨_, hend⟩
  rw [hlines] at h
  exact ⟨_, hg, fun _ => ⟨_, hend⟩, h⟩

end LineSource
end PullStreams
