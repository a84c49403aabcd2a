import PullStreams.Double.Codec
import PullStreams.Double.Reader
import PullStreams.Proofs.Codec.Choice

namespace PullStreams

/-- A feed in pieces of any size, interrupted at every other read or not, hands out what it holds.
-/
theorem Double.PieceReader.handsOut {feed : Feed} {bs : Bytes} {fault : Option IoFault}
    (h : feed.Holds bs fault) (piece : Option Nat) (interrupts : Bool) :
    ByteReader.HandsOut (fault.map IoFault.forGood)
      ({ feed, piece, interrupts } : Double.PieceReader) bs := by
  refine ⟨fun r bs => r.feed.Holds bs fault, h, fun n r bs hn hr => ?_⟩
  show ByteReader.Handed _ _ n bs (r.read n)
  unfold read
  split
  · exact .again rfl hr
  · -- The feed is asked for one byte or more, and for no more than was wanted.
    obtain ⟨m, hm, hmn, hpos⟩ : ∃ m, (r.piece.map (max 1)).elim n (min n) = m ∧ m ≤ n ∧ 0 < m := by
      cases r.piece with
      | none => exact ⟨n, rfl, Nat.le_refl n, hn⟩
      | some size => exact ⟨min n (max 1 size), rfl, Nat.min_le_left _ _, by omega⟩
    rw [hm]
    have hh := hr.handed hpos
    change ByteReader.Handed _ _ m bs (r.feed.read m) at hh
    generalize r.feed.read m = answer at hh
    cases hh with
    | piece hl h => exact .piece (Nat.le_trans hl hmn) h
    | again he h => exact .again he h
    | stop hf h => exact .stop hf h
    | fail hf he h => exact .fail hf he h

namespace Codec
open ByteReader

variable {codecs : List Codec} {path : String} {data : Bytes} {ρ : Type u} [ByteReader ρ]
  [FiniteReader ρ] {r : ρ} {fault : Option IoFault}

/-- The first codec that the name fits gets all that the reader hands out. Where it fits none, the
first codec whose magic the bytes start with gets all of it, and if there is none, the bytes are
read as they are. A fault makes no difference to this unless it comes before the longest magic
could end, and then it is the answer. The bytes after a fault are `more`. -/
theorem reader_loses_nothing (hm : ∀ c ∈ codecs, c.magic ≠ some [])
    (hsize : ∀ c ∈ codecs, 0 < c.readSize) (path : String) (h : HandsOut fault r data)
    (more : Bytes) (hmore : fault = none → more = []) (demand : Demand) :
    (∀ c, IsFirst (Fits path) codecs c →
      Opens c demand data fault (reader codecs path demand r)) ∧
    ((∀ c ∈ codecs, ¬Fits path c) →
      ((∀ c ∈ codecs, ∀ magic, c.magic = some magic → magic.length ≤ data.length) ∨ fault = none →
        (∀ c, IsFirst (StartsLike (data ++ more)) codecs c →
          Opens c demand data fault (reader codecs path demand r)) ∧
        ((∀ c ∈ codecs, ¬StartsLike (data ++ more) c) →
          ∃ f : Feed, f.Holds data fault ∧ reader codecs path demand r = .ok f)) ∧
      (∀ e, fault = some e →
        (∃ c ∈ codecs, ∃ magic, c.magic = some magic ∧ data.length < magic.length) →
        reader codecs path demand r = .error (.context "read stream header" (.io e)))) := by
  constructor
  · intro c hc
    have hx := ofExtension?_eq_some hc
    have hpos : 0 < c.readSize := hsize c (List.mem_of_find?_eq_some hx)
    exact ⟨_, h.holds_contents hpos, reader_of_extension hx demand⟩
  · intro hnone
    have hx := ofExtension?_eq_none_iff.2 hnone
    refine ⟨fun hl => ?_, ?_⟩
    · have hl := hl.imp_left magicLength_le_iff.2
      obtain ⟨f, hf, hread⟩ := reader_of_magic hx hm hsize h hl demand
      rw [← find?_marks_append (hl.imp_right hmore)] at hread
      refine ⟨fun c hc => ?_, fun hmarks => ?_⟩
      · rw [hc.find?_eq fun _ => marks_iff] at hread
        exact ⟨f, hf, hread⟩
      · rw [find?_marks_eq_none hmarks] at hread
        exact ⟨f, hf, hread⟩
    · rintro e rfl ⟨c, hc, magic, hmagic, hlt⟩
      have hl : data.length < magicLength codecs :=
        hlt.trans_le (magicLength_le_iff.1 le_rfl c hc magic hmagic)
      exact reader_of_fault hx h hl demand

/-- What two codecs make of bytes that come one at a time between interruptions. Under the first
name only the magic bytes tell, and those of `long` are too many; under the second name they do not
count. A fault after the third byte comes too early. -/
theorem reader_loses_nothing_short :
    let long : Codec :=
      { Packing.buffered with
        name := "long", extensions := [".l"], magic := some [1, 2, 3, 4]
        decode := (Double.Decoding.change (List.map (· + 1))).apply }
    let short : Codec :=
      { Packing.buffered with
        name := "short", extensions := [".s"], magic := some [1, 2]
        decode := (Double.Decoding.change List.reverse).apply }
    let e := IoFault.plain "gone"
    let whole : Double.PieceReader :=
      { feed := ⟨[[1, 2, 9]], none⟩, piece := some 1, interrupts := true }
    let broken : Double.PieceReader :=
      { feed := ⟨[[1, 2, 3]], some e⟩, piece := some 1, interrupts := true }
    reader [long, short] "in.txt" .list whole = .ok ⟨[[9, 2, 1]], none⟩ ∧
      reader [long, short] "in.L" .list whole = .ok ⟨[[2, 3, 10]], none⟩ ∧
      reader [long, short] "in.txt" .list broken =
        .error (.context "read stream header" (.io e)) ∧
      reader [long, short] "in.s" .list broken =
        .error (.context "wrap reader with short codec" (.io e)) := by
  intro long short e whole broken
  have hm : ∀ c ∈ [long, short], c.magic ≠ some [] := by simp [long, short]
  have hsize : ∀ c ∈ [long, short], 0 < c.readSize := by
    simp [long, short, ByteReader.bufferSize]
  have hnone : ∀ c ∈ [long, short], ¬Fits "in.txt" c := by
    intro c hc
    rw [← fits_iff]
    rcases List.mem_pair.1 hc with rfl | rfl <;> decide +kernel
  have hlong : IsFirst (Fits "in.L") [long, short] long := by
    refine ⟨?_, [], [short], rfl, by simp⟩
    rw [← fits_iff]
    decide +kernel
  have hshort : IsFirst (Fits "in.s") [long, short] short := by
    refine ⟨?_, [long], [], rfl, fun c hc => ?_⟩
    · rw [← fits_iff]
      decide +kernel
    · rw [← fits_iff, List.mem_singleton.1 hc]
      decide +kernel
  have hfirst : IsFirst (StartsLike ([1, 2, 9] ++ [])) [long, short] short := by
    refine ⟨⟨[1, 2], rfl, by decide⟩, [long], [], rfl, fun c hc => ?_⟩
    obtain rfl := List.mem_singleton.1 hc
    simp [long, StartsLike]
  have hw : HandsOut none whole [1, 2, 9] :=
    Double.PieceReader.handsOut ⟨rfl, by simp, rfl⟩ (some 1) true
  have hb : HandsOut (some e) broken [1, 2, 3] :=
    Double.PieceReader.handsOut ⟨rfl, by simp, rfl⟩ (some 1) true
  refine ⟨?_, ?_, ?_, ?_⟩
  · have h := (reader_loses_nothing hm hsize "in.txt" hw [] (fun _ => rfl) .list).2 hnone
    obtain ⟨f, ⟨hf, -, hfault⟩, hread⟩ := (h.1 (.inr rfl)).1 short hfirst
    rw [hread]
    simp [short, Double.Decoding.apply, Feed.bytes, hf, hfault, Feed.ofBytes, Feed.ofPieces]
  · have h := (reader_loses_nothing hm hsize "in.L" hw [] (fun _ => rfl) .list).1 long hlong
    obtain ⟨f, ⟨hf, -, hfault⟩, hread⟩ := h
    rw [hread]
    simp [long, Double.Decoding.apply, Feed.bytes, hf, hfault, Feed.ofBytes, Feed.ofPieces]
  · have h := (reader_loses_nothing hm hsize "in.txt" hb [4, 5] (by simp) .list).2 hnone
    exact h.2 e rfl ⟨long, List.mem_cons_self, _, rfl, by decide⟩
  · have h := (reader_loses_nothing hm hsize "in.s" hb [4, 5] (by simp) .list).1 short hshort
    obtain ⟨f, ⟨-, -, hfault⟩, hread⟩ := h
    have hdecode : short.decode .list f = .error e := by
      simp only [short, Double.Decoding.apply, hfault]
    rw [hread, hdecode]
    rfl

end Codec
end PullStreams
