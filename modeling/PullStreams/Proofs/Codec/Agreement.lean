import Mathlib
import PullStreams.Double.Codec
import PullStreams.Proofs.Codec.Choice
import PullStreams.Proofs.Sink.Course

namespace PullStreams
open ByteWriter WriterEvent Sink

namespace ByteSink
variable {ω : Type u} [ByteWriter ω] [PatientWriter ω]

/-- Where all went well, the writer of an open sink has taken the items. -/
theorem took_of_run (calls : List (Call Bytes)) (hcalls : .close ∉ calls) {d : ByteSink ω}
    (ho : d.isOpen = true) (hf : d.failure = none) (hok : ∀ a ∈ (run calls d).1, a.IsOk) :
    Took d.writer (Call.items calls).flatten (run calls d).2.writer ∧
      (run calls d).2.isOpen = true ∧ (run calls d).2.failure = none := by
  induction calls generalizing d with
  | nil => exact ⟨.nil _, ho, hf⟩
  | cons c calls ih =>
    have hc : (perform d c).1.IsOk := hok _ List.mem_cons_self
    have hcalls : c ≠ .close ∧ .close ∉ calls := by
      simpa [eq_comm] using hcalls
    have hrest : ∀ a ∈ (run calls (perform d c).2).1, a.IsOk :=
      fun a ha => hok a (List.mem_cons_of_mem _ ha)
    rw [run_cons]
    have hp := performed_perform d c
    generalize perform d c = r at hp hc hrest ⊢
    cases hp with
    | refused hd => simp [IsOver, ho, hf] at hd
    | @write bs v _ _ h =>
      let d' : ByteSink ω := { d with writer := v, written := d.written + bs.length }
      obtain ⟨ht, hopen⟩ := ih hcalls.2 (d := d') ho hf hrest
      exact ⟨.write h ht, hopen⟩
    | @flush v _ _ h =>
      let d' : ByteSink ω := { d with writer := v }
      obtain ⟨ht, hopen⟩ := ih hcalls.2 (d := d') ho hf hrest
      exact ⟨.flush h ht, hopen⟩
    | writeFails => simp [Event.IsOk] at hc
    | flushFails => simp [Event.IsOk] at hc
    | finish => exact absurd rfl hcalls.1
    | finishFails => exact absurd rfl hcalls.1

/-- Where the close goes well too, the finish step has been run on what took the items. -/
theorem finish_of_run {finish : ω → Except IoFault Unit × ω} {w : ω} (calls : List (Call Bytes))
    (hcalls : .close ∉ calls)
    (hok : ∀ a ∈ (run (calls ++ [.close]) (finishing w finish)).1, a.IsOk) :
    ∃ v, Took w (Call.items calls).flatten v ∧
      finish v = (.ok (), (run (calls ++ [.close]) (finishing w finish)).2.writer) := by
  rw [run_append] at hok ⊢
  obtain ⟨hok, hclose⟩ := List.forall_mem_append.1 hok
  obtain ⟨ht, ho, hf⟩ := took_of_run calls hcalls (d := finishing w finish) rfl rfl hok
  have hfinish := finish_run calls (finishing w finish)
  generalize (run calls (finishing w finish)).2 = d at ht ho hf hfinish hclose ⊢
  refine ⟨d.writer, ht, ?_⟩
  have hc : (perform d .close).1.IsOk := hclose _ List.mem_cons_self
  show finish d.writer = (.ok (), (perform d .close).2.writer)
  have hp := performed_perform d .close
  generalize perform d .close = r at hp hc ⊢
  cases hp with
  | refused hd => simp [IsOver, ho, hf] at hd
  | finish _ _ h => rw [← h, hfinish]; rfl
  | finishFails => simp [Event.IsOk] at hc

end ByteSink

namespace Codec
open ByteReader
variable {codecs : List Codec}

variable {ρ : Type u} [ByteReader ρ] [FiniteReader ρ] {r : ρ}

theorem openReader_of_decode {c : Codec} {demand : Demand} {f out : Feed}
    (h : c.decode demand f = .ok out) : c.openReader demand f = .ok out := by
  rw [openReader, h]
  rfl

theorem encode_of_openWriter {c : Codec} {ω : Type} {target : ω} {w : c.Writer ω}
    (h : c.openWriter target = .ok w) : c.encode target = .ok w := by
  unfold openWriter at h
  cases he : c.encode target with
  | error e => simp [he] at h
  | ok w' => simpa [he] using h

/-- Without a codec, the bytes are stored as they are. -/
theorem received_of_plain {c : Codec} (hc : c = plain) {ω : Type} [ByteWriter ω] [PatientWriter ω]
    {target : ω} {u v w : c.Writer (LoggedWriter ω)} {bs : Bytes}
    (hw : c.encode { inner := target } = .ok w) (ht : Took w bs v)
    (hu : FinishWriter.finish v = (.ok (), u)) : received (c.target u).log = bs := by
  subst hc
  have hstart : ({ target := { inner := target } } : Buffered (LoggedWriter ω)) = w :=
    Except.ok.inj hw
  subst hstart
  exact Buffered.received_of_took ht hu

theorem lossless_ofPath (hl : ∀ c ∈ codecs, c.Lossless) (path : String) :
    (ofPath codecs path).Lossless := by
  unfold ofPath
  cases hx : ofExtension? codecs path with
  | none => exact lossless_plain
  | some c => exact hl c (List.mem_of_find?_eq_some hx)

/-- What was written through the sink for a name is read again under that name, if the name tells
the codec or the bytes do not look like those of any. Otherwise the bytes, which were stored as they
are, are given to the first codec that they look like. -/
theorem reads_back (hl : ∀ c ∈ codecs, c.Lossless) (hm : ∀ c ∈ codecs, c.magic ≠ some [])
    (path : String) {ω : Type} [ByteWriter ω] [PatientWriter ω] (target : ω)
    {w : (ofPath codecs path).Writer (LoggedWriter ω)}
    (hw : (ofPath codecs path).openWriter ({ inner := target } : LoggedWriter ω) = .ok w)
    (calls : List (Call Bytes)) (hcalls : .close ∉ calls)
    (hok : ∀ a ∈ (run (calls ++ [.close]) (ByteSink.finishing w FinishWriter.finish)).1, a.IsOk)
    (hr : HandsOut none r (received ((ofPath codecs path).target
      (run (calls ++ [.close]) (ByteSink.finishing w FinishWriter.finish)).2.writer).log))
    (demand : Demand) :
    let data := (Call.items calls).flatten
    ((∃ c ∈ codecs, Fits path c) ∨ (∀ c ∈ codecs, ¬StartsLike data c) →
      ∃ out, reader codecs path demand r = .ok out ∧ HandsOut none out data) ∧
    ((∀ c ∈ codecs, ¬Fits path c) → ∀ c, IsFirst (StartsLike data) codecs c →
      Opens c demand data none (reader codecs path demand r)) := by
  intro data
  obtain ⟨v, ht, hu⟩ := ByteSink.finish_of_run calls hcalls hok
  generalize (run (calls ++ [.close]) (ByteSink.finishing w FinishWriter.finish)).2.writer = u
    at hu hr
  have hw := encode_of_openWriter hw
  cases hx : ofExtension? codecs path with
  | some c =>
    have hlossless := lossless_ofPath hl path
    have hf := hr.holds_contents hlossless.readSize_pos
    obtain ⟨out, hout, hdata⟩ := hlossless.decodes hw ht hu demand hf
    have hread : reader codecs path demand r = (ofPath codecs path).openReader demand
        (contents (ofPath codecs path).readSize r) := by
      rw [ofPath, hx]
      exact reader_of_extension hx demand
    refine ⟨fun _ => ⟨out, hread.trans (openReader_of_decode hout), hdata⟩, fun hnone => ?_⟩
    simp [ofExtension?_eq_none_iff.2 hnone] at hx
  | none =>
    have hplain : ofPath codecs path = plain := by rw [ofPath, hx, Option.getD_none]
    rw [received_of_plain hplain hw ht hu] at hr
    obtain ⟨f, hf, hread⟩ := reader_of_magic hx hm (fun c hc => (hl c hc).readSize_pos) hr
      (.inr rfl) demand
    constructor
    · rintro (⟨c, hc, hfits⟩ | hmarks)
      · exact absurd hfits (ofExtension?_eq_none_iff.1 hx c hc)
      · rw [find?_marks_eq_none hmarks] at hread
        exact ⟨f, hread, hf.handsOut⟩
    · intro _ c hc
      rw [hc.find?_eq fun _ => marks_iff] at hread
      exact ⟨f, hf, hread⟩

end Codec

namespace Double.MappedWriter
variable {f g : UInt8 → UInt8} {ω : Type} [ByteWriter ω]

theorem write_target {bs : Bytes} {answer : Except IoFault Nat}
    {v w : MappedWriter f (LoggedWriter ω)} (h : ByteWriter.write bs w = (answer, v)) :
    ByteWriter.write (bs.map f) w.target = (answer, v.target) := by
  obtain ⟨ha, rfl⟩ := Prod.mk.inj h
  exact Prod.ext ha rfl

theorem received_of_flush {v w : MappedWriter f (LoggedWriter ω)} {answer : Except IoFault Unit}
    (h : w.flush = (answer, v)) : received v.target.log = received w.target.log := by
  obtain ⟨ha, rfl⟩ := Prod.mk.inj h
  exact LoggedWriter.received_of_flush (Prod.ext ha rfl)

/-- Where `g` undoes `f`, it gives back what the writer has taken. -/
theorem takes (hg : ∀ b, g (f b) = b) :
    Takes fun w : MappedWriter f (LoggedWriter ω) => (received w.target.log).map g where
  ok {bs n v w} h := by
    have hmap : (bs.map f).map g = bs := by
      rw [List.map_map, show g ∘ f = id from funext hg, List.map_id]
    rw [LoggedWriter.takes_received.ok (write_target h), List.map_append, List.map_take, hmap]
  wait h he := by rw [LoggedWriter.takes_received.wait (write_target h) he]

theorem lossless (hg : ∀ b, g (f b) = b) (name : String) (extensions : List String)
    (magic : Option Bytes) :
    Codec.Lossless { mappedPacking f with
      name, extensions, magic, decode := (Decoding.change (List.map g)).apply } where
  readSize_pos := Nat.zero_lt_succ _
  decodes {ω _ _ target u v w bs} hw h hu demand feed hf := by
    obtain rfl : (⟨{ inner := target }⟩ : MappedWriter f (LoggedWriter ω)) = w :=
      Except.ok.inj hw
    have htook : (received (MappedWriter.target u).log).map g = bs := by
      rw [received_of_flush (v := u) (w := v) hu]
      exact (takes hg).took (fun h => by rw [received_of_flush h]) h
    refine ⟨.ofBytes bs none, ?_, (Feed.holds_ofBytes bs none).handsOut⟩
    rw [← htook]
    simp only [Decoding.apply, hf.fault, Feed.bytes, hf.flatten]
    rfl

end Double.MappedWriter

namespace Codec
open ByteReader

/-- One name tells the codec. Under the other the bytes are stored as they are, and start with the
magic bytes. -/
theorem reads_back_flipped :
    let calls : List (Call Bytes) := [.write [7, 7, 1], .close]
    let flipped : Double.MappedWriter (~~~·) (LoggedWriter Buffer) := ⟨{ inner := {} }⟩
    let plain : Buffered (LoggedWriter Buffer) := { target := { inner := {} } }
    let (answers, stored) := run calls (ByteSink.finishing flipped FinishWriter.finish)
    let (answers', stored') := run calls (ByteSink.finishing plain FinishWriter.finish)
    Double.flipped.Lossless ∧ PatientWriter Buffer ∧
      (∀ a ∈ answers, a.IsOk) ∧ received stored.writer.target.log = [248, 248, 254] ∧
      (∃ out, reader [Double.flipped] "a.flip" .list (⟨[[248], [248, 254]], none⟩ : Feed) =
          .ok out ∧ HandsOut none out [7, 7, 1]) ∧
      (∀ a ∈ answers', a.IsOk) ∧ received stored'.writer.target.log = [7, 7, 1] ∧
      Opens Double.flipped .list [7, 7, 1] none
        (reader [Double.flipped] "a.txt" .list (⟨[[7], [7, 1]], none⟩ : Feed)) := by
  intro calls flipped plain
  have hl : Double.flipped.Lossless :=
    Double.MappedWriter.lossless (g := (~~~·)) (by simp) "flipped" [".flip"] (some [7, 7])
  have hlossless : ∀ c ∈ [Double.flipped], c.Lossless := by simpa using hl
  have hmagic : ∀ c ∈ [Double.flipped], c.magic ≠ some [] := by simp [Double.flipped]
  have hstored : (run calls (ByteSink.finishing flipped FinishWriter.finish)).1 =
        [.write [7, 7, 1] (.ok 3), .close (.ok ())] ∧
      received (run calls (ByteSink.finishing flipped FinishWriter.finish)).2.writer.target.log =
        [248, 248, 254] := by
    subst calls flipped
    constructor <;> cbv
  have hstored' : (run calls (ByteSink.finishing plain FinishWriter.finish)).1 =
        [.write [7, 7, 1] (.ok 3), .close (.ok ())] ∧
      received (run calls (ByteSink.finishing plain FinishWriter.finish)).2.writer.target.log =
        [7, 7, 1] := by
    subst calls plain
    constructor <;> cbv
  have hok : ∀ a ∈ (run calls (ByteSink.finishing flipped FinishWriter.finish)).1, a.IsOk := by
    rw [hstored.1]
    simp [Event.IsOk]
  have hok' : ∀ a ∈ (run calls (ByteSink.finishing plain FinishWriter.finish)).1, a.IsOk := by
    rw [hstored'.1]
    simp [Event.IsOk]
  have hflip : Fits "a.flip" Double.flipped := by
    rw [← fits_iff]
    decide +kernel
  have htxt : ∀ c ∈ [Double.flipped], ¬Fits "a.txt" c := by
    intro c hc
    rw [← fits_iff, List.mem_singleton.1 hc]
    decide +kernel
  have hread : HandsOut none (⟨[[248], [248, 254]], none⟩ : Feed) [248, 248, 254] :=
    Feed.Holds.handsOut ⟨rfl, by simp, rfl⟩
  have hread' : HandsOut none (⟨[[7], [7, 1]], none⟩ : Feed) [7, 7, 1] :=
    Feed.Holds.handsOut ⟨rfl, by simp, rfl⟩
  refine ⟨hl, inferInstance, hok, hstored.2, ?_, hok', hstored'.2, ?_⟩
  · have h := reads_back hlossless hmagic "a.flip" ({} : Buffer) (w := flipped) rfl
      [.write [7, 7, 1]] (by simp) hok (hstored.2 ▸ hread) .list
    exact h.1 (.inl ⟨_, List.mem_singleton_self _, hflip⟩)
  · have h := reads_back hlossless hmagic "a.txt" ({} : Buffer) (w := plain) rfl
      [.write [7, 7, 1]] (by simp) hok' (hstored'.2 ▸ hread') .list
    exact h.2 htxt _ ⟨⟨[7, 7], rfl, by decide⟩, [], [], rfl, by simp⟩

end Codec
end PullStreams
