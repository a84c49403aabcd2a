import PullStreams.Codec.Basic
import PullStreams.Proofs.Handing
import PullStreams.Proofs.LoggedWriter

namespace PullStreams
open ByteWriter WriterEvent

inductive Took {ω : Type u} [ByteWriter ω] [PatientWriter ω] : ω → Bytes → ω → Prop
  | nil (w : ω) : Took w [] w
  | write {u v w : ω} {bs more : Bytes} (h : writeAll bs w = (.ok (), v)) (rest : Took v more u) :
    Took w (bs ++ more) u
  | flush {u v w : ω} {bs : Bytes} (h : ByteWriter.flush w = (.ok (), v)) (rest : Took v bs u) :
    Took w bs u

/-- Whatever is written and wherever it is flushed, what the target has received when the output is
finished is decoded to what was written. -/
structure Codec.Lossless (c : Codec) : Prop where
  readSize_pos : 0 < c.readSize
  decodes {ω : Type} [ByteWriter ω] [PatientWriter ω] {target : ω}
    {u v w : c.Writer (LoggedWriter ω)} {bs : Bytes} (hw : c.encode { inner := target } = .ok w)
    (h : Took w bs v) (hu : FinishWriter.finish v = (.ok (), u)) (demand : Demand) {f : Feed}
    (hf : f.Holds (received (c.target u).log) none) :
    ∃ out, c.decode demand f = .ok out ∧ ByteReader.HandsOut none out bs

/-- With each write, `taken` grows by what the writer has taken. -/
structure Takes {ω : Type u} [ByteWriter ω] (taken : ω → Bytes) : Prop where
  ok {bs : Bytes} {n : Nat} {v w : ω} :
    ByteWriter.write bs w = (.ok n, v) → taken v = taken w ++ bs.take n
  wait {bs : Bytes} {e : IoFault} {v w : ω} :
    ByteWriter.write bs w = (.error e, v) → e.isInterrupted = true → taken v = taken w

namespace Takes
variable {ω : Type u} [ByteWriter ω] [PatientWriter ω] {taken : ω → Bytes} {v w : ω}

theorem drain (ht : Takes taken) {nothingTaken : IoFault} {bs rest : Bytes}
    (h : drain nothingTaken bs w = (.ok (), rest, v)) : taken v = taken w ++ bs := by
  fun_induction ByteWriter.drain nothingTaken bs w with
  | case1 w =>
    cases h
    rw [List.append_nil]
  | case2 w b rest' v' hw => cases h
  | case3 w b rest' n v' hw ih =>
    have hb : (b :: rest').take (n + 1) ++ rest'.drop n = b :: rest' :=
      List.take_append_drop (n + 1) (b :: rest')
    rw [ih h, ht.ok hw, List.append_assoc, hb]
  | case4 w b rest' e v' hw he ih => rw [ih h, ht.wait hw he]
  | case5 w b rest' e v' hw he => cases h

theorem writeAll (ht : Takes taken) {bs : Bytes} (h : writeAll bs w = (.ok (), v)) :
    taken v = taken w ++ bs := by
  obtain ⟨hr, rfl⟩ := Prod.mk.inj h
  exact ht.drain (Prod.ext hr rfl)

/-- All that went in was taken, if a flush takes nothing. -/
theorem took (ht : Takes taken)
    (hflush : ∀ {v w}, ByteWriter.flush w = (.ok (), v) → taken v = taken w) {bs : Bytes}
    (h : Took w bs v) : taken v = taken w ++ bs := by
  induction h with
  | nil w => rw [List.append_nil]
  | write hw _ ih => rw [ih, ht.writeAll hw, List.append_assoc]
  | flush hw _ ih => rw [ih, hflush hw]

end Takes

namespace LoggedWriter
variable {ω : Type u} [ByteWriter ω] {v w : LoggedWriter ω}

theorem received_of_flush {answer : Except IoFault Unit} (h : ByteWriter.flush w = (answer, v)) :
    received v.log = received w.log := by
  rw [log_of_flush h, received_append]
  simp [received, taken]

theorem takes_received : Takes fun w : LoggedWriter ω => received w.log where
  ok h := by
    rw [log_of_write h, received_append]
    simp [received, taken]
  wait h _ := by
    rw [log_of_write h, received_append]
    simp [received, taken]

end LoggedWriter

namespace Buffered
variable {ω : Type u} [ByteWriter ω] [PatientWriter ω] {v w : Buffered (LoggedWriter ω)}

omit [ByteWriter ω] [PatientWriter ω] in
/-- All bytes that the buffer has got. -/
def total (w : Buffered (LoggedWriter ω)) : Bytes := received w.target.log ++ w.pending.toList

omit [ByteWriter ω] [PatientWriter ω] in
theorem total_of_empty (hp : w.pending = {}) : w.total = received w.target.log := by
  simp [total, hp]

theorem total_of_drain (h : w.drain = (.ok (), v)) : v.total = w.total := by
  have hp := pending_of_drain h
  obtain ⟨hr, rfl⟩ := Prod.mk.inj h
  rw [total_of_empty hp]
  exact LoggedWriter.takes_received.drain (Prod.ext hr rfl)

theorem total_of_makeRoom {n : Nat} (h : w.makeRoom n = (.ok (), v)) : v.total = w.total := by
  unfold makeRoom at h
  split at h
  · exact total_of_drain h
  · cases h
    rfl

/-- A write fails to make room, is held back, or goes straight through an empty buffer. -/
theorem write_cases {bs : Bytes} {answer : Except IoFault Nat} (h : w.write bs = (answer, v)) :
    (∃ e, answer = .error e ∧ e.isInterrupted = false) ∨
    (answer = .ok bs.length ∧ v.total = w.total ++ bs) ∨
    v.pending = {} ∧ ∃ t, received t.log = w.total ∧
      ByteWriter.write bs t = (answer, v.target) := by
  unfold write at h
  split at h
  · rename_i e u hroom
    cases h
    exact .inl ⟨e, rfl, not_interrupted_of_makeRoom hroom⟩
  · rename_i u hroom
    have ht := total_of_makeRoom hroom
    split at h
    · cases h
      refine .inr (.inl ⟨rfl, ?_⟩)
      rw [← ht]
      simp [total]
    · rename_i hlarge
      obtain ⟨hp, -⟩ := pending_of_makeRoom hlarge hroom
      rcases hw : ByteWriter.write bs u.target with ⟨answer', t⟩
      rw [hw] at h
      cases h
      exact .inr (.inr ⟨hp, u.target, by rw [← ht, total_of_empty hp], hw⟩)

theorem takes_total : Takes (total : Buffered (LoggedWriter ω) → Bytes) where
  ok {bs n v w} h := by
    rcases write_cases h with ⟨e, he, -⟩ | ⟨hn, ht⟩ | ⟨hp, t, ht, hw⟩
    · cases he
    · cases hn
      rw [ht, List.take_length]
    · rw [total_of_empty hp, LoggedWriter.takes_received.ok hw, ht]
  wait {bs e v w} h he := by
    rcases write_cases h with ⟨e', he', hi⟩ | ⟨hn, -⟩ | ⟨hp, t, ht, hw⟩
    · cases he'
      simp [he] at hi
    · cases hn
    · rw [total_of_empty hp, LoggedWriter.takes_received.wait hw he, ht]

theorem total_of_flush (h : w.flush = (.ok (), v)) : v.total = w.total ∧ v.pending = {} := by
  unfold flush at h
  split at h
  · rename_i u hd
    have hp := pending_of_drain hd
    rcases hw : ByteWriter.flush u.target with ⟨answer, t⟩
    rw [hw] at h
    obtain ⟨-, rfl⟩ := Prod.mk.inj h
    refine ⟨?_, hp⟩
    rw [← total_of_drain hd, total_of_empty hp]
    show received t.log ++ u.pending.toList = _
    rw [hp, Deque.toList_empty, List.append_nil]
    exact LoggedWriter.received_of_flush hw
  · cases h

/-- The target of a buffer that is finished has received all. -/
theorem received_of_finish (h : FinishWriter.finish w = (.ok (), v)) :
    received v.target.log = w.total := by
  simp only [FinishWriter.finish] at h
  split at h
  · rename_i u hflush
    cases h
    obtain ⟨ht, hp⟩ := total_of_flush hflush
    rw [← ht, total_of_empty hp]
  · cases h

theorem received_of_took {target : ω} {bs : Bytes}
    (h : Took ({ target := { inner := target } } : Buffered (LoggedWriter ω)) bs w)
    (hv : FinishWriter.finish w = (.ok (), v)) : received v.target.log = bs := by
  have ht := takes_total.took (fun h => (total_of_flush h).1) h
  rw [received_of_finish hv, ht]
  rfl

end Buffered

namespace Codec

/-- Bytes that are only held back for a while are as they were. -/
theorem lossless_buffered (name : String) (extensions : List String) (magic : Option Bytes) :
    Lossless { Packing.buffered with name, extensions, magic, decode := fun _ => .ok } where
  readSize_pos := Nat.zero_lt_succ _
  decodes {ω _ _ target u v w bs} hw h hu demand f hf := by
    have hstart : ({ target := { inner := target } } : Buffered (LoggedWriter ω)) = w :=
      Except.ok.inj hw
    subst hstart
    have hall : received (Buffered.target u).log = bs := Buffered.received_of_took h hu
    refine ⟨f, rfl, ?_⟩
    rw [← hall]
    exact hf.handsOut

theorem lossless_plain : plain.Lossless := lossless_buffered "plain" [] none

end Codec
end PullStreams
