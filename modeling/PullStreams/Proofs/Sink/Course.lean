import PullStreams.Double.Writer
import PullStreams.Proofs.LoggedWriter
import PullStreams.Proofs.Sink.Calls
import PullStreams.Sink.Bytes

namespace PullStreams

/-- How a writer was let go. -/
inductive Parting where
  | finished (answer : Except IoFault Unit)
  | abandoned

structure Parted (ω : Type u) where
  inner : ω
  partings : List Parting := []

namespace Parted
open ByteWriter
variable {ω : Type u}

instance [ByteWriter ω] : ByteWriter (Parted ω) where
  write bs w := (ByteWriter.write bs w.inner).map id ({ w with inner := · })
  flush w := (ByteWriter.flush w.inner).map id ({ w with inner := · })
  abandon w := ⟨abandon w.inner, w.partings ++ [.abandoned]⟩

/-- A finish step whose run is remembered. The calls that it makes itself are not logged. -/
def finishing (finish : ω → Except IoFault Unit × ω) (w : Parted (LoggedWriter ω)) :
    Except IoFault Unit × Parted (LoggedWriter ω) :=
  let (answer, inner) := finish w.inner.inner
  (answer, ⟨{ w.inner with inner }, w.partings ++ [.finished answer]⟩)

variable [ByteWriter ω]

theorem mirrors_inner : Mirrors (inner : Parted ω → ω) where
  write _ _ := rfl
  flush _ := rfl

theorem mirrors_mk (partings : List Parting) : Mirrors (mk · partings : ω → Parted ω) where
  write _ _ := rfl
  flush _ := rfl

instance [PatientWriter ω] : PatientWriter (Parted ω) := mirrors_inner.patientWriter

section Logged
variable {v w : Parted (LoggedWriter ω)}

theorem wrote_of_writeAll [PatientWriter ω] {bs : Bytes} {answer : Except IoFault Unit}
    (h : writeAll bs w = (answer, v)) :
    LoggedWriter.Wrote bs w.inner (answer, v.inner) ∧ v.partings = w.partings := by
  have hm : writeAll bs w = (writeAll bs w.inner).map id (mk · w.partings) :=
    (mirrors_mk w.partings).writeAll bs w.inner
  obtain ⟨rfl, rfl⟩ := Prod.mk.inj (h.symm.trans hm)
  exact ⟨LoggedWriter.wrote_writeAll bs w.inner, rfl⟩

theorem log_of_flush {answer : Except IoFault Unit} (h : ByteWriter.flush w = (answer, v)) :
    v.inner.log = w.inner.log ++ [.flush answer] ∧ v.partings = w.partings := by
  obtain ⟨rfl, rfl⟩ := Prod.mk.inj h
  exact ⟨rfl, rfl⟩

omit [ByteWriter ω] in
theorem log_of_finishing {finish : ω → Except IoFault Unit × ω} {answer : Except IoFault Unit}
    (h : finishing finish w = (answer, v)) :
    v.inner.log = w.inner.log ∧ v.partings = w.partings ++ [.finished answer] := by
  obtain ⟨rfl, rfl⟩ := Prod.mk.inj h
  exact ⟨rfl, rfl⟩

end Logged
end Parted

namespace ByteSink
open ByteWriter WriterEvent Sink

def IsOver {ω : Type u} (d : ByteSink ω) : Prop := d.isOpen = false ∨ d.failure ≠ none

def refusal {ω : Type u} (d : ByteSink ω) : StreamFault := d.failure.getD .closed

def letGo {ω : Type u} [ByteWriter ω] (d : ByteSink ω) : ByteSink ω :=
  if d.isOpen then { d with writer := abandon d.writer, isOpen := false } else d

section LetGo
variable {ω : Type u} [ByteWriter ω] (d : ByteSink ω)

@[simp] theorem isOpen_letGo : d.letGo.isOpen = false := by
  cases ho : d.isOpen <;> simp [letGo, ho]

@[simp] theorem written_letGo : d.letGo.written = d.written := by
  cases ho : d.isOpen <;> simp [letGo, ho]

@[simp] theorem failure_letGo : d.letGo.failure = d.failure := by
  cases ho : d.isOpen <;> simp [letGo, ho]

@[simp] theorem finish_letGo : d.letGo.finish = d.finish := by
  cases ho : d.isOpen <;> simp [letGo, ho]

theorem letGo_of_closed {d : ByteSink ω} (ho : d.isOpen = false) : d.letGo = d := by
  simp [letGo, ho]

end LetGo

inductive Refused (e : StreamFault) : Event Bytes → Prop
  | write (bs : Bytes) : Refused e (.write bs (.error e))
  | flush : Refused e (.flush (.error e))
  | close : Refused e (.close (.ok ()))

inductive Went : List (Event Bytes) → List WriterEvent → Prop
  | nil : Went [] []
  | write {events : List (Event Bytes)} {log chunk : List WriterEvent} (h : Went events log)
    (hs : Smooth chunk) :
    Went (events ++ [.write (received chunk) (.ok (received chunk).length)]) (log ++ chunk)
  | flush {events : List (Event Bytes)} {log : List WriterEvent} (h : Went events log) :
    Went (events ++ [.flush (.ok ())]) (log ++ [.flush (.ok ())])

/-- A call that failed with `e` in the writer, and what it left in the log. -/
inductive Failed (e : IoFault) : Event Bytes → List WriterEvent → Prop
  | write {chunk : List WriterEvent} {rest : Bytes} {last : WriterEvent} (hs : Smooth chunk)
    (hl : Halts rest e last) :
    Failed e (.write (received chunk ++ rest) (.error (.io e))) (chunk ++ [last])
  | flush : Failed e (.flush (.error (.io e))) [.flush (.error e)]

/-- What has happened to a sink, from its answers and the calls of its writer. -/
inductive Course {ω : Type u} (events : List (Event Bytes))
    (d : ByteSink (Parted (LoggedWriter ω))) : Prop
  | running (h : Went events d.writer.inner.log) (hp : d.writer.partings = [])
    (ho : d.isOpen = true) (hf : d.failure = none)
  | failed {before after : List (Event Bytes)} {event : Event Bytes} {log last : List WriterEvent}
    {e : IoFault} (he : events = before ++ event :: after) (h : Went before log)
    (hfail : Failed e event last) (ha : ∀ a ∈ after, Refused (.io e) a)
    (hl : d.writer.inner.log = log ++ last)
    (hp : d.writer.partings = if after.any Event.isClose then [.abandoned] else [])
    (ho : d.isOpen = !after.any Event.isClose) (hf : d.failure = some (.io e))
  | closed {before after : List (Event Bytes)} (he : events = before ++ .close (.ok ()) :: after)
    (h : Went before d.writer.inner.log) (ha : ∀ a ∈ after, Refused .closed a)
    (hp : d.writer.partings = [.finished (.ok ())]) (ho : d.isOpen = false) (hf : d.failure = none)
  | unfinished {before after : List (Event Bytes)} {e : IoFault}
    (he : events = before ++ .close (.error (.io e)) :: after)
    (h : Went before d.writer.inner.log) (ha : ∀ a ∈ after, Refused (.io e) a)
    (hp : d.writer.partings = [.finished (.error e)]) (ho : d.isOpen = false)
    (hf : d.failure = some (.io e))

theorem items_of_refused {e : StreamFault} {events : List (Event Bytes)}
    (h : ∀ a ∈ events, Refused e a) : Event.items events = [] := by
  apply List.filterMap_eq_nil_iff.2
  intro a ha
  cases h a ha <;> rfl

namespace Went
variable {events : List (Event Bytes)} {log : List WriterEvent}

theorem isOk (h : Went events log) : ∀ a ∈ events, a.IsOk := by
  induction h with
  | nil => simp
  | write _ _ ih => exact List.forall_mem_append.2 ⟨ih, by simp [Event.IsOk]⟩
  | flush _ ih => exact List.forall_mem_append.2 ⟨ih, by simp [Event.IsOk]⟩

theorem received (h : Went events log) : received log = (Event.items events).flatten := by
  induction h with
  | nil => rfl
  | write _ _ ih => simp [received_append, ih, Event.item?]
  | flush _ ih =>
    rw [received_append, ih]
    simp [Event.item?, WriterEvent.received, taken]

end Went

section Perform
variable {ω : Type u} [ByteWriter ω]

/-- One call of a sink, by what its writer does. -/
inductive Performed [PatientWriter ω] (d : ByteSink ω) :
    Call Bytes → Event Bytes × ByteSink ω → Prop
  | refused {c : Call Bytes} {event : Event Bytes} (hd : d.IsOver) (hr : Refused d.refusal event) :
    Performed d c (event, if event.isClose then d.letGo else d)
  | write {bs : Bytes} {v : ω} (ho : d.isOpen = true) (hf : d.failure = none)
    (h : writeAll bs d.writer = (.ok (), v)) :
    Performed d (.write bs)
      (.write bs (.ok bs.length), { d with writer := v, written := d.written + bs.length })
  | writeFails {bs : Bytes} {v : ω} {e : IoFault} (ho : d.isOpen = true) (hf : d.failure = none)
    (h : writeAll bs d.writer = (.error e, v)) :
    Performed d (.write bs)
      (.write bs (.error (.io e)), { d with writer := v, failure := some (.io e) })
  | flush {v : ω} (ho : d.isOpen = true) (hf : d.failure = none)
    (h : ByteWriter.flush d.writer = (.ok (), v)) :
    Performed d .flush (.flush (.ok ()), { d with writer := v })
  | flushFails {v : ω} {e : IoFault} (ho : d.isOpen = true) (hf : d.failure = none)
    (h : ByteWriter.flush d.writer = (.error e, v)) :
    Performed d .flush (.flush (.error (.io e)), { d with writer := v, failure := some (.io e) })
  | finish {v : ω} (ho : d.isOpen = true) (hf : d.failure = none)
    (h : d.finish d.writer = (.ok (), v)) :
    Performed d .close (.close (.ok ()), { d with writer := v, isOpen := false })
  | finishFails {v : ω} {e : IoFault} (ho : d.isOpen = true) (hf : d.failure = none)
    (h : d.finish d.writer = (.error e, v)) :
    Performed d .close
      (.close (.error (.io e)), { d with writer := v, isOpen := false, failure := some (.io e) })

variable [PatientWriter ω] {d : ByteSink ω}

theorem performed_of_over (hd : d.IsOver) (c : Call Bytes) : Performed d c (perform d c) := by
  obtain ⟨writer, finish, isOpen, written, failure⟩ := d
  cases c with
  | write bs =>
    cases failure with
    | some e => exact .refused hd (.write bs)
    | none =>
      obtain rfl : isOpen = false := by simpa [IsOver] using hd
      exact .refused hd (.write bs)
  | flush =>
    cases failure with
    | some e => exact .refused hd .flush
    | none =>
      obtain rfl : isOpen = false := by simpa [IsOver] using hd
      exact .refused hd .flush
  | close =>
    cases isOpen with
    | false => exact .refused hd .close
    | true =>
      obtain ⟨e, rfl⟩ : ∃ e, failure = some e := by
        simpa [IsOver, Option.ne_none_iff_exists'] using hd
      exact .refused hd .close

theorem performed_perform (d : ByteSink ω) (c : Call Bytes) : Performed d c (perform d c) := by
  by_cases hd : d.IsOver
  · exact performed_of_over hd c
  · obtain ⟨ho, hf⟩ : d.isOpen = true ∧ d.failure = none := by simpa [IsOver] using hd
    cases c with
    | write bs =>
      rcases h : writeAll bs d.writer with ⟨(e | u), v⟩
      · simpa [perform, Sink.write, write, fail, ho, hf, h] using Performed.writeFails ho hf h
      · simpa [perform, Sink.write, write, ho, hf, h] using Performed.write ho hf h
    | flush =>
      rcases h : ByteWriter.flush d.writer with ⟨(e | u), v⟩
      · simpa [perform, Sink.flush, flush, fail, ho, hf, h] using Performed.flushFails ho hf h
      · simpa [perform, Sink.flush, flush, ho, hf, h] using Performed.flush ho hf h
    | close =>
      rcases h : d.finish d.writer with ⟨(e | u), v⟩
      · simpa [perform, Sink.close, close, fail, ho, hf, h] using Performed.finishFails ho hf h
      · simpa [perform, Sink.close, close, ho, hf, h] using Performed.finish ho hf h

theorem written_perform (d : ByteSink ω) (c : Call Bytes) :
    (perform d c).2.written = d.written + (perform d c).1.units := by
  have hp := performed_perform d c
  generalize perform d c = r at hp ⊢
  cases hp with
  | refused hd hr => cases hr <;> simp [Event.units, Event.isClose]
  | write => rfl
  | writeFails => rfl
  | flush => rfl
  | flushFails => rfl
  | finish => rfl
  | finishFails => rfl

theorem finish_perform (d : ByteSink ω) (c : Call Bytes) : (perform d c).2.finish = d.finish := by
  have hp := performed_perform d c
  generalize perform d c = r at hp ⊢
  cases hp with
  | refused hd hr => cases hr <;> simp [Event.isClose]
  | write => rfl
  | writeFails => rfl
  | flush => rfl
  | flushFails => rfl
  | finish => rfl
  | finishFails => rfl

theorem finish_run (calls : List (Call Bytes)) (d : ByteSink ω) :
    (run calls d).2.finish = d.finish :=
  run_induction (fun _ d' => d'.finish = d.finish)
    (fun _ d' c h => (finish_perform d' c).trans h) rfl calls

end Perform

namespace Course
variable {ω : Type u} {events : List (Event Bytes)} {d : ByteSink (Parted (LoggedWriter ω))}

/-- The writer has the items that the sink took, and then maybe the beginning of the item on which a
write failed first. -/
theorem received (h : Course events d) : ∃ part : Bytes,
    WriterEvent.received d.writer.inner.log = (Event.items events).flatten ++ part ∧
      (part ≠ [] → ∃ before bs e after, events = before ++ .write bs (.error e) :: after ∧
        (∀ a ∈ before, a.IsOk) ∧ part <+: bs) := by
  cases h with
  | running h => exact ⟨[], by rw [h.received, List.append_nil], by simp⟩
  | @failed before after event log last e he h hfail ha hl =>
    subst he
    cases hfail with
    | @write chunk rest last hs hh =>
      refine ⟨WriterEvent.received chunk, ?_, fun _ => ?_⟩
      · rw [hl, received_append, received_append, h.received, hh.received]
        simp [Event.item?, items_of_refused ha]
      · exact ⟨before, _, _, after, rfl, h.isOk, List.prefix_append _ _⟩
    | flush =>
      refine ⟨[], ?_, by simp⟩
      rw [hl, received_append, h.received]
      simp [Event.item?, items_of_refused ha, WriterEvent.received, taken]
  | closed he h ha =>
    subst he
    exact ⟨[], by simp [h.received, Event.item?, items_of_refused ha], by simp⟩
  | unfinished he h ha =>
    subst he
    exact ⟨[], by simp [h.received, Event.item?, items_of_refused ha], by simp⟩

variable [ByteWriter ω] [PatientWriter ω] {finish : ω → Except IoFault Unit × ω}

theorem step_of_running (h : Went events d.writer.inner.log) (hp : d.writer.partings = [])
    (hfinish : d.finish = Parted.finishing finish) (ho : d.isOpen = true) (hf : d.failure = none)
    (c : Call Bytes) : Course (events ++ [(perform d c).1]) (perform d c).2 := by
  have hc := performed_perform d c
  generalize perform d c = r at hc ⊢
  cases hc with
  | refused hd => simp [IsOver, ho, hf] at hd
  | @write bs v _ _ hw =>
    obtain ⟨hw, hv⟩ := Parted.wrote_of_writeAll hw
    cases hw with
    | @all _ chunk hl hs hr =>
      subst hr
      refine .running ?_ (hv.trans hp) ho hf
      rw [hl]
      exact h.write hs
  | @writeFails bs v e _ _ hw =>
    obtain ⟨hw, hv⟩ := Parted.wrote_of_writeAll hw
    cases hw with
    | @part _ chunk rest last _ hl hs hr hh =>
      subst hr
      rw [List.append_assoc] at hl
      exact .failed rfl h (.write hs hh) (by simp) hl (hv.trans hp) ho rfl
  | @flush v _ _ hw =>
    obtain ⟨hl, hv⟩ := Parted.log_of_flush hw
    refine .running ?_ (hv.trans hp) ho hf
    rw [hl]
    exact h.flush
  | @flushFails v e _ _ hw =>
    obtain ⟨hl, hv⟩ := Parted.log_of_flush hw
    exact .failed rfl h .flush (by simp) hl (hv.trans hp) ho rfl
  | @finish v _ _ hw =>
    rw [hfinish] at hw
    obtain ⟨hl, hv⟩ := Parted.log_of_finishing hw
    rw [hp, List.nil_append] at hv
    exact .closed rfl (hl ▸ h) (by simp) hv rfl hf
  | @finishFails v e _ _ hw =>
    rw [hfinish] at hw
    obtain ⟨hl, hv⟩ := Parted.log_of_finishing hw
    rw [hp, List.nil_append] at hv
    exact .unfinished rfl (hl ▸ h) (by simp) hv rfl rfl

omit [PatientWriter ω] in
/-- A refused call of a sink that has failed lets go of the writer if it is the first close. -/
theorem failed_snoc {before after : List (Event Bytes)} {event event' : Event Bytes}
    {log last : List WriterEvent} {e : IoFault} (h : Went before log)
    (hfail : Failed e event last) (ha : ∀ a ∈ after ++ [event'], Refused (.io e) a)
    (hl : d.writer.inner.log = log ++ last)
    (hp : d.writer.partings = if after.any Event.isClose then [.abandoned] else [])
    (ho : d.isOpen = !after.any Event.isClose) (hf : d.failure = some (.io e)) :
    Course (before ++ event :: after ++ [event']) (if event'.isClose then d.letGo else d) := by
  rw [List.append_assoc]
  cases hevent : event'.isClose with
  | false =>
    refine .failed rfl h hfail ha hl ?_ ?_ hf
    · simpa [hevent] using hp
    · simpa [hevent] using ho
  | true =>
    cases hopen : d.isOpen with
    | false =>
      have hany : after.any Event.isClose = true := by simpa [hopen] using ho
      rw [if_pos rfl, letGo_of_closed hopen]
      exact .failed rfl h hfail ha hl (by simpa [hany] using hp) (by simp [hany, hopen]) hf
    | true =>
      have hany : after.any Event.isClose = false := by simpa [hopen] using ho
      have hp : d.writer.partings = [] := by simpa [hany] using hp
      have hd : d.letGo = { d with writer := abandon d.writer, isOpen := false } := by
        simp [letGo, hopen]
      rw [if_pos rfl, hd]
      refine .failed rfl h hfail ha hl ?_ (by simp [hevent]) hf
      show d.writer.partings ++ [.abandoned] = _
      simp [hp, hevent]

/-- Later answers of a sink that is over add nothing but to what came after. -/
theorem step_of_over (h : Course events d) (hd : d.IsOver) (c : Call Bytes) :
    Course (events ++ [(perform d c).1]) (perform d c).2 := by
  have hc := performed_perform d c
  generalize perform d c = r at hc ⊢
  cases hc with
  | @refused c event _ hr =>
    have hafter : ∀ {e : StreamFault} {after : List (Event Bytes)}, d.refusal = e →
        (∀ a ∈ after, Refused e a) → ∀ a ∈ after ++ [event], Refused e a := by
      rintro e after rfl ha
      exact List.forall_mem_append.2 ⟨ha, by simpa using hr⟩
    cases h with
    | running h hp ho hf => simp [IsOver, ho, hf] at hd
    | @failed before after event' log last e he h hfail ha hl hp ho hf =>
      subst he
      have hs : d.refusal = .io e := by simp [refusal, hf]
      exact failed_snoc h hfail (hafter hs ha) hl hp ho hf
    | @closed before after he h ha hp ho hf =>
      subst he
      have hs : d.refusal = .closed := by simp [refusal, hf]
      rw [letGo_of_closed ho, ite_self, List.append_assoc]
      exact .closed rfl h (hafter hs ha) hp ho hf
    | @unfinished before after e he h ha hp ho hf =>
      subst he
      have hs : d.refusal = .io e := by simp [refusal, hf]
      rw [letGo_of_closed ho, ite_self, List.append_assoc]
      exact .unfinished rfl h (hafter hs ha) hp ho hf
  | write ho hf => simp [IsOver, ho, hf] at hd
  | writeFails ho hf => simp [IsOver, ho, hf] at hd
  | flush ho hf => simp [IsOver, ho, hf] at hd
  | flushFails ho hf => simp [IsOver, ho, hf] at hd
  | finish ho hf => simp [IsOver, ho, hf] at hd
  | finishFails ho hf => simp [IsOver, ho, hf] at hd

theorem step (h : Course events d) (hfinish : d.finish = Parted.finishing finish)
    (c : Call Bytes) : Course (events ++ [(perform d c).1]) (perform d c).2 := by
  by_cases hd : d.IsOver
  · exact h.step_of_over hd c
  · obtain ⟨ho, hf⟩ : d.isOpen = true ∧ d.failure = none := by simpa [IsOver] using hd
    cases h with
    | running h hp => exact step_of_running h hp hfinish ho hf c
    | failed _ _ _ _ _ _ _ hf' => simp [hf] at hf'
    | closed _ _ _ _ ho' => simp [ho] at ho'
    | unfinished _ _ _ _ ho' => simp [ho] at ho'

end Course

def watched {ω : Type u} (d : ByteSink ω) (log : List WriterEvent) (partings : List Parting) :
    ByteSink (Parted (LoggedWriter ω)) :=
  { d with writer := ⟨⟨d.writer, log⟩, partings⟩, finish := Parted.finishing d.finish }

section Watched
variable {ω : Type u} [ByteWriter ω] [PatientWriter ω]

theorem writeAll_watched (bs : Bytes) (w : ω) (log : List WriterEvent) (partings : List Parting) :
    ∃ log', writeAll bs (⟨⟨w, log⟩, partings⟩ : Parted (LoggedWriter ω)) =
      ((writeAll bs w).1, ⟨⟨(writeAll bs w).2, log'⟩, partings⟩) := by
  have hm := (Parted.mirrors_mk partings).writeAll bs (⟨w, log⟩ : LoggedWriter ω)
  have hl := LoggedWriter.writeAll_inner bs (⟨w, log⟩ : LoggedWriter ω)
  refine ⟨(writeAll bs (⟨w, log⟩ : LoggedWriter ω)).2.log, hm.trans ?_⟩
  simp only [hl]
  rfl

theorem perform_watched (d : ByteSink ω) (log : List WriterEvent) (partings : List Parting)
    (c : Call Bytes) : ∃ log' partings', perform (d.watched log partings) c =
      ((perform d c).1, (perform d c).2.watched log' partings') := by
  obtain ⟨writer, finish, isOpen, written, failure⟩ := d
  cases c with
  | write bs =>
    cases failure with
    | some e => exact ⟨log, partings, rfl⟩
    | none =>
      cases isOpen with
      | false => exact ⟨log, partings, rfl⟩
      | true =>
        obtain ⟨log', hw⟩ := writeAll_watched bs writer log partings
        refine ⟨log', partings, ?_⟩
        simp only [perform, Sink.write, write, watched, hw]
        rcases writeAll bs writer with ⟨(e | u), v⟩ <;> rfl
  | flush =>
    cases failure with
    | some e => exact ⟨log, partings, rfl⟩
    | none =>
      cases isOpen with
      | false => exact ⟨log, partings, rfl⟩
      | true =>
        refine ⟨log ++ [.flush (ByteWriter.flush writer).1], partings, ?_⟩
        have hw : ByteWriter.flush (⟨⟨writer, log⟩, partings⟩ : Parted (LoggedWriter ω)) =
            ((ByteWriter.flush writer).1, ⟨⟨(ByteWriter.flush writer).2,
              log ++ [.flush (ByteWriter.flush writer).1]⟩, partings⟩) := rfl
        simp only [perform, Sink.flush, flush, watched, hw]
        rcases ByteWriter.flush writer with ⟨(e | u), v⟩ <;> rfl
  | close =>
    cases isOpen with
    | false => exact ⟨log, partings, rfl⟩
    | true =>
      cases failure with
      | some e => exact ⟨log, partings ++ [.abandoned], rfl⟩
      | none =>
        refine ⟨log, partings ++ [.finished (finish writer).1], ?_⟩
        have hw : Parted.finishing finish (⟨⟨writer, log⟩, partings⟩ : Parted (LoggedWriter ω)) =
            ((finish writer).1,
              ⟨⟨(finish writer).2, log⟩, partings ++ [.finished (finish writer).1]⟩) := rfl
        simp only [perform, Sink.close, close, watched, hw]
        rcases finish writer with ⟨(e | u), v⟩ <;> rfl

/-- The sink over a watched writer answers every call as the plain one does, and its course is one
of four. What it counts are the units of the writes that went well. -/
theorem follows_course (w : ω) (finish : ω → Except IoFault Unit × ω) (calls : List (Call Bytes)) :
    let plain := run calls (finishing w finish)
    let r := run calls ((finishing w finish).watched [] [])
    (r.1 = plain.1 ∧ ∃ log partings, r.2 = plain.2.watched log partings) ∧
    Course r.1 r.2 ∧ r.2.written = Event.total r.1 ∧
    ∃ part : Bytes,
      WriterEvent.received r.2.writer.inner.log = (Event.items r.1).flatten ++ part ∧
        (part ≠ [] → ∃ before bs e after, r.1 = before ++ .write bs (.error e) :: after ∧
          (∀ a ∈ before, a.IsOk) ∧ part <+: bs) := by
  intro plain r
  have hplain : r.1 = plain.1 ∧ ∃ log partings, r.2 = plain.2.watched log partings := by
    refine run_alike (fun d' d => ∃ log partings, d' = watched d log partings) ?_
      ⟨[], [], rfl⟩ calls
    rintro _ d c ⟨log, partings, rfl⟩
    obtain ⟨log', partings', hc⟩ := perform_watched d log partings c
    rw [hc]
    exact ⟨rfl, log', partings', rfl⟩
  have hcourse : Course r.1 r.2 ∧ r.2.finish = Parted.finishing finish := by
    refine run_induction (fun events d => Course events d ∧ d.finish = Parted.finishing finish) ?_
      ⟨.running .nil rfl rfl rfl, rfl⟩ calls
    rintro events d c ⟨h, hf⟩
    exact ⟨h.step hf c, (finish_perform d c).trans hf⟩
  have hwritten : r.2.written = Event.total r.1 := by
    refine run_induction (fun events (d : ByteSink (Parted (LoggedWriter ω))) =>
      d.written = Event.total events) ?_ rfl calls
    intro events d c h
    rw [written_perform, h, Event.total_append]
    simp [Event.total]
  exact ⟨hplain, hcourse.1, hwritten, hcourse.1.received⟩

/-- A writer with room for four bytes takes the first item, and the second fails. -/
theorem follows_course_limited :
    let writer : Double.LimitedWriter := { limit := 4 }
    let calls : List (Call Bytes) := [.write [1, 2, 3], .write [4, 5], .flush, .close, .close]
    let full := StreamFault.io (Double.LimitedWriter.refusal 4)
    let r := run calls ((finishing writer ByteWriter.flush).watched [] [])
    PatientWriter Double.LimitedWriter ∧
    r.1 = [.write [1, 2, 3] (.ok 3), .write [4, 5] (.error full), .flush (.error full),
      .close (.ok ()), .close (.ok ())] ∧
    Course r.1 r.2 := by
  intro writer calls full r
  have h := follows_course writer ByteWriter.flush calls
  let writer' : Double.LimitedWriter := { limit := 4, stored := Deque.append [1, 2, 3] {} }
  have h1 : writeAll [1, 2, 3] writer = (.ok (), writer') := by
    have hw : ByteWriter.write [1, 2, 3] writer = (.ok 3, writer') := rfl
    simp [writeAll, drain_of_some hw, drain]
  have h2 : writeAll [4, 5] writer' = (.error (Double.LimitedWriter.refusal 4), writer') := by
    have hw : ByteWriter.write [4, 5] writer' =
        (.error (Double.LimitedWriter.refusal 4), writer') := rfl
    have hi : (Double.LimitedWriter.refusal 4).isInterrupted = false := rfl
    simp [writeAll, drain_of_error hw, hi]
  refine ⟨inferInstance, ?_, h.2.1⟩
  rw [h.1.1]
  simp [calls, run, perform, Sink.write, write, finishing, h1, h2, Sink.flush, flush, Sink.close,
    close, fail, full]

end Watched

end ByteSink
end PullStreams
