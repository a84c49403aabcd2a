import PullStreams.ByteWriter

namespace PullStreams

/-- A call of a byte writer and its answer. -/
inductive WriterEvent where
  | write (bs : Bytes) (answer : Except IoFault Nat)
  | flush (answer : Except IoFault Unit)

namespace WriterEvent

def taken : WriterEvent → Bytes
  | .write bs (.ok n) => bs.take n
  | _ => []

def received (log : List WriterEvent) : Bytes := log.flatMap taken

/-- A write after which writing goes on: some bytes were taken, or it was interrupted. -/
def GoesOn : WriterEvent → Prop
  | .write _ (.ok n) => n ≠ 0
  | .write _ (.error e) => e.isInterrupted = true
  | .flush _ => False

/-- A write of `rest` after which writing is given up with `e`. -/
inductive Halts (rest : Bytes) : IoFault → WriterEvent → Prop
  | nothingTaken (hne : rest ≠ []) : Halts rest ByteWriter.nothingTaken (.write rest (.ok 0))
  | fault {e : IoFault} (hne : rest ≠ []) (he : e.isInterrupted = false) :
    Halts rest e (.write rest (.error e))

def Smooth (log : List WriterEvent) : Prop := ∀ event ∈ log, event.GoesOn

theorem received_append (log log' : List WriterEvent) :
    received (log ++ log') = received log ++ received log' := List.flatMap_append

/-- Nothing is taken by the write that writing is given up after. -/
theorem Halts.received {rest : Bytes} {e : IoFault} {event : WriterEvent} (h : Halts rest e event) :
    received [event] = [] := by
  cases h <;> rfl

theorem smooth_nil : Smooth [] := fun _ h => absurd h List.not_mem_nil

theorem Smooth.cons {event : WriterEvent} {log : List WriterEvent} (hl : Smooth log)
    (he : event.GoesOn) : Smooth (event :: log) := List.forall_mem_cons.2 ⟨he, hl⟩

theorem Smooth.append {log log' : List WriterEvent} (hl : Smooth log) (hl' : Smooth log') :
    Smooth (log ++ log') := List.forall_mem_append.2 ⟨hl, hl'⟩

end WriterEvent

namespace ByteWriter

/-- What is written to `w` and to `f w` gets the same answers, for ever. -/
structure Mirrors {ω : Type u} {υ : Type v} [ByteWriter ω] [ByteWriter υ] (f : ω → υ) : Prop where
  write (bs : Bytes) (w : ω) : write bs (f w) = (write bs w).map id f
  flush (w : ω) : flush (f w) = (flush w).map id f

namespace Mirrors
variable {ω : Type u} {υ : Type v} [ByteWriter ω] [ByteWriter υ] {f : ω → υ}

theorem write_eq (hf : Mirrors f) {bs : Bytes} {v w : ω} {answer : Except IoFault Nat}
    (h : ByteWriter.write bs w = (answer, v)) : ByteWriter.write bs (f w) = (answer, f v) := by
  rw [hf.write, h]
  rfl

theorem comp {χ : Type w} [ByteWriter χ] {g : υ → χ} (hg : Mirrors g) (hf : Mirrors f) :
    Mirrors (g ∘ f) where
  write bs w := by
    rw [Function.comp, hg.write, hf.write]
    rfl
  flush w := by
    rw [Function.comp, hg.flush, hf.flush]
    rfl

theorem patientWriter (hf : Mirrors f) [PatientWriter υ] : PatientWriter ω where
  wf := Subrelation.wf (fun ⟨bs, e, h, he⟩ => ⟨bs, e, hf.write_eq h, he⟩)
    (InvImage.wf f PatientWriter.wf)

variable [PatientWriter ω] [PatientWriter υ]

theorem drain (hf : Mirrors f) (nothingTaken : IoFault) (bs : Bytes) (w : ω) :
    drain nothingTaken bs (f w) = (drain nothingTaken bs w).map id (Prod.map id f) := by
  fun_induction ByteWriter.drain nothingTaken bs w with
  | case1 w =>
    rw [ByteWriter.drain]
    rfl
  | case2 w b rest v h =>
    rw [drain_of_nothing (hf.write_eq h)]
    rfl
  | case3 w b rest n v h ih => rw [drain_of_some (hf.write_eq h), ih]
  | case4 w b rest e v h he ih => rw [drain_of_error (hf.write_eq h), if_pos he, ih]
  | case5 w b rest e v h he =>
    rw [drain_of_error (hf.write_eq h), he]
    rfl

theorem writeAll (hf : Mirrors f) (bs : Bytes) (w : ω) :
    writeAll bs (f w) = (writeAll bs w).map id f := by
  unfold ByteWriter.writeAll
  rw [hf.drain]
  rfl

end Mirrors
end ByteWriter

/-- The log is kept with the oldest entry first. -/
structure LoggedWriter (ω : Type u) where
  inner : ω
  log : List WriterEvent := []

namespace LoggedWriter
open ByteWriter WriterEvent
variable {ω : Type u} [ByteWriter ω]

def write (bs : Bytes) (w : LoggedWriter ω) : Except IoFault Nat × LoggedWriter ω :=
  let (answer, inner) := ByteWriter.write bs w.inner
  (answer, { inner, log := w.log ++ [.write bs answer] })

def flush (w : LoggedWriter ω) : Except IoFault Unit × LoggedWriter ω :=
  let (answer, inner) := ByteWriter.flush w.inner
  (answer, { inner, log := w.log ++ [.flush answer] })

instance : ByteWriter (LoggedWriter ω) where
  write := write
  flush := flush
  abandon w := { w with inner := abandon w.inner }

theorem log_of_write {bs : Bytes} {v w : LoggedWriter ω} {answer : Except IoFault Nat}
    (h : ByteWriter.write bs w = (answer, v)) : v.log = w.log ++ [.write bs answer] := by
  obtain ⟨ha, rfl⟩ := Prod.mk.inj h
  rw [← ha]

theorem log_of_flush {v w : LoggedWriter ω} {answer : Except IoFault Unit}
    (h : ByteWriter.flush w = (answer, v)) : v.log = w.log ++ [.flush answer] := by
  obtain ⟨ha, rfl⟩ := Prod.mk.inj h
  rw [← ha]

theorem mirrors_inner : Mirrors (inner : LoggedWriter ω → ω) where
  write _ _ := rfl
  flush _ := rfl

instance [PatientWriter ω] : PatientWriter (LoggedWriter ω) := mirrors_inner.patientWriter

theorem writeAll_inner [PatientWriter ω] (bs : Bytes) (w : LoggedWriter ω) :
    writeAll bs w.inner = (writeAll bs w).map id inner :=
  mirrors_inner.writeAll bs w

theorem flush_inner (w : LoggedWriter ω) :
    ByteWriter.flush w.inner = (ByteWriter.flush w).map id inner := rfl

/-- What writing `bs` adds to the log: all of `bs` is taken, or a part of it up to a last call. -/
inductive Wrote (bs : Bytes) (w : LoggedWriter ω) : Except IoFault Unit × LoggedWriter ω → Prop
  | all {v : LoggedWriter ω} {log : List WriterEvent} (hl : v.log = w.log ++ log)
    (hs : Smooth log) (hr : received log = bs) : Wrote bs w (.ok (), v)
  | part {v : LoggedWriter ω} {log : List WriterEvent} {rest : Bytes} {event : WriterEvent}
    {e : IoFault} (hl : v.log = w.log ++ log ++ [event]) (hs : Smooth log)
    (hr : bs = received log ++ rest) (he : Halts rest e event) : Wrote bs w (.error e, v)

omit [ByteWriter ω] in
theorem Wrote.cons {bs : Bytes} {v w : LoggedWriter ω} {event : WriterEvent}
    {r : Except IoFault Unit × LoggedWriter ω} (hv : v.log = w.log ++ [event])
    (he : event.GoesOn) (h : Wrote bs v r) : Wrote (event.taken ++ bs) w r := by
  cases h with
  | @all u log hl hs hr =>
    refine .all ?_ (hs.cons he) ?_
    · rw [hl, hv, List.append_assoc]
      rfl
    · rw [← hr]
      rfl
  | @part u log rest event' e hl hs hr hh =>
    refine .part ?_ (hs.cons he) ?_ hh
    · rw [hl, hv, List.append_assoc w.log]
      rfl
    · rw [hr, ← List.append_assoc]
      rfl

theorem wrote_writeAll [PatientWriter ω] (bs : Bytes) (w : LoggedWriter ω) :
    Wrote bs w (writeAll bs w) := by
  unfold writeAll
  fun_induction drain ByteWriter.nothingTaken bs w with
  | case1 w => exact .all (List.append_nil _).symm smooth_nil rfl
  | case2 w b rest v h =>
    exact .part (by rw [log_of_write h, List.append_nil]) smooth_nil rfl
      (.nothingTaken (List.cons_ne_nil _ _))
  | case3 w b rest n v h ih =>
    -- A short write: what was taken and what is offered next make up what was offered.
    have hw := ih.cons (log_of_write h) (Nat.succ_ne_zero n)
    have hb : (b :: rest).take (n + 1) ++ rest.drop n = b :: rest :=
      List.take_append_drop (n + 1) (b :: rest)
    rw [taken, hb] at hw
    exact hw
  | case4 w b rest e v h he ih => exact ih.cons (log_of_write h) he
  | case5 w b rest e v h he =>
    exact .part (by rw [log_of_write h, List.append_nil]) smooth_nil rfl
      (.fault (List.cons_ne_nil _ _) he)

end LoggedWriter
end PullStreams
