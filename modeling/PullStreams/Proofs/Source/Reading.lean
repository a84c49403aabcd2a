import PullStreams.Proofs.Answers
import PullStreams.Source.Lines

namespace PullStreams

structure LoggedReader (ρ : Type u) where
  inner : ρ
  log : List (Except IoFault Bytes) := []

namespace LoggedReader
variable {ρ : Type u} [ByteReader ρ]

instance : ByteReader (LoggedReader ρ) where
  read n r :=
    let (answer, inner) := ByteReader.read n r.inner
    (answer, { inner, log := r.log ++ [answer] })

variable {r r' : LoggedReader ρ} {n : Nat} {answer : Except IoFault Bytes}

theorem of_read (h : ByteReader.read n r = (answer, r')) :
    ByteReader.read n r.inner = (answer, r'.inner) ∧ r'.log = r.log ++ [answer] := by
  obtain ⟨rfl, rfl⟩ := Prod.mk.inj h
  exact ⟨rfl, rfl⟩

instance [Line.FiniteLines ρ] : Line.FiniteLines (LoggedReader ρ) where
  wf := by
    refine Subrelation.wf (fun {t s} h => ?_) (InvImage.wf inner Line.FiniteLines.wf)
    obtain ⟨bs, hr, h⟩ | ⟨e, hr, he⟩ := h
    · exact .inl ⟨bs, (of_read hr).1, h⟩
    · exact .inr ⟨e, (of_read hr).1, he⟩

end LoggedReader

namespace Line

def isText (line : Bytes) : Bool := (Utf8.decode (strip line).reverse).isOk

/-- What there is of a line when bytes follow that may end it and begin others. None, if one of
those that are ended is not text. -/
def goOn (line : Bytes) : Bytes → Option Bytes
  | [] => some line
  | b :: rest =>
    if b = lf then if isText (b :: line) then goOn [] rest else none else goOn (b :: line) rest

/-- What there is of a line after a read, or none if no other may follow. The end of the input ends
a line that has been begun. -/
def afterRead (answer : Except IoFault Bytes) (line : Bytes) : Option Bytes :=
  match answer with
  | .ok [] => if line ≠ [] ∧ isText line then some [] else none
  | .ok bs => goOn line bs
  | .error e => if e.isInterrupted then some line else none

def afterReads (log : List (Except IoFault Bytes)) : Option Bytes :=
  log.foldl (fun line answer => line.bind (afterRead answer)) (some [])

/-- Every read was made where those before it let another follow. -/
def InOrder (log : List (Except IoFault Bytes)) : Prop :=
  ∀ before answer after, log = before ++ answer :: after → (afterReads before).isSome

variable {line out buffer rest : Bytes} {log : List (Except IoFault Bytes)}

theorem afterReads_concat (log : List (Except IoFault Bytes)) (answer : Except IoFault Bytes) :
    afterReads (log ++ [answer]) = (afterReads log).bind (afterRead answer) := by
  simp [afterReads]

theorem inOrder_nil : InOrder [] := by
  intro before answer after h
  simp at h

theorem InOrder.concat (h : InOrder log) (hl : afterReads log = some line)
    (answer : Except IoFault Bytes) : InOrder (log ++ [answer]) := by
  intro before answer' after he
  rcases List.eq_nil_or_concat after with rfl | ⟨after, last, rfl⟩
  · rw [← (List.append_inj_left' he rfl), hl]
    rfl
  · rw [List.concat_eq_append, ← List.cons_append, ← List.append_assoc] at he
    exact h before answer' after (List.append_inj_left' he rfl)

theorem goOn_of_line (h : takeLine line buffer = (true, out, rest)) :
    goOn line buffer = if isText out then goOn [] rest else none := by
  fun_induction takeLine line buffer with
  | case1 => cases h
  | case2 line rest' =>
    obtain ⟨rfl, rfl⟩ := by simpa using h
    rw [goOn, if_pos rfl]
  | case3 line b rest' hb ih => rw [goOn, if_neg hb, ih h]

theorem goOn_of_no_line (h : takeLine line buffer = (false, out, rest)) :
    goOn line buffer = some out := by
  fun_induction takeLine line buffer with
  | case1 line =>
    obtain ⟨rfl, -⟩ := by simpa using h
    rfl
  | case2 => cases h
  | case3 line b rest' hb ih => rw [goOn, if_neg hb, ih h]

variable {ρ : Type u} [ByteReader ρ] [FiniteLines ρ]

/-- The reads for one line, after reads that leave `line` and the buffer. -/
theorem inOrder_read {r r' : LoggedReader ρ} {answer : Except IoFault Bytes}
    (h : read line buffer r = (answer, rest, r')) (ho : InOrder r.log)
    (hl : afterReads r.log = goOn line buffer) :
    InOrder r'.log ∧ ∀ out, answer = .ok out → out ≠ [] →
      afterReads r'.log = if isText out then goOn [] rest else none := by
  fun_induction read line buffer r with
  | case1 line buffer r out rest' ht =>
    obtain ⟨rfl, rfl, rfl⟩ := by simpa using h
    refine ⟨ho, fun out' he hne => ?_⟩
    obtain rfl := Except.ok.inj he
    rw [hl, goOn_of_line ht]
  | case2 line buffer r out x ht u hu =>
    obtain ⟨rfl, rfl, rfl⟩ := by simpa using h
    rw [goOn_of_no_line ht] at hl
    rw [(LoggedReader.of_read hu).2]
    refine ⟨ho.concat hl _, fun out' he hne => ?_⟩
    obtain rfl := Except.ok.inj he
    rw [afterReads_concat, hl]
    simp [afterRead, hne, goOn]
  | case3 line buffer r out x ht b bs u hu ih =>
    rw [goOn_of_no_line ht] at hl
    refine ih h ?_ ?_
    · rw [(LoggedReader.of_read hu).2]
      exact ho.concat hl _
    · rw [(LoggedReader.of_read hu).2, afterReads_concat, hl]
      rfl
  | case4 line buffer r out x ht e u hu he ih =>
    rw [goOn_of_no_line ht] at hl
    refine ih h ?_ ?_
    · rw [(LoggedReader.of_read hu).2]
      exact ho.concat hl _
    · rw [(LoggedReader.of_read hu).2, afterReads_concat, hl]
      simp [afterRead, he, goOn]
  | case5 line buffer r out x ht e u hu he =>
    obtain ⟨rfl, rfl, rfl⟩ := by simpa using h
    rw [goOn_of_no_line ht] at hl
    rw [(LoggedReader.of_read hu).2]
    refine ⟨ho.concat hl _, fun out he => ?_⟩
    cases he

end Line

namespace LineSource
open Source
variable {ρ : Type u} [ByteReader ρ] [Line.FiniteLines ρ]

omit [ByteReader ρ] [Line.FiniteLines ρ] in
def logged (reader : ρ) : LineSource (LoggedReader ρ) := ofReader { inner := reader }

/-- What the reads say of the state of the source: a line is begun by what has been read last. -/
structure Told (s : LineSource (LoggedReader ρ)) : Prop where
  inOrder : Line.InOrder s.reader.log
  live : s.isOpen = true → s.stopped = none →
    Line.afterReads s.reader.log = Line.goOn [] s.buffer

variable {s : LineSource (LoggedReader ρ)}

omit [ByteReader ρ] [Line.FiniteLines ρ] in
theorem Told.of_stopped (hin : Line.InOrder s.reader.log) {e : StreamFault}
    (he : s.stopped = some e) : Told s :=
  ⟨hin, fun _ hlive => by simp [he] at hlive⟩

theorem Told.advance (h : Told s) : Told s.advance.2 := by
  have ha := advanced_advance s
  generalize s.advance = r at ha ⊢
  cases ha with
  | done => exact ⟨h.inOrder, h.live⟩
  | ended ho hs hr => exact .of_stopped (Line.inOrder_read hr h.inOrder (h.live ho hs)).1 rfl
  | failed ho hs hr => exact .of_stopped (Line.inOrder_read hr h.inOrder (h.live ho hs)).1 rfl
  | refused ho hs hr => exact .of_stopped (Line.inOrder_read hr h.inOrder (h.live ho hs)).1 rfl
  | @item line buffer reader text ho hs hr hne hd =>
    obtain ⟨hin, hline⟩ := Line.inOrder_read hr h.inOrder (h.live ho hs)
    refine ⟨hin, fun _ _ => ?_⟩
    show Line.afterReads reader.log = Line.goOn [] buffer
    rw [hline _ rfl hne, Line.isText, hd]
    rfl

theorem told_close (h : Told s) : Told (Source.close s).2 := by
  show Told (if s.isOpen then { s with isOpen := false, slot := none } else s)
  split
  · exact ⟨h.inOrder, fun ho => by simp at ho⟩
  · exact h

theorem told_run (reader : ρ) (calls : List Call) : Told (run calls (logged reader)).2 :=
  run_induction Told Told.advance told_close ⟨Line.inOrder_nil, fun _ _ => rfl⟩ calls

theorem rests_run (s : LineSource (LoggedReader ρ)) {calls : List Call} (h : .close ∈ calls) :
    Rests (fun t : LineSource (LoggedReader ρ) => t.reader.log) (run calls s).2 := by
  refine (rests_of_close (·.isOpen = false) (fun t ht => ?_) (fun t => ?_) h s).2
  · show t.advance.2.isOpen = false ∧ t.advance.2.reader.log = _
    rw [advance_of_over (.inr ht)]
    exact ⟨ht, rfl⟩
  · show (if t.isOpen then { t with isOpen := false, slot := none } else t).isOpen = false ∧
      (_ → (if t.isOpen then { t with isOpen := false, slot := none } else t).reader.log = _)
    cases ht : t.isOpen with
    | true => exact ⟨rfl, fun h => by simp at h⟩
    | false => exact ⟨ht, fun _ => rfl⟩

end LineSource
end PullStreams
