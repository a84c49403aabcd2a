import PullStreams.Proofs.Passing
import PullStreams.Source.Cursor

namespace PullStreams
open Source

namespace CursorSource
variable {γ ρ : Type u} [Cursor γ ρ]

def isDone (s : CursorSource γ) : Bool := s.isClosed || s.isReleased || s.stopped.isSome

/-- What is said of an end at which the cursor was released. -/
def endOf : Except Report Unit → StreamFault
  | .ok () => .ended
  | .error e => e.toStreamFault

inductive Advanced [Inhabited ρ] (s : CursorSource γ) : Bool × CursorSource γ → Prop
  | done (h : s.isDone = true) : Advanced s (false, { s with slot := none })
  | row {c d : γ} {row : ρ} (h : s.isDone = false) (hn : Cursor.hasNext s.cursor = (true, c))
    (hs : Cursor.scan default c = (.ok (), row, d)) :
    Advanced s (true, { s with cursor := d, slot := some row })
  | unscanned {c d : γ} {row : ρ} {r : Report} (h : s.isDone = false)
    (hn : Cursor.hasNext s.cursor = (true, c))
    (hs : Cursor.scan default c = (.error r, row, d)) :
    Advanced s (false, { s with cursor := d, slot := none, stopped := some r.toStreamFault })
  | released {c d : γ} {answer : Except Report Unit} (h : s.isDone = false)
    (hn : Cursor.hasNext s.cursor = (false, c)) (hc : Cursor.close c = (answer, d)) :
    Advanced s
      (false, { s with cursor := d, slot := none, stopped := some (endOf answer),
                       isReleased := true })

inductive Closed (s : CursorSource γ) : Except StreamFault Unit × CursorSource γ → Prop
  | again (h : s.isClosed = true) : Closed s (.ok (), s)
  | released (h : s.isClosed = false) (hr : s.isReleased = true) :
    Closed s (.ok (), { s with isClosed := true, slot := none })
  | release {d : γ} {answer : Except Report Unit} (h : s.isClosed = false)
    (hr : s.isReleased = false) (hc : Cursor.close s.cursor = (answer, d)) :
    Closed s
      (answer.mapError Report.toStreamFault,
        { s with cursor := d, slot := none, isReleased := true, isClosed := true })

section Advance
variable [Inhabited ρ] {s : CursorSource γ} {c d : γ} {row : ρ} {r : Report}

theorem advance_of_done (h : s.isDone = true) : s.advance = (false, { s with slot := none }) :=
  if_pos h

theorem advance_of_scanned (h : s.isDone = false) (hn : Cursor.hasNext s.cursor = (true, c))
    (hs : Cursor.scan default c = (.ok (), row, d)) :
    s.advance = (true, { s with cursor := d, slot := some row }) := by
  rw [advance, if_neg (by simpa [isDone] using h), hn]
  simp only [hs]

theorem advance_of_unscanned (h : s.isDone = false) (hn : Cursor.hasNext s.cursor = (true, c))
    (hs : Cursor.scan default c = (.error r, row, d)) :
    s.advance = (false, { s with cursor := d, slot := none, stopped := some r.toStreamFault }) := by
  rw [advance, if_neg (by simpa [isDone] using h), hn]
  simp only [hs]

theorem advance_of_released (h : s.isDone = false) (hn : Cursor.hasNext s.cursor = (false, c))
    {answer : Except Report Unit} (hc : Cursor.close c = (answer, d)) :
    s.advance = (false, { s with cursor := d, slot := none, stopped := some (endOf answer),
                                 isReleased := true }) := by
  have hr : s.isReleased = false := by
    simp only [isDone, Bool.or_eq_false_iff] at h
    exact h.1.2
  rw [advance, if_neg (by simpa [isDone] using h), hn]
  cases answer <;> simp [release, hr, hc, endOf]

theorem advanced_advance (s : CursorSource γ) : Advanced s s.advance := by
  cases h : s.isDone with
  | true =>
    rw [advance_of_done h]
    exact .done h
  | false =>
    match hn : Cursor.hasNext s.cursor with
    | (true, c) =>
      match hs : Cursor.scan default c with
      | (.ok (), row, d) =>
        rw [advance_of_scanned h hn hs]
        exact .row h hn hs
      | (.error r, row, d) =>
        rw [advance_of_unscanned h hn hs]
        exact .unscanned h hn hs
    | (false, c) =>
      match hc : Cursor.close c with
      | (answer, d) =>
        rw [advance_of_released h hn hc]
        exact .released h hn hc

end Advance

theorem closed_close (s : CursorSource γ) : Closed s s.close := by
  unfold close
  cases h : s.isClosed with
  | true => exact .again h
  | false =>
    cases hr : s.isReleased with
    | true => simpa [release, hr] using Closed.released h hr
    | false =>
      match hc : Cursor.close s.cursor with
      | (answer, d) => simpa [release, hr, hc] using Closed.release h hr hc

end CursorSource

inductive CursorCall where
  | hasNext (answer : Bool)
  | scan (answer : Except Report Unit)
  | close (answer : Except Report Unit)

namespace CursorCall

def isClose : CursorCall → Bool
  | .close _ => true
  | _ => false

def closes (log : List CursorCall) : Nat := log.countP isClose

@[simp] theorem closes_nil : closes [] = 0 := rfl

@[simp] theorem closes_append (log log' : List CursorCall) :
    closes (log ++ log') = closes log + closes log' := List.countP_append

@[simp] theorem closes_hasNext (answer : Bool) (log : List CursorCall) :
    closes (.hasNext answer :: log) = closes log := rfl

@[simp] theorem closes_scan (answer : Except Report Unit) (log : List CursorCall) :
    closes (.scan answer :: log) = closes log := rfl

@[simp] theorem closes_close (answer : Except Report Unit) (log : List CursorCall) :
    closes (.close answer :: log) = closes log + 1 :=
  List.countP_cons_of_pos rfl

end CursorCall

structure LoggedCursor (γ : Type u) where
  inner : γ
  log : List CursorCall := []

namespace LoggedCursor
variable {γ ρ : Type u} [Cursor γ ρ]

def hasNext (c : LoggedCursor γ) : Bool × LoggedCursor γ :=
  let (answer, inner) := Cursor.hasNext c.inner
  (answer, { inner, log := c.log ++ [.hasNext answer] })

def scan (row : ρ) (c : LoggedCursor γ) : Except Report Unit × ρ × LoggedCursor γ :=
  let (answer, row, inner) := Cursor.scan row c.inner
  (answer, row, { inner, log := c.log ++ [.scan answer] })

def close (c : LoggedCursor γ) : Except Report Unit × LoggedCursor γ :=
  let (answer, inner) := Cursor.close c.inner
  (answer, { inner, log := c.log ++ [.close answer] })

instance : Cursor (LoggedCursor γ) ρ where
  hasNext := hasNext
  scan := scan
  close := close

variable {c d : LoggedCursor γ}

theorem of_hasNext {answer : Bool} (h : Cursor.hasNext c = (answer, d)) :
    Cursor.hasNext c.inner = (answer, d.inner) ∧ d.log = c.log ++ [.hasNext answer] := by
  obtain ⟨rfl, rfl⟩ := Prod.mk.inj h
  exact ⟨rfl, rfl⟩

theorem of_scan {row row' : ρ} {answer : Except Report Unit}
    (h : Cursor.scan row c = (answer, row', d)) :
    Cursor.scan row c.inner = (answer, row', d.inner) ∧ d.log = c.log ++ [.scan answer] := by
  obtain ⟨rfl, hrest⟩ := Prod.mk.inj h
  obtain ⟨rfl, rfl⟩ := Prod.mk.inj hrest
  exact ⟨rfl, rfl⟩

theorem of_close {answer : Except Report Unit} (h : Cursor.close c = (answer, d)) :
    Cursor.close c.inner = (answer, d.inner) ∧ d.log = c.log ++ [.close answer] := by
  obtain ⟨rfl, rfl⟩ := Prod.mk.inj h
  exact ⟨rfl, rfl⟩

instance [FiniteCursor γ] : FiniteCursor (LoggedCursor γ) where
  wf := Subrelation.wf
    (fun ⟨u, r, row, hn, hs⟩ => ⟨u.inner, r, row, (of_hasNext hn).1, (of_scan hs).1⟩)
    (InvImage.wf inner FiniteCursor.wf)

end LoggedCursor

end PullStreams
