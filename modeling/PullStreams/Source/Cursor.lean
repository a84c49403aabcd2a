import PullStreams.Source

namespace PullStreams

/-- Rows behind a resource that has to be released. `scan` fills the row it is given. -/
class Cursor (γ : Type u) (ρ : outParam (Type u)) where
  hasNext : γ → Bool × γ
  scan : ρ → γ → Except Report Unit × ρ × γ
  close : γ → Except Report Unit × γ

class FiniteCursor (γ : Type u) {ρ : outParam (Type u)} [Cursor γ ρ] : Prop where
  wf : WellFounded fun t s : γ => ∃ u r row,
    Cursor.hasNext s = (true, u) ∧ Cursor.scan r u = (.ok (), row, t)

/-- The cursor is released at its end or when the source is closed, whichever comes first, and is
not called after that. A row that cannot be scanned ends the source without releasing the cursor. -/
structure CursorSource (γ : Type u) {ρ : Type u} [Cursor γ ρ] where
  cursor : γ
  slot : Option ρ := none
  stopped : Option StreamFault := none
  isReleased : Bool := false
  isClosed : Bool := false

namespace CursorSource
variable {γ : Type u} {ρ : Type u} [Cursor γ ρ]

def ofCursor (cursor : γ) : CursorSource γ := { cursor }

def release (s : CursorSource γ) : Except StreamFault Unit × CursorSource γ :=
  if s.isReleased then (.ok (), s)
  else
    let (result, cursor) := Cursor.close s.cursor
    (result.mapError Report.toStreamFault, { s with cursor, isReleased := true })

def advance [Inhabited ρ] (s : CursorSource γ) : Bool × CursorSource γ :=
  if s.isClosed || s.isReleased || s.stopped.isSome then (false, { s with slot := none })
  else
    match Cursor.hasNext s.cursor with
    | (true, cursor) =>
      match Cursor.scan default cursor with
      | (.ok (), row, cursor) => (true, { s with cursor, slot := some row })
      | (.error e, _, cursor) =>
        (false, { s with cursor, slot := none, stopped := some e.toStreamFault })
    | (false, cursor) =>
      match release { s with cursor, slot := none } with
      | (.ok (), s) => (false, { s with stopped := some .ended })
      | (.error e, s) => (false, { s with stopped := some e })

def close (s : CursorSource γ) : Except StreamFault Unit × CursorSource γ :=
  if s.isClosed then (.ok (), s) else release { s with isClosed := true, slot := none }

instance [Inhabited ρ] : Source (CursorSource γ) ρ where
  advance := advance
  current s := s.slot.getD default
  error s := s.stopped
  close := close

theorem scan_of_advance [Inhabited ρ] {s t : CursorSource γ} (h : s.advance = (true, t)) :
    ∃ u r row, Cursor.hasNext s.cursor = (true, u) ∧ Cursor.scan r u = (.ok (), row, t.cursor) := by
  unfold advance at h
  split at h
  · simp at h
  · split at h
    · rename_i u hu
      split at h
      · rename_i row c hc
        simp at h
        exact ⟨u, default, row, hu, h ▸ hc⟩
      · simp at h
    · split at h <;> simp at h

instance [Inhabited ρ] [FiniteCursor γ] : FiniteSource (CursorSource γ) :=
  .of_wellFounded (InvImage.wf cursor FiniteCursor.wf) fun _ _ => scan_of_advance

end CursorSource
end PullStreams
