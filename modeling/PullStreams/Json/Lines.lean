import PullStreams.Source.Lines
import PullStreams.Text.Blank
import PullStreams.Json.Fault

namespace PullStreams.Json

/-- One value a line, read from the text by `decode`. A line that cannot be read ends the source;
its number counts all lines. -/
structure LinesSource (ρ : Type u) {β : Type v} (decode : String → Except Fault β)
    (skipsBlank : Bool) where
  lines : LineSource ρ
  slot : Option β := none
  stopped : Option StreamFault := none

namespace LinesSource
variable {ρ : Type u} {β : Type v} {decode : String → Except Fault β} {skipsBlank : Bool}

def ofReader (reader : ρ) : LinesSource ρ decode skipsBlank := { lines := .ofReader reader }

variable [ByteReader ρ]

/-- What is said of line `line`. -/
def unreadable (line : Nat) (e : Fault) : StreamFault :=
  .other [s!"parse JSONL line {line}", e.message]

def visit [Line.FiniteLines ρ] (decode : String → Except Fault β) (skipsBlank : Bool) (_ : Unit)
    (lines : LineSource ρ) : Except (Except StreamFault β) Unit :=
  let text := Source.current lines
  if skipsBlank && Text.isBlank text then .ok ()
  else
    match decode text with
    | .ok b => .error (.ok b)
    | .error e => .error (.error (unreadable lines.linesRead e))

/-- Where blank lines count as well, any line halts the visitor. -/
instance [Line.FiniteLines ρ] :
    Source.SweepsEnd (LineSource ρ) (visit (ρ := ρ) decode false) where
  ends _ lines := by
    match ha : Source.advance lines with
    | (false, t) => exact (Source.SweepsTo.stop ha).ends
    | (true, t) =>
      cases hd : decode (Source.current t) with
      | ok b => exact (Source.SweepsTo.halt (e := .ok b) ha (by simp [visit, hd])).ends
      | error e =>
        have hv : visit decode false () t = .error (.error (unreadable t.linesRead e)) := by
          simp [visit, hd]
        exact (Source.SweepsTo.halt ha hv).ends

section Advance
variable [Line.FiniteLines ρ] [Source.SweepsEnd (LineSource ρ) (visit decode skipsBlank)]

def advance (s : LinesSource ρ decode skipsBlank) : Bool × LinesSource ρ decode skipsBlank :=
  if s.stopped.isSome then (false, { s with slot := none })
  else
    match Source.sweep (visit decode skipsBlank) () s.lines with
    | (.ok (), lines) => (false, { lines })
    | (.error (.ok b), lines) => (true, { lines, slot := some b })
    | (.error (.error e), lines) => (false, { lines, stopped := some e })

instance [Inhabited β] : Source (LinesSource ρ decode skipsBlank) β where
  advance := advance
  current s := s.slot.getD default
  error s := s.stopped.or (Source.error s.lines)
  close s := (Source.close s.lines).map id ({ s with lines := ·, slot := none })

end Advance

instance [FiniteReader ρ] [Inhabited β] : FiniteSource (LinesSource ρ decode skipsBlank) :=
  .of_inner lines fun t s h => by
    change s.advance = (true, t) at h
    unfold advance at h
    split at h
    · simp at h
    · split at h
      · simp at h
      · rename_i hl
        simp only [Prod.mk.injEq, true_and] at h
        exact h ▸ Source.after_of_sweep_eq_error hl
      · simp at h

end LinesSource
end PullStreams.Json
