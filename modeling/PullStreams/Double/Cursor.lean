import PullStreams.Source.Cursor

namespace PullStreams.Double

structure ListCursor (ρ : Type u) where
  rows : Array ρ
  failingRow : Option Nat := none
  failsToClose : Bool := false
  position : Nat := 0
  closes : Nat := 0

namespace ListCursor
variable {ρ : Type u}

def hasNext (c : ListCursor ρ) : Bool × ListCursor ρ :=
  if c.position < c.rows.size then (true, { c with position := c.position + 1 }) else (false, c)

/-- Scans the row that `hasNext` stepped on; a row that fails leaves `row` as it was. -/
def scan (row : ρ) (c : ListCursor ρ) : Except Report Unit × ρ × ListCursor ρ :=
  match c.position with
  | 0 => (.error (.text "scan before has_next"), row, c)
  | index + 1 =>
    if c.failingRow = some index then (.error (.text s!"cannot scan row {index}"), row, c)
    else (.ok (), c.rows[index]?.getD row, c)

def close (c : ListCursor ρ) : Except Report Unit × ListCursor ρ :=
  (if c.failsToClose then .error (.text "cursor release failed") else .ok (),
    { c with closes := c.closes + 1 })

instance : Cursor (ListCursor ρ) ρ where
  hasNext := hasNext
  scan := scan
  close := close

theorem scan_cursor (row : ρ) (c : ListCursor ρ) : (scan row c).2.2 = c := by
  unfold scan
  split
  · rfl
  · split <;> rfl

instance : FiniteCursor (ListCursor ρ) where
  wf := Subrelation.wf
    (fun {t s} ⟨u, r, row, hn, hs⟩ => by
      have ht : t = u := by
        have := scan_cursor r u
        simp only [Cursor.scan] at hs
        rw [hs] at this
        exact this
      simp only [Cursor.hasNext, hasNext] at hn
      split at hn
      · simp only [Prod.mk.injEq, true_and] at hn
        show t.rows.size - t.position < s.rows.size - s.position
        subst ht
        rw [← hn]
        simp only
        omega
      · simp at hn)
    (InvImage.wf (fun c : ListCursor ρ => c.rows.size - c.position) Nat.lt_wfRel.wf)

end ListCursor
end PullStreams.Double
