import PullStreams.Source

namespace PullStreams

/-- Hands out the items of a list, then stops with `ending`. -/
structure ListSource (α : Type u) where
  items : List α
  ending : StreamFault := .ended
  slot : Option α := none
  stopped : Option StreamFault := none
  isClosed : Bool := false

namespace ListSource
variable {α : Type u}

def ofList (items : List α) : ListSource α := { items }

def failing (items : List α) (ending : StreamFault) : ListSource α := { items, ending }

def remaining (s : ListSource α) : Nat := s.items.length

def advance (s : ListSource α) : Bool × ListSource α :=
  if s.isClosed || s.stopped.isSome then (false, { s with slot := none })
  else
    match s.items with
    | a :: rest => (true, { s with items := rest, slot := some a })
    | [] => (false, { s with slot := none, stopped := some s.ending })

def close (s : ListSource α) : ListSource α :=
  if s.isClosed then s else { s with isClosed := true, slot := none, items := [] }

instance [Inhabited α] : Source (ListSource α) α where
  advance := advance
  current s := s.slot.getD default
  error s := s.stopped
  close s := (.ok (), s.close)

theorem remaining_lt_of_advance {s t : ListSource α} (h : s.advance = (true, t)) :
    t.remaining < s.remaining := by
  unfold advance at h
  split at h
  · simp at h
  · split at h
    · rename_i hi
      simp at h
      simp [remaining, ← h, hi]
    · simp at h

instance [Inhabited α] : FiniteSource (ListSource α) :=
  .of_size remaining fun _ _ => remaining_lt_of_advance

end ListSource
end PullStreams
