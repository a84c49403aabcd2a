import PullStreams.Source

namespace PullStreams.Double

structure Entry (α : Type u) where
  item : Option α := none
  error : Option StreamFault := none

/-- Plays a script, one entry for each advance, and keeps the rules of a stream no better than the
script does. `closings` answers the calls of `close`. -/
structure ScriptedSource (α : Type u) where
  script : List (Entry α)
  closings : List (Option StreamFault) := []
  entry : Entry α := {}
  closes : Nat := 0

namespace ScriptedSource
variable {α : Type u}

def advance (s : ScriptedSource α) : Bool × ScriptedSource α :=
  match s.script with
  | [] => (false, { s with entry := { s.entry with item := none } })
  | entry :: script => (entry.item.isSome, { s with script, entry })

def close (s : ScriptedSource α) : Except StreamFault Unit × ScriptedSource α :=
  (match s.closings with
    | some e :: _ => .error e
    | _ => .ok (),
    { s with closings := s.closings.tail, closes := s.closes + 1 })

instance [Inhabited α] : Source (ScriptedSource α) α where
  advance := advance
  current s := s.entry.item.getD default
  error s := s.entry.error
  close := close

instance [Inhabited α] : FiniteSource (ScriptedSource α) :=
  .of_size (fun s => s.script.length) fun s t h => by
    change s.advance = (true, t) at h
    unfold advance at h
    split at h
    · simp at h
    · simp only [Prod.mk.injEq] at h
      simp_all [← h.2]

end ScriptedSource

/-- Yields its item for ever. -/
structure Repeated (α : Type u) where
  item : α

instance {α : Type u} : Source (Repeated α) α where
  advance s := (true, s)
  current s := s.item
  error _ := none
  close s := (.ok (), s)

structure CountedSource (σ : Type u) where
  inner : σ
  closes : Nat := 0

instance {σ : Type u} {α : Type v} [Source σ α] : Source (CountedSource σ) α where
  advance s := (Source.advance s.inner).map id ({ s with inner := · })
  current s := Source.current s.inner
  error s := Source.error s.inner
  close s := (Source.close s.inner).map id (⟨·, s.closes + 1⟩)

instance {σ : Type u} {α : Type v} [Source σ α] [FiniteSource σ] :
    FiniteSource (CountedSource σ) :=
  .of_inner CountedSource.inner fun t s h => by
    simp only [Source.After, Source.advance, Prod.ext_iff, Prod.map_fst, Prod.map_snd] at h
    exact .single (Prod.ext h.1 (by rw [← h.2]))

end PullStreams.Double
