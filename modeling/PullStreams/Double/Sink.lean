import PullStreams.Sink

namespace PullStreams.Double

structure LimitedSink (α : Type u) where
  limit : Option Nat := none
  kept : Deque α := {}
  flushes : Nat := 0
  failure : Option StreamFault := none

def LimitedSink.items {α : Type u} (d : LimitedSink α) : List α := d.kept.toList

instance {α : Type u} : Sink (LimitedSink α) α where
  write a d :=
    match d.failure, d.limit with
    | some e, _ => (.error e, d)
    | none, none => (.ok 1, { d with kept := d.kept.push a })
    | none, some limit =>
      if d.kept.size < limit then (.ok 1, { d with kept := d.kept.push a })
      else
        let e := StreamFault.ofText s!"sink failed after {limit} writes"
        (.error e, { d with failure := some e })
  flush d :=
    ((match d.failure with
      | some e => .error e
      | none => .ok ()),
      { d with flushes := d.flushes + 1 })
  close d := (.ok (), d)

/-- Keeps every item that it is offered, and answers writes and flushes from a script. -/
structure ScriptedSink (α : Type u) where
  writes : List (Except StreamFault Nat) := []
  flushAnswers : List (Except StreamFault Unit) := []
  kept : Deque α := {}
  flushes : Nat := 0
  closes : Nat := 0

def ScriptedSink.items {α : Type u} (d : ScriptedSink α) : List α := d.kept.toList

instance {α : Type u} : Sink (ScriptedSink α) α where
  write a d := (d.writes.headD (.ok 1), { d with kept := d.kept.push a, writes := d.writes.tail })
  flush d :=
    (d.flushAnswers.headD (.ok ()),
      { d with flushAnswers := d.flushAnswers.tail, flushes := d.flushes + 1 })
  close d := (.ok (), { d with closes := d.closes + 1 })

end PullStreams.Double
