import PullStreams.Operator.Map
import PullStreams.Proofs.Traced

namespace PullStreams
open Source

namespace Callback
variable {α : Type u} {κ : Type v} {β : Type w}

/-- Remembers its calls, each with what came of it, the oldest first. -/
def logged (f : Callback α κ β) : Callback α (κ × List (α × β)) β :=
  fun a memory => ((f a memory.1).1, (f a memory.1).2, memory.2 ++ [(a, (f a memory.1).1)])

end Callback

namespace Source.Touch
variable {α : Type u}

def item? : Touch α → Option α
  | item a => some a
  | _ => none

def items (log : List (Touch α)) : List α := log.filterMap item?

@[simp] theorem items_nil : items ([] : List (Touch α)) = [] := rfl

@[simp] theorem items_append (log log' : List (Touch α)) :
    items (log ++ log') = items log ++ items log' :=
  List.filterMap_append

@[simp] theorem items_item (a : α) : items [.item a] = [a] := rfl

@[simp] theorem items_stop (e : Option StreamFault) : items [(.stop e : Touch α)] = [] := rfl

@[simp] theorem items_close (answer : Except StreamFault Unit) :
    items [(.close answer : Touch α)] = [] := rfl

end Source.Touch

namespace Source.Traced
variable {σ : Type u} {α : Type v} [Source σ α] {r r' : Traced σ}

theorem items_of_item (h : Source.advance r = (true, r')) :
    Touch.items r'.log = Touch.items r.log ++ [current r'] := by
  rw [log_of_item h, Touch.items_append, Touch.items_item]

theorem items_of_stop (h : Source.advance r = (false, r')) :
    Touch.items r'.log = Touch.items r.log := by
  rw [log_of_stop h, Touch.items_append, Touch.items_stop, List.append_nil]

theorem items_close (r : Traced σ) : Touch.items (Source.close r).2.log = Touch.items r.log := by
  rw [log_close, Touch.items_append, Touch.items_close, List.append_nil]

end Source.Traced
end PullStreams
