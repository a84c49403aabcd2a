import PullStreams.Fault

namespace PullStreams

/-- How far a window knows of the end within: a failure is held back while items are still to be
delivered, and reported when they have been. -/
inductive Ending where
  | running
  | held (failure : StreamFault)
  | ended (reported : Option StreamFault)

namespace Ending

def ofError (error : Option StreamFault) : Ending :=
  match failure? error with
  | some e => .held e
  | none => .ended none

def isRunning : Ending → Bool
  | .running => true
  | _ => false

def settle : Ending → Ending
  | .held e => .ended (some e)
  | ending => ending

def error : Ending → Option StreamFault
  | .ended reported => reported
  | _ => none

@[simp] theorem isRunning_running : Ending.running.isRunning = true := rfl

@[simp] theorem isRunning_ofError (e : Option StreamFault) : (ofError e).isRunning = false := by
  unfold ofError
  split <;> rfl

@[simp] theorem isRunning_settle (e : Ending) : e.settle.isRunning = e.isRunning := by
  cases e <;> rfl

@[simp] theorem error_running : Ending.running.error = none := rfl

@[simp] theorem error_ended (e : Option StreamFault) : (Ending.ended e).error = e := rfl

@[simp] theorem error_ofError (e : Option StreamFault) : (ofError e).error = none := by
  unfold ofError
  split <;> rfl

@[simp] theorem settle_ofError (e : Option StreamFault) :
    (ofError e).settle = .ended (failure? e) := by
  unfold ofError
  cases failure? e <;> rfl

end Ending
end PullStreams
