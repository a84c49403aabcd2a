import Mathlib.Algebra.GroupWithZero.Nat
import PullStreams.Sink

namespace PullStreams.Sink

inductive Call (α : Type u) where
  | write (a : α)
  | flush
  | close

namespace Call
variable {α : Type u}

def item? : Call α → Option α
  | .write a => some a
  | _ => none

def items (calls : List (Call α)) : List α := calls.filterMap item?

@[simp] theorem items_cons_write (a : α) (calls : List (Call α)) :
    items (.write a :: calls) = a :: items calls := rfl

@[simp] theorem items_cons_flush (calls : List (Call α)) : items (.flush :: calls) = items calls :=
  rfl

end Call

inductive Event (α : Type u) where
  | write (a : α) (answer : Except StreamFault Nat)
  | flush (answer : Except StreamFault Unit)
  | close (answer : Except StreamFault Unit)

namespace Event
variable {α : Type u}

def IsOk : Event α → Prop
  | .write _ answer => ∃ n, answer = .ok n
  | .flush answer => answer = .ok ()
  | .close answer => answer = .ok ()

def isClose : Event α → Bool
  | .close _ => true
  | _ => false

def units : Event α → Nat
  | .write _ (.ok n) => n
  | _ => 0

def item? : Event α → Option α
  | .write a (.ok _) => some a
  | _ => none

def total (events : List (Event α)) : Nat := (events.map units).sum

def items (events : List (Event α)) : List α := events.filterMap item?

@[simp] theorem items_append (events events' : List (Event α)) :
    items (events ++ events') = items events ++ items events' := List.filterMap_append

@[simp] theorem items_cons (event : Event α) (events : List (Event α)) :
    items (event :: events) = event.item?.toList ++ items events := by
  cases h : event.item? <;> simp [items, h]

@[simp] theorem items_nil : items ([] : List (Event α)) = [] := rfl

@[simp] theorem total_append (events events' : List (Event α)) :
    total (events ++ events') = total events + total events' := by
  simp [total]

end Event

variable {τ : Type u} {α : Type v} [Sink τ α]

def perform (d : τ) : Call α → Event α × τ
  | .write a => (Sink.write a d).map (.write a) id
  | .flush => (Sink.flush d).map .flush id
  | .close => (Sink.close d).map .close id

def run : List (Call α) → τ → List (Event α) × τ
  | [], d => ([], d)
  | c :: calls, d =>
    let (event, d) := perform d c
    (run calls d).map (event :: ·) id

theorem run_cons (c : Call α) (calls : List (Call α)) (d : τ) :
    run (c :: calls) d =
      ((perform d c).1 :: (run calls (perform d c).2).1, (run calls (perform d c).2).2) := rfl

theorem run_append (calls calls' : List (Call α)) (d : τ) :
    run (calls ++ calls') d =
      ((run calls d).1 ++ (run calls' (run calls d).2).1, (run calls' (run calls d).2).2) := by
  induction calls generalizing d with
  | nil => rfl
  | cons c calls ih =>
    rw [List.cons_append, run_cons, run_cons, ih]
    rfl

/-- What every call keeps, together with the events before it, holds after all calls. -/
theorem run_induction (inv : List (Event α) → τ → Prop)
    (step : ∀ events d c, inv events d → inv (events ++ [(perform d c).1]) (perform d c).2)
    {d : τ} (h : inv [] d) (calls : List (Call α)) : inv (run calls d).1 (run calls d).2 := by
  suffices hs : ∀ events d, inv events d → inv (events ++ (run calls d).1) (run calls d).2 from
    hs [] d h
  induction calls with
  | nil =>
    intro events d h
    rwa [run, List.append_nil]
  | cons c calls ih =>
    intro events d h
    have hr := ih _ _ (step events d c h)
    rwa [List.append_assoc] at hr

/-- Sinks that answer each call alike, and are alike again after it, answer all calls alike. -/
theorem run_alike {υ : Type w} [Sink υ α] (Alike : τ → υ → Prop)
    (step : ∀ d d' c, Alike d d' →
      (perform d c).1 = (perform d' c).1 ∧ Alike (perform d c).2 (perform d' c).2)
    {d : τ} {d' : υ} (h : Alike d d') (calls : List (Call α)) :
    (run calls d).1 = (run calls d').1 ∧ Alike (run calls d).2 (run calls d').2 := by
  induction calls generalizing d d' with
  | nil => exact ⟨rfl, h⟩
  | cons c calls ih =>
    obtain ⟨hc, h⟩ := step d d' c h
    obtain ⟨hcalls, h⟩ := ih h
    refine ⟨?_, h⟩
    rw [run_cons, run_cons, hc, hcalls]

structure Logged (τ : Type u) {α : Type v} [Sink τ α] where
  inner : τ
  log : List (Event α) := []

namespace Logged

def record {ρ : Type w} (d : Logged τ) (event : ρ → Event α) (result : ρ × τ) : ρ × Logged τ :=
  (result.1, ⟨result.2, d.log ++ [event result.1]⟩)

instance : Sink (Logged τ) α where
  write a d := d.record (.write a) (Sink.write a d.inner)
  flush d := d.record .flush (Sink.flush d.inner)
  close d := d.record .close (Sink.close d.inner)

theorem log_of_record {ρ : Type w} {d d' : Logged τ} {event : ρ → Event α} {result : ρ × τ}
    {answer : ρ} (h : d.record event result = (answer, d')) :
    d'.log = d.log ++ [event answer] := by
  obtain ⟨rfl, rfl⟩ := Prod.mk.inj h
  rfl

end Logged
end PullStreams.Sink
