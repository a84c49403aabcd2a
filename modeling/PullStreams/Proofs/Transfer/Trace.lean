import Mathlib.Algebra.GroupWithZero.Nat
import PullStreams.Proofs.Run
import PullStreams.Transfer

namespace PullStreams.Transfer

/-- A call of the source or of a sink, and its answer. Sinks are told by their places. -/
inductive Event (α : Type u) where
  | pulled (a : α)
  | stopped (e : Option StreamFault)
  | wrote (place : Nat) (a : α) (units : Nat)
  | refused (place : Nat) (a : α) (e : StreamFault)
  | flushed (place : Nat)
  | unflushed (place : Nat) (e : StreamFault)
  deriving DecidableEq

namespace Event
variable {α : Type u}

def pull? : Event α → Option α
  | .pulled a => some a
  | _ => none

/-- The item that is offered to the sink at `place`, taken or not. -/
def offer? (place : Nat) : Event α → Option α
  | .wrote i a _ => if i = place then some a else none
  | .refused i a _ => if i = place then some a else none
  | _ => none

def units? (place : Nat) : Event α → Option Nat
  | .wrote i _ n => if i = place then some n else none
  | _ => none

def pulls (log : List (Event α)) : List α := log.filterMap pull?

def offers (place : Nat) (log : List (Event α)) : List α := log.filterMap (offer? place)

def units (place : Nat) (log : List (Event α)) : Nat := (log.filterMap (units? place)).sum

def written (m : Nat) (log : List (Event α)) : List Nat :=
  (List.range m).map fun place => units place log

def writes (start : Nat) (a : α) : List Nat → List (Event α)
  | [] => []
  | n :: ns => .wrote start a n :: writes (start + 1) a ns

/-- An item with the answers of the sinks that take it: it is pulled, then written to one sink after
the other. -/
def round (r : α × List Nat) : List (Event α) := .pulled r.1 :: writes 0 r.1 r.2

def rounds (rs : List (α × List Nat)) : List (Event α) := rs.flatMap round

def Full (m : Nat) (rs : List (α × List Nat)) : Prop := ∀ r ∈ rs, r.2.length = m

def flushes (start count : Nat) : List (Event α) := (List.range' start count).map .flushed

section Views
variable (log log' : List (Event α)) (place : Nat)

@[simp] theorem pulls_append : pulls (log ++ log') = pulls log ++ pulls log' :=
  List.filterMap_append

@[simp] theorem offers_append :
    offers place (log ++ log') = offers place log ++ offers place log' := List.filterMap_append

@[simp] theorem units_append : units place (log ++ log') = units place log + units place log' := by
  simp [units]

end Views

section Writes
variable (a : α) (ns : List Nat) (start place : Nat)

@[simp] theorem pulls_writes : pulls (writes start a ns) = [] := by
  induction ns generalizing start with
  | nil => rfl
  | cons n ns ih => exact ih (start + 1)

theorem offers_writes :
    offers place (writes start a ns) =
      if start ≤ place ∧ place < start + ns.length then [a] else [] := by
  induction ns generalizing start with
  | nil => simp [writes, offers]
  | cons n ns ih =>
    have hc : offers place (writes start a (n :: ns)) =
        (if start = place then [a] else []) ++ offers place (writes (start + 1) a ns) := by
      by_cases h : start = place <;> simp [writes, offers, offer?, h]
    rw [hc, ih, List.length_cons]
    by_cases h : start = place
    · subst h
      rw [if_pos rfl, if_neg (by omega), if_pos (by omega), List.append_nil]
    · have hi : (start + 1 ≤ place ∧ place < start + 1 + ns.length) ↔
          (start ≤ place ∧ place < start + (ns.length + 1)) := by omega
      simp only [if_neg h, hi, List.nil_append]

theorem units_wrote_cons (log : List (Event α)) (n : Nat) :
    units place (.wrote start a n :: log) = (if start = place then n else 0) + units place log := by
  by_cases h : start = place <;> simp [units, units?, h]

theorem units_writes_of_lt (h : place < start) : units place (writes start a ns) = 0 := by
  induction ns generalizing start with
  | nil => rfl
  | cons n ns ih =>
    rw [writes, units_wrote_cons, if_neg (by omega), ih (start + 1) (by omega)]

end Writes

structure Silent (log : List (Event α)) : Prop where
  pulls : pulls log = []
  offers (place : Nat) : offers place log = []
  units (place : Nat) : units place log = 0

theorem silent_stopped (e : Option StreamFault) : Silent ([.stopped e] : List (Event α)) :=
  ⟨rfl, fun _ => rfl, fun _ => rfl⟩

theorem silent_unflushed (place : Nat) (e : StreamFault) :
    Silent ([.unflushed place e] : List (Event α)) := ⟨rfl, fun _ => rfl, fun _ => rfl⟩

theorem Silent.append {log log' : List (Event α)} (h : Silent log) (h' : Silent log') :
    Silent (log ++ log') where
  pulls := by rw [pulls_append, h.pulls, h'.pulls, List.append_nil]
  offers place := by rw [offers_append, h.offers, h'.offers, List.append_nil]
  units place := by rw [units_append, h.units, h'.units]

theorem flushes_succ (start count : Nat) : (flushes start (count + 1) : List (Event α)) =
    .flushed start :: flushes (start + 1) count := by
  rw [flushes, List.range'_succ]
  rfl

theorem silent_flushes (start count : Nat) : Silent (flushes start count : List (Event α)) := by
  induction count generalizing start with
  | zero => exact ⟨rfl, fun _ => rfl, fun _ => rfl⟩
  | succ count ih =>
    rw [flushes_succ]
    have hone : Silent ([.flushed start] : List (Event α)) :=
      ⟨rfl, fun _ => rfl, fun _ => rfl⟩
    exact hone.append (ih (start + 1))

section Rounds
variable {rs : List (α × List Nat)} {m : Nat}

@[simp] theorem rounds_append (rs rs' : List (α × List Nat)) :
    rounds (rs ++ rs') = rounds rs ++ rounds rs' := List.flatMap_append

@[simp] theorem rounds_singleton (r : α × List Nat) : rounds [r] = round r := by simp [rounds]

@[simp] theorem pulls_round (r : α × List Nat) : pulls (round r) = [r.1] := by
  show r.1 :: pulls (writes 0 r.1 r.2) = [r.1]
  rw [pulls_writes]

theorem offers_round (place : Nat) (r : α × List Nat) :
    offers place (round r) = if place < r.2.length then [r.1] else [] := by
  show offers place (writes 0 r.1 r.2) = _
  simp [offers_writes]

/-- A round that comes to an end: sinks up to the one that refuses have been offered the item. -/
def broken (a : α) (ns : List Nat) (e : StreamFault) : List (Event α) :=
  round (a, ns) ++ [.refused ns.length a e]

theorem pulls_broken (a : α) (ns : List Nat) (e : StreamFault) : pulls (broken a ns e) = [a] := by
  rw [broken, pulls_append, pulls_round]
  rfl

theorem offers_broken (place : Nat) (a : α) (ns : List Nat) (e : StreamFault) :
    offers place (broken a ns e) = if place ≤ ns.length then [a] else [] := by
  have hr : offers place [.refused ns.length a e] = if ns.length = place then [a] else [] := by
    by_cases h : ns.length = place <;> simp [offers, offer?, h]
  rw [broken, offers_append, offers_round, hr]
  rcases Nat.lt_trichotomy place ns.length with h | h | h
  · rw [if_pos h, if_neg (by omega), if_pos (by omega), List.append_nil]
  · rw [if_neg (by simp [h]), if_pos h.symm, if_pos (by omega), List.nil_append]
  · rw [if_neg (by simp; omega), if_neg (by omega), if_neg (by omega), List.nil_append]

@[simp] theorem pulls_rounds (rs : List (α × List Nat)) : pulls (rounds rs) = rs.map (·.1) := by
  induction rs with
  | nil => rfl
  | cons r rs ih =>
    show pulls (round r ++ rounds rs) = _
    simp [ih]

theorem full_nil : Full m ([] : List (α × List Nat)) := fun _ h => absurd h List.not_mem_nil

theorem Full.append_singleton {r : α × List Nat} (h : Full m rs) (hr : r.2.length = m) :
    Full m (rs ++ [r]) := List.forall_mem_append.2 ⟨h, List.forall_mem_singleton.2 hr⟩

/-- In full rounds every sink is offered every item. -/
theorem Full.offers_eq (h : Full m rs) {place : Nat} (hp : place < m) :
    offers place (rounds rs) = rs.map (·.1) := by
  induction rs with
  | nil => rfl
  | cons r rs ih =>
    obtain ⟨hr, hrest⟩ := List.forall_mem_cons.1 h
    show offers place (round r ++ rounds rs) = _
    rw [offers_append, offers_round, if_pos (hr ▸ hp), ih hrest]
    rfl

end Rounds
end Event

section Runs
variable {σ : Type u} {α : Type v} [Source σ α] {τ : Type w} [Sink τ α]

/-- One call. A call of a sink leaves the others, before it and after it, as they are. -/
inductive Step : σ × List τ → Event α → σ × List τ → Prop
  | pulled {s t : σ} (sinks : List τ) (h : Source.advance s = (true, t)) :
    Step (s, sinks) (.pulled (Source.current t)) (t, sinks)
  | stopped {s t : σ} (sinks : List τ) (h : Source.advance s = (false, t)) :
    Step (s, sinks) (.stopped (Source.error t)) (t, sinks)
  | wrote {d d' : τ} {a : α} {n : Nat} (s : σ) (before after : List τ)
    (h : Sink.write a d = (.ok n, d')) :
    Step (s, before ++ d :: after) (.wrote before.length a n) (s, before ++ d' :: after)
  | refused {d d' : τ} {a : α} {e : StreamFault} (s : σ) (before after : List τ)
    (h : Sink.write a d = (.error e, d')) :
    Step (s, before ++ d :: after) (.refused before.length a e) (s, before ++ d' :: after)
  | flushed {d d' : τ} (s : σ) (before after : List τ) (h : Sink.flush d = (.ok (), d')) :
    Step (s, before ++ d :: after) (.flushed before.length) (s, before ++ d' :: after)
  | unflushed {d d' : τ} {e : StreamFault} (s : σ) (before after : List τ)
    (h : Sink.flush d = (.error e, d')) :
    Step (s, before ++ d :: after) (.unflushed before.length e) (s, before ++ d' :: after)

/-- One call after the other. -/
inductive Runs : σ × List τ → List (Event α) → σ × List τ → Prop
  | nil (p : σ × List τ) : Runs p [] p
  | cons {p q r : σ × List τ} {event : Event α} {log : List (Event α)} (h : Step p event q)
    (rest : Runs q log r) : Runs p (event :: log) r

variable {p q r : σ × List τ} {event : Event α} {log log' : List (Event α)}
open Event

theorem Runs.single (h : Step p event q) : Runs p [event] q := .cons h (.nil q)

theorem Runs.append (h : Runs p log q) (h' : Runs q log' r) : Runs p (log ++ log') r := by
  induction h with
  | nil => exact h'
  | cons h _ ih => exact .cons h (ih h')

theorem Runs.of_append (h : Runs p (log ++ log') r) : ∃ q, Runs p log q ∧ Runs q log' r := by
  induction log generalizing p with
  | nil => exact ⟨p, .nil p, h⟩
  | cons event log ih =>
    cases h with
    | cons hstep hrest =>
      obtain ⟨q, hlog, hlog'⟩ := ih hrest
      exact ⟨q, .cons hstep hlog, hlog'⟩

theorem Step.of_pulled {a : α} (h : Step p (.pulled a) q) :
    ∃ t, Source.advance p.1 = (true, t) ∧ a = Source.current t ∧ q = (t, p.2) := by
  cases h with
  | pulled sinks h => exact ⟨_, h, rfl, rfl⟩

theorem Step.of_wrote {place n : Nat} {a : α} (h : Step p (.wrote place a n) q) :
    ∃ before after d d', before.length = place ∧ p.2 = before ++ d :: after ∧
      Sink.write a d = (.ok n, d') ∧ q = (p.1, before ++ d' :: after) := by
  cases h with
  | wrote s before after h => exact ⟨before, after, _, _, rfl, rfl, h, rfl⟩

end Runs
end PullStreams.Transfer
