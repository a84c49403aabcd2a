import PullStreams.Proofs.Calls

namespace PullStreams.Source

inductive Answer (α : Type u) where
  | advance (more : Bool)
  | current (a : α)
  | error (e : Option StreamFault)
  | close (result : Except StreamFault Unit)

section Run
variable {σ : Type u} {α : Type v} [Source σ α]

def perform (s : σ) : Call → Answer α × σ
  | .advance => (advance s).map .advance id
  | .current => (.current (current s), s)
  | .error => (.error (error s), s)
  | .close => (close s).map .close id

def run : List Call → σ → List (Answer α) × σ
  | [], s => ([], s)
  | c :: calls, s =>
    let (answer, s) := perform s c
    (run calls s).map (answer :: ·) id

theorem run_cons (c : Call) (calls : List Call) (s : σ) :
    run (c :: calls) s =
      ((perform s c).1 :: (run calls (perform s c).2).1, (run calls (perform s c).2).2) := rfl

theorem run_append (calls calls' : List Call) (s : σ) :
    run (calls ++ calls') s =
      ((run calls s).1 ++ (run calls' (run calls s).2).1, (run calls' (run calls s).2).2) := by
  induction calls generalizing s with
  | nil => rfl
  | cons c calls ih =>
    rw [List.cons_append, run_cons, run_cons, ih]
    rfl

def Answer.isItem : Answer α → Bool
  | .advance more => more
  | .current _ | .error _ | .close _ => false

def yields (answers : List (Answer α)) : Nat := answers.countP Answer.isItem

theorem yields_cons (answer : Answer α) (answers : List (Answer α)) :
    yields (answer :: answers) = answer.isItem.toNat + yields answers := by
  rw [yields, yields, List.countP_cons, Nat.add_comm]
  cases answer.isItem <;> rfl

/-- What holds of a state with a count, and is kept when each advance that yields adds one to it,
holds after all calls with the items counted that were yielded. -/
theorem run_counts (inv : Nat → σ → Prop)
    (hadvance : ∀ {n s}, inv n s → inv (n + (advance s).1.toNat) (advance s).2)
    (hclose : ∀ {n s}, inv n s → inv n (close s).2) {n : Nat} {s : σ} (h : inv n s)
    (calls : List Call) : inv (n + yields (run calls s).1) (run calls s).2 := by
  induction calls generalizing n s with
  | nil => exact h
  | cons c calls ih =>
    have hc : inv (n + (perform s c).1.isItem.toNat) (perform s c).2 := by
      cases c with
      | current => exact h
      | error => exact h
      | advance => exact hadvance h
      | close => exact hclose h
    rw [run_cons, yields_cons, ← Nat.add_assoc]
    exact ih hc

/-- What an advance and a close keep holds after all calls. -/
theorem run_induction (inv : σ → Prop) (hadvance : ∀ {s}, inv s → inv (advance s).2)
    (hclose : ∀ {s}, inv s → inv (close s).2) {s : σ} (h : inv s) (calls : List Call) :
    inv (run calls s).2 :=
  run_counts (n := 0) (fun _ => inv) hadvance hclose h calls

/-- Whatever the source is asked from here on, `log` stays as it is. -/
def Rests {τ : Type w} (log : σ → List τ) (s : σ) : Prop :=
  ∀ later : List Call, log (run later s).2 = log s

/-- From the first close on the source is closed and at rest, if a closed source stays so and adds
nothing to the log. -/
theorem rests_of_close {τ : Type w} {log : σ → List τ} (closed : σ → Prop)
    (hadvance : ∀ s, closed s → closed (advance s).2 ∧ log (advance s).2 = log s)
    (hclose : ∀ s, closed (close s).2 ∧ (closed s → log (close s).2 = log s)) {calls : List Call}
    (h : .close ∈ calls) (s : σ) : closed (run calls s).2 ∧ Rests log (run calls s).2 := by
  have hrun {s : σ} (hs : closed s) (later : List Call) :
      closed (run later s).2 ∧ log (run later s).2 = log s :=
    run_induction (fun t => closed t ∧ log t = log s)
      (fun ⟨ht, hl⟩ => (hadvance _ ht).imp id (·.trans hl))
      (fun ⟨ht, hl⟩ => ⟨(hclose _).1, ((hclose _).2 ht).trans hl⟩) ⟨hs, rfl⟩ later
  obtain ⟨before, after, rfl⟩ := List.append_of_mem h
  rw [run_append, run_cons]
  obtain ⟨hc, -⟩ := hrun (hclose (run before s).2).1 after
  exact ⟨hc, fun later => (hrun hc later).2⟩

theorem History.state_foldl (calls : List Call) (h : History σ) :
    (calls.foldl History.call h).state = (run calls h.state).2 := by
  induction calls generalizing h with
  | nil => rfl
  | cons c calls ih =>
    rw [List.foldl_cons, ih, run_cons]
    cases c <;> rfl

/-- A history ends in the state that the calls lead to. -/
theorem History.state_after (calls : List Call) (s : σ) :
    (History.after calls s).state = (run calls s).2 :=
  state_foldl calls { state := s }

end Run

/-- Related states answer every call alike and are related again after it. -/
structure Bisimulation {σ : Type u} {τ : Type v} {α : Type w} [Source σ α] [Source τ α]
    (Alike : σ → τ → Prop) : Prop where
  advance {s : σ} {t : τ} : Alike s t →
    (advance s).1 = (advance t).1 ∧ Alike (advance s).2 (advance t).2
  current {s : σ} {t : τ} : Alike s t → current s = current t
  error {s : σ} {t : τ} : Alike s t → error s = error t
  close {s : σ} {t : τ} : Alike s t →
    (close s).1 = (close t).1 ∧ Alike (close s).2 (close t).2

namespace Bisimulation
variable {σ : Type u} {τ : Type v} {α : Type w} [Source σ α] [Source τ α] {Alike : σ → τ → Prop}
  {s : σ} {t : τ}

theorem perform (hb : Bisimulation Alike) (h : Alike s t) (c : Call) :
    (perform s c).1 = (Source.perform t c).1 ∧
      Alike (Source.perform s c).2 (Source.perform t c).2 := by
  cases c with
  | advance =>
    obtain ⟨he, ha⟩ := hb.advance h
    exact ⟨congrArg Answer.advance he, ha⟩
  | current => exact ⟨congrArg Answer.current (hb.current h), h⟩
  | error => exact ⟨congrArg Answer.error (hb.error h), h⟩
  | close =>
    obtain ⟨he, ha⟩ := hb.close h
    exact ⟨congrArg Answer.close he, ha⟩

theorem run (hb : Bisimulation Alike) (h : Alike s t) (calls : List Call) :
    (run calls s).1 = (Source.run calls t).1 ∧
      Alike (Source.run calls s).2 (Source.run calls t).2 := by
  induction calls generalizing s t with
  | nil => exact ⟨rfl, h⟩
  | cons c calls ih =>
    obtain ⟨hc, h⟩ := hb.perform h c
    obtain ⟨hcalls, h⟩ := ih h
    refine ⟨?_, h⟩
    rw [run_cons, run_cons, hc, hcalls]

/-- Items that come from one source come from the other. -/
theorem drains (hb : Bisimulation Alike) (h : Alike s t) {s' : σ} {xs : List α}
    (hd : Drains s xs s') : ∃ t', Drains t xs t' ∧ Alike s' t' := by
  induction hd generalizing t with
  | @stop s s' ha =>
    obtain ⟨hmore, h'⟩ := hb.advance h
    rw [ha] at hmore h'
    exact ⟨_, .stop (Prod.ext hmore.symm rfl), h'⟩
  | @item s u s' xs ha _ ih =>
    obtain ⟨hmore, h'⟩ := hb.advance h
    rw [ha] at hmore h'
    obtain ⟨t', ht, hs⟩ := ih h'
    rw [hb.current h']
    exact ⟨t', .item (Prod.ext hmore.symm rfl) ht, hs⟩

end Bisimulation
end PullStreams.Source
