import PullStreams.Proofs.Answers
import PullStreams.Proofs.Operator.Elementwise
import PullStreams.Proofs.Operator.Logged

namespace PullStreams
open Source

def Callback.unwrapped {α : Type u} {κ : Type v} {β : Type w} [Inhabited β]
    (f : Callback α κ (Except Report β)) : Callback α κ β :=
  fun a memory => (f a memory).map (fun r => r.toOption.getD default) id

namespace TryMap
variable {σ : Type u} {α : Type v} {κ : Type w} {β : Type x} [Source σ α]
  {f : Callback α κ (Except Report β)}

def results (t : TryMap (Traced σ) f.logged) : List (Except Report β) := t.memory.2.map (·.2)

structure Failed (e : Report) (t : TryMap (Traced σ) f.logged) : Prop where
  stopped : t.stopped = some e.toStreamFault
  slot : t.slot = none
  last : ∃ rs, results t = rs ++ [.error e] ∧ ∀ r ∈ rs, r.isOk
  once : t.memory.2.map (·.1) = Touch.items t.inner.log

variable {t : TryMap (Traced σ) f.logged} {e : Report}

theorem Failed.eq_of_mem (h : Failed e t) {e' : Report} (he : .error e' ∈ results t) : e' = e := by
  obtain ⟨rs, hl, hok⟩ := h.last
  rw [hl, List.mem_append, List.mem_singleton] at he
  rcases he with he | he
  · simpa [Except.isOk, Except.toBool] using hok _ he
  · exact Except.error.inj he

theorem Failed.mem (h : Failed e t) : .error e ∈ results t := by
  obtain ⟨rs, hl, -⟩ := h.last
  rw [hl]
  exact List.mem_append_right _ (List.mem_singleton_self _)

theorem Failed.advance_eq (h : Failed e t) : advance t = (false, t) := by
  rw [advance_of_stopped (by rw [h.stopped]; rfl), ← h.slot]

variable [Inhabited β]

/-- Of a source whose function has failed with `e` by `t`, whatever was asked of it since. -/
structure IsOver (e : Report) (t : TryMap (Traced σ) f.logged) (calls : List Call) : Prop where
  advance : (Source.advance (run calls t).2).1 = false
  current : Source.current (run calls t).2 = default
  error : Source.error (run calls t).2 = some e.toStreamFault
  /-- The function is not called again. -/
  memory : (run calls t).2.memory = t.memory
  /-- The source within is not advanced again. -/
  inner : ∃ answers : List (Except StreamFault Unit),
    (run calls t).2.inner.log = t.inner.log ++ answers.map .close

/-- A failure stays, whatever is asked: only closes come to the source within. -/
theorem Failed.run (h : Failed e t) (calls : List Call) :
    Failed e (run calls t).2 ∧ (run calls t).2.memory = t.memory ∧
      ∃ answers : List (Except StreamFault Unit),
        (run calls t).2.inner.log = t.inner.log ++ answers.map .close := by
  refine run_induction (fun u => Failed e u ∧ u.memory = t.memory ∧
    ∃ answers : List (Except StreamFault Unit), u.inner.log = t.inner.log ++ answers.map .close)
    ?_ ?_ ⟨h, rfl, [], by simp⟩ calls
  · intro u hu
    have hadvance : (Source.advance u).2 = u := congrArg Prod.snd hu.1.advance_eq
    rwa [hadvance]
  · rintro u ⟨hu, hm, answers, hl⟩
    have hlog : (Source.close u).2.inner.log = u.inner.log ++ [.close (Source.close u.inner).1] :=
      Traced.log_close _
    refine ⟨⟨hu.stopped, rfl, hu.last, ?_⟩, hm, answers ++ [(Source.close u.inner).1], ?_⟩
    · exact hu.once.trans (Traced.items_close u.inner).symm
    · rw [hlog, hl, List.map_append, List.append_assoc]
      rfl

theorem Failed.isOver (h : Failed e t) (calls : List Call) : IsOver e t calls := by
  obtain ⟨hr, hm, hl⟩ := h.run calls
  refine ⟨congrArg Prod.fst hr.advance_eq, ?_, ?_, hm, hl⟩
  · show ((Source.run calls t).2.slot).getD default = default
    rw [hr.slot]
    rfl
  · show (Source.run calls t).2.stopped.or _ = _
    rw [hr.stopped]
    rfl

/-- The function has not failed. -/
structure Alike (t : TryMap (Traced σ) f.logged) (m : Map (Traced σ) f.unwrapped) : Prop where
  stopped : t.stopped = none
  inner : t.inner = m.inner
  memory : t.memory.1 = m.memory
  slot : t.slot = m.slot
  ok : ∀ r ∈ results t, r.isOk
  once : t.memory.2.map (·.1) = Touch.items t.inner.log

variable {m : Map (Traced σ) f.unwrapped}

/-- One advance of both: they go on alike, or the function fails. -/
theorem Alike.advance (h : Alike t m) :
    (Source.advance t).1 = (Source.advance m).1 ∧
        Alike (Source.advance t).2 (Source.advance m).2 ∨
      (Source.advance t).1 = false ∧ ∃ e, Failed e (Source.advance t).2 := by
  show (t.advance).1 = m.advance.1 ∧ Alike t.advance.2 m.advance.2 ∨
    t.advance.1 = false ∧ ∃ e, Failed e t.advance.2
  match ha : Source.advance t.inner with
  | (false, u) =>
    rw [advance_of_stop h.stopped ha, Map.advance_of_stop (by rw [← h.inner]; exact ha)]
    refine .inl ⟨rfl, h.stopped, rfl, h.memory, rfl, h.ok, ?_⟩
    show t.memory.2.map (·.1) = Touch.items u.log
    rw [h.once, Traced.items_of_stop ha]
  | (true, u) =>
    have honce (r : Except Report β) :
        (t.memory.2 ++ [(current u, r)]).map (·.1) = Touch.items u.log := by
      rw [List.map_append, h.once, Traced.items_of_item ha]
      rfl
    have hresults (r : Except Report β) :
        (t.memory.2 ++ [(current u, r)]).map (·.2) = results t ++ [r] := List.map_append
    match hf : f (current u) t.memory.1 with
    | (.ok b, memory) =>
      have hl : f.logged (current u) t.memory =
          (.ok b, memory, t.memory.2 ++ [(current u, .ok b)]) := by
        simp [Callback.logged, hf]
      have hu : f.unwrapped (current u) m.memory = (b, memory) := by
        simp [Callback.unwrapped, ← h.memory, hf, Except.toOption]
      rw [advance_of_ok h.stopped ha hl, Map.advance_of_item (by rw [← h.inner]; exact ha), hu]
      refine .inl ⟨rfl, rfl, rfl, rfl, rfl, fun r hr => ?_, honce _⟩
      have hr : r ∈ results t ++ [.ok b] := by
        rw [← hresults]
        exact hr
      rcases List.mem_append.1 hr with hr | hr
      · exact h.ok r hr
      · rw [List.mem_singleton.1 hr]
        rfl
    | (.error e, memory) =>
      have hl : f.logged (current u) t.memory =
          (.error e, memory, t.memory.2 ++ [(current u, .error e)]) := by
        simp [Callback.logged, hf]
      rw [advance_of_error h.stopped ha hl]
      exact .inr ⟨rfl, e, rfl, rfl, ⟨results t, hresults _, h.ok⟩, honce _⟩

theorem Alike.error (h : Alike t m) : Source.error t = Source.error t.inner := by
  show t.stopped.or _ = _
  rw [h.stopped]
  rfl

theorem Alike.perform (h : Alike t m) (c : Call) :
    (perform t c).1 = (Source.perform m c).1 ∧ Alike (perform t c).2 (Source.perform m c).2 ∨
      ∃ e, Failed e (Source.perform t c).2 := by
  cases c with
  | advance =>
    rcases h.advance with ⟨he, ha⟩ | ⟨-, hf⟩
    · exact .inl ⟨congrArg Answer.advance he, ha⟩
    · exact .inr hf
  | current =>
    have hc : current t = current m := congrArg (·.getD default) h.slot
    exact .inl ⟨congrArg Answer.current hc, h⟩
  | error =>
    have he : Source.error t = Source.error m := by
      rw [h.error, h.inner]
      rfl
    exact .inl ⟨congrArg Answer.error he, h⟩
  | close =>
    refine .inl ⟨?_, h.stopped, ?_, h.memory, rfl, h.ok, ?_⟩
    · exact congrArg (fun r : Traced σ => Answer.close (Source.close r).1) h.inner
    · exact congrArg (fun r : Traced σ => (Source.close r).2) h.inner
    · exact h.once.trans (Traced.items_close t.inner).symm

theorem Alike.run (h : Alike t m) (calls : List Call) :
    (run calls t).1 = (Source.run calls m).1 ∧ Alike (run calls t).2 (Source.run calls m).2 ∨
      ∃ e, Failed e (Source.run calls t).2 := by
  induction calls generalizing t m with
  | nil => exact .inl ⟨rfl, h⟩
  | cons c calls ih =>
    rcases h.perform c with ⟨hc, h⟩ | ⟨e, hf⟩
    · rcases ih h with ⟨hcalls, h⟩ | hf
      · refine .inl ⟨?_, h⟩
        rw [run_cons, run_cons, hc, hcalls]
      · exact .inr hf
    · exact .inr ⟨e, (hf.run calls).1⟩

/-- Calls of an attempt, next to the same calls of a map that cannot fail. -/
structure AttemptsAsMap (start : TryMap (Traced σ) f.logged) (mapped : Map (Traced σ) f.unwrapped)
    (calls : List Call) : Prop where
  /-- The function has been called for each item that was pulled, in order. -/
  once : (run calls start).2.memory.2.map (·.1) = Touch.items (run calls start).2.inner.log
  /-- Until the function fails: the same answers, and the same calls of the source within. -/
  alike : (∀ r ∈ results (run calls start).2, r.isOk) →
    (run calls start).1 = (run calls mapped).1 ∧
      (run calls start).2.inner = (run calls mapped).2.inner ∧
      error (run calls start).2 = error (run calls start).2.inner
  /-- The advance in which it fails. -/
  fails : (∀ r ∈ results (run calls start).2, r.isOk) → ∀ e : Report,
    .error e ∈ results (advance (run calls start).2).2 → (advance (run calls start).2).1 = false
  finished : ∀ e : Report, .error e ∈ results (run calls start).2 → ∀ later : List Call,
    IsOver e (run calls start).2 later

/-- An attempt is a map until its function fails, and over after that. -/
theorem attempts_as_map (f : Callback α κ (Except Report β)) (s : σ) (memory : κ)
    (calls : List Call) :
    AttemptsAsMap
      ({ inner := { inner := s }, memory := (memory, []) } : TryMap (Traced σ) f.logged)
      { inner := { inner := s }, memory } calls := by
  have hstart : Alike
      ({ inner := { inner := s }, memory := (memory, []) } : TryMap (Traced σ) f.logged)
      { inner := { inner := s }, memory } := ⟨rfl, rfl, rfl, rfl, by simp [results], rfl⟩
  generalize ({ inner := { inner := s }, memory := (memory, []) } :
    TryMap (Traced σ) f.logged) = start at hstart ⊢
  rcases hstart.run calls with ⟨hcalls, h⟩ | ⟨e, h⟩
  · refine ⟨h.once, fun _ => ⟨hcalls, h.inner, h.error⟩, fun _ e he => ?_, fun e he => ?_⟩
    · rcases h.advance with ⟨-, ha⟩ | ⟨hf, -⟩
      · simpa [Except.isOk, Except.toBool] using ha.ok _ he
      · exact hf
    · simpa [Except.isOk, Except.toBool] using h.ok _ he
  · refine ⟨h.once, fun hok => ?_, fun _ e' _ => congrArg Prod.fst h.advance_eq, fun e' he => ?_⟩
    · simpa [Except.isOk, Except.toBool] using hok _ h.mem
    · rw [h.eq_of_mem he]
      exact h.isOver

end TryMap
end PullStreams
