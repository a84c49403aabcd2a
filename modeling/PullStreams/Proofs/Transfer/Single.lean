import PullStreams.Proofs.Sink.Calls
import PullStreams.Proofs.Transfer.Fanout

namespace PullStreams.Transfer
open Source Event

section Logs
variable {σ : Type u} {α : Type v} [Source σ α] {τ : Type w} [Sink τ α]

/-- The call as the sink at `place` sees it, if it is one of that sink. -/
def Event.call? (place : Nat) : Event α → Option (Sink.Event α)
  | .wrote i a n => if i = place then some (.write a (.ok n)) else none
  | .refused i a e => if i = place then some (.write a (.error e)) else none
  | .flushed i => if i = place then some (.flush (.ok ())) else none
  | .unflushed i e => if i = place then some (.flush (.error e)) else none
  | _ => none

def Event.calls (place : Nat) (log : List (Event α)) : List (Sink.Event α) :=
  log.filterMap (call? place)

def logAt (sinks : List (Sink.Logged τ)) (place : Nat) : Option (List (Sink.Event α)) :=
  sinks[place]?.map (·.log)

variable {p q : σ × List (Sink.Logged τ)} {event : Event α} {log : List (Event α)}

theorem logAt_of_call {before after : List (Sink.Logged τ)} {d d' : Sink.Logged τ}
    {call : Sink.Event α} (hd : d'.log = d.log ++ [call]) (place : Nat) :
    logAt (before ++ d' :: after) place =
      (logAt (before ++ d :: after) place).map
        (· ++ (if before.length = place then some call else none).toList) := by
  unfold logAt
  rcases Nat.lt_trichotomy place before.length with h | rfl | h
  · rw [if_neg (by omega), List.getElem?_append_left h, List.getElem?_append_left h]
    simp [Function.comp_def]
  · simp [hd]
  · obtain ⟨k, rfl⟩ := Nat.exists_eq_add_of_lt h
    rw [if_neg (by omega), List.getElem?_append_right (by omega),
      List.getElem?_append_right (by omega)]
    simp [show before.length + k + 1 - before.length = k + 1 by omega, Function.comp_def]

theorem Step.logAt_eq (h : Step p event q) (place : Nat) :
    logAt q.2 place = (logAt p.2 place).map (· ++ (event.call? place).toList) := by
  cases h with
  | pulled => simp [call?]
  | stopped => simp [call?]
  | wrote s before after h => exact logAt_of_call (Sink.Logged.log_of_record h) place
  | refused s before after h => exact logAt_of_call (Sink.Logged.log_of_record h) place
  | flushed s before after h => exact logAt_of_call (Sink.Logged.log_of_record h) place
  | unflushed s before after h => exact logAt_of_call (Sink.Logged.log_of_record h) place

/-- The calls of a run are those that the sinks write down. -/
theorem Runs.logAt_eq (h : Runs p log q) (place : Nat) :
    logAt q.2 place = (logAt p.2 place).map (· ++ calls place log) := by
  induction h with
  | nil => simp [calls]
  | @cons p q r event log hstep _ ih =>
    have hc : calls place (event :: log) = (event.call? place).toList ++ calls place log := by
      cases h : event.call? place <;> simp [calls, h]
    rw [ih, hstep.logAt_eq, hc, Option.map_map]
    simp [Function.comp_def]

end Logs

section Calls
variable {α : Type u}

def transfers (taken : List (α × Nat)) : List (Event α) :=
  rounds (taken.map fun r => (r.1, [r.2]))

def total (taken : List (α × Nat)) : Nat := (taken.map (·.2)).sum

theorem transfers_append_singleton (taken : List (α × Nat)) (r : α × Nat) :
    transfers (taken ++ [r]) = transfers taken ++ [.pulled r.1, .wrote 0 r.1 r.2] := by
  simp [transfers, Event.round, writes]

theorem total_append_singleton (taken : List (α × Nat)) (r : α × Nat) :
    total (taken ++ [r]) = total taken + r.2 := by
  simp [total]

/-- The calls of a copy into one sink, with what it comes to. The last call is the only flush, and
there is none after a failed read or write. -/
inductive Copied : List (Event α) → Except PartialTransfer Nat → Prop
  | refused (taken : List (α × Nat)) (a : α) (e : StreamFault) :
    Copied (transfers taken ++ [.pulled a, .refused 0 a e]) (.error ⟨total taken, e⟩)
  | failed (taken : List (α × Nat)) {stop : Option StreamFault} {e : StreamFault}
    (hf : failure? stop = some e) :
    Copied (transfers taken ++ [.stopped stop]) (.error ⟨total taken, e⟩)
  | unflushed (taken : List (α × Nat)) {stop : Option StreamFault} (e : StreamFault)
    (hf : failure? stop = none) :
    Copied (transfers taken ++ [.stopped stop, .unflushed 0 e]) (.error ⟨total taken, e⟩)
  | whole (taken : List (α × Nat)) {stop : Option StreamFault} (hf : failure? stop = none) :
    Copied (transfers taken ++ [.stopped stop, .flushed 0]) (.ok (total taken))

end Calls

section Loops
variable {σ : Type u} {α : Type v} [Source σ α] {τ : Type w} [Sink τ α]

theorem offer_of_taken {n k : Nat} {sink d : τ} {t : σ}
    (h : Sink.write (current t) sink = (.ok k, d)) : offer (n, sink) t = .ok (n + k, d) := by
  simp [offer, h]

theorem offer_of_refused {n : Nat} {sink d : τ} {t : σ} {e : StreamFault}
    (h : Sink.write (current t) sink = (.error e, d)) :
    offer (n, sink) t = .error (⟨n, e⟩, d) := by
  simp [offer, h]

def conclude : Except (PartialTransfer × τ) (Nat × τ) × σ → Except PartialTransfer Nat × σ × τ
  | (.error (e, sink), source) => (.error e, source, sink)
  | (.ok (n, sink), source) =>
    match failure? (error source) with
    | some e => (.error ⟨n, e⟩, source, sink)
    | none =>
      match Sink.flush sink with
      | (.ok (), sink) => (.ok n, source, sink)
      | (.error e, sink) => (.error ⟨n, e⟩, source, sink)

theorem copy_eq (source : σ) (sink : τ) [SweepEnds offer (0, sink) source] :
    copy source sink = conclude (sweep offer (0, sink) source) := rfl

/-- What a copy into one sink comes to, put as a copy into each of one. -/
def amongOne (answer : Except PartialTransfer Nat × σ × τ) :
    Except PartialMulticast (List Nat) × σ × List τ :=
  ((answer.1.map fun n => [n]).mapError fun e => ⟨[e.written], e.source⟩, answer.2.1, [answer.2.2])

def oneDestination (tally : Nat × τ) : List (Destination τ) := [⟨tally.2, tally.1⟩]

def oneRefusal (refusal : PartialTransfer × τ) : StreamFault × List (Destination τ) :=
  (refusal.1.source, [⟨refusal.2, refusal.1.written⟩])

theorem offerEach_oneDestination (tally : Nat × τ) (t : σ) :
    offerEach (oneDestination tally) t =
      ((offer tally t).map oneDestination).mapError oneRefusal := by
  unfold offerEach oneDestination offer
  rw [writeEach]
  rcases Sink.write (current t) tally.2 with ⟨_ | _, _⟩ <;> rfl

theorem copyEnds_singleton (source : σ) (sink : τ) :
    CopyEnds source [sink] ↔ SweepEnds offer (0, sink) source := by
  constructor
  · intro h
    have hends : SweepEnds offerEach (oneDestination (0, sink)) source := h.sweepEnds (by simp)
    obtain ⟨_, hs⟩ := SweepsTo.of_map offerEach_oneDestination (sweepsTo_sweep (h := hends))
    exact hs.ends
  · intro h
    exact ⟨fun _ => ((sweepsTo_sweep (h := h)).map offerEach_oneDestination).ends⟩

theorem copyToEach_singleton (source : σ) (sink : τ) [SweepEnds offer (0, sink) source]
    [CopyEnds source [sink]] : copyToEach source [sink] = amongOne (copy source sink) := by
  have hoffer : SweepsTo offer (0, sink) source _ := sweepsTo_sweep
  have hsweep : SweepsTo offerEach ([sink].map ({ sink := · })) source _ :=
    hoffer.map offerEach_oneDestination
  have hends := hsweep.ends
  rw [copy_eq]
  unfold copyToEach
  rw [dif_neg (List.cons_ne_nil sink []), hsweep.sweep_eq]
  rcases sweep offer (0, sink) source with ⟨⟨e, d⟩ | ⟨n, d⟩, t⟩
  · rfl
  · show (match failure? (error t) with
      | some e => settle (.error e) t (oneDestination (n, d))
      | none => settle (flushEach (oneDestination (n, d))).1 t
          (flushEach (oneDestination (n, d))).2) = _
    cases hf : failure? (error t) with
    | some e => simp [conclude, hf, amongOne, settle, oneDestination, partialCopy, Except.map]
    | none =>
      rcases hd : Sink.flush d with ⟨_ | _, _⟩ <;>
        simp [conclude, hf, hd, amongOne, settle, oneDestination, partialCopy, flushEach,
          Except.map]

theorem copiesTo_singleton (source : σ) (sink : τ)
    (answer : Except PartialMulticast (List Nat) × σ × List τ) :
    CopiesTo source [sink] answer ↔
      ∃ _ : SweepEnds offer (0, sink) source, amongOne (copy source sink) = answer := by
  constructor
  · rintro ⟨hends, rfl⟩
    have hsweep := (copyEnds_singleton source sink).1 hends
    exact ⟨hsweep, (copyToEach_singleton source sink).symm⟩
  · rintro ⟨hsweep, rfl⟩
    have hends := (copyEnds_singleton source sink).2 hsweep
    exact ⟨hends, copyToEach_singleton source sink⟩

section Written
variable [Inhabited α]

/-- Writing the rest of a list is sweeping it. -/
theorem exists_sweepsTo_go (xs : List α) (slot : Option α) (n : Nat) (sink : τ) :
    ∃ answer, SweepsTo offer (n, sink) ({ items := xs, slot } : ListSource α) answer ∧
      writeAll.go n xs sink =
        ((conclude answer).1.mapError (·.source), (conclude answer).2.2) := by
  induction xs generalizing slot n sink with
  | nil =>
    refine ⟨_, .stop rfl, ?_⟩
    rw [writeAll.go]
    rcases hf : Sink.flush sink with ⟨_ | _, d⟩ <;>
      simp [conclude, hf, Source.error, failure?, Except.map]
  | cons a rest ih =>
    have ha : advance ({ items := a :: rest, slot } : ListSource α) =
        (true, { items := rest, slot := some a }) := rfl
    rcases hw : Sink.write a sink with ⟨e | k, d⟩
    · exact ⟨_, .halt ha (offer_of_refused hw), by simp [writeAll.go, hw, conclude]⟩
    · obtain ⟨answer, hs, hgo⟩ := ih (some a) (n + k) d
      refine ⟨answer, .pass ha (offer_of_taken hw) hs, ?_⟩
      rw [← hgo, writeAll.go, hw]

theorem writeAll_eq_copy (xs : List α) (sink : τ) :
    writeAll xs sink =
      ((copy (ListSource.ofList xs) sink).1.mapError (·.source),
        (copy (ListSource.ofList xs) sink).2.2) := by
  obtain ⟨answer, hs, hgo⟩ := exists_sweepsTo_go xs none 0 sink
  have he : sweep offer (0, sink) (ListSource.ofList xs) = answer := hs.sweep_eq
  rw [copy_eq, he]
  exact hgo

end Written

section Run
variable {start : σ × List τ} {source : σ} {sink : τ} {taken : List (α × Nat)}

theorem runs_of_taken (hr : Runs start (transfers taken) (source, [sink])) {t : σ} {d : τ} {k : Nat}
    (ha : advance source = (true, t)) (hw : Sink.write (current t) sink = (.ok k, d)) :
    Runs start (transfers (taken ++ [(current t, k)])) (t, [d]) := by
  rw [transfers_append_singleton]
  exact hr.append (.cons (.pulled [sink] ha) (.single (.wrote t [] [] hw)))

/-- A copy that has taken some items goes on to its end. -/
theorem exists_runs_conclude {tally : Nat × τ}
    {answer : Except (PartialTransfer × τ) (Nat × τ) × σ}
    (h : SweepsTo offer tally source answer) (ht : tally.1 = total taken)
    (hr : Runs start (transfers taken) (source, [tally.2])) :
    ∃ log, Runs start log ((conclude answer).2.1, [(conclude answer).2.2]) ∧
      Copied log (conclude answer).1 := by
  -- The items taken grow with each item that the sweep passes.
  induction h generalizing taken with
  | @stop tally s t ha =>
    have hstop : Runs start (transfers taken ++ [.stopped (error t)]) (t, [tally.2]) :=
      hr.append (.single (.stopped [tally.2] ha))
    rw [conclude, ht]
    cases hf : failure? (error t) with
    | some e => exact ⟨_, hstop, .failed taken hf⟩
    | none =>
      rcases hd : Sink.flush tally.2 with ⟨e | _, d⟩
      · have hflush := hstop.append (.single (.unflushed t [] [] hd))
        rw [List.append_assoc] at hflush
        exact ⟨_, hflush, .unflushed taken e hf⟩
      · have hflush := hstop.append (.single (.flushed t [] [] hd))
        rw [List.append_assoc] at hflush
        exact ⟨_, hflush, .whole taken hf⟩
  | @halt tally s t refusal ha hv =>
    rcases hw : Sink.write (current t) tally.2 with ⟨e | k, d⟩
    · obtain rfl := Except.error.inj ((offer_of_refused hw).symm.trans hv)
      rw [conclude, ht]
      exact ⟨_, hr.append (.cons (.pulled [tally.2] ha) (.single (.refused t [] [] hw))),
        .refused taken (current t) e⟩
    · simp [offer_of_taken hw] at hv
  | @pass tally tally' s t answer ha hv _ ih =>
    rcases hw : Sink.write (current t) tally.2 with ⟨e | k, d⟩
    · simp [offer_of_refused hw] at hv
    · obtain rfl := Except.ok.inj ((offer_of_taken hw).symm.trans hv)
      exact ih (by rw [total_append_singleton, ht]) (runs_of_taken hr ha hw)

end Run

/-- Copying into one sink is copying into each of one, with the same answer and the same states left
behind, and writing a list is copying it. Sources and sinks are of any types, and so may write down
what is asked of them. A copy that ends has made the calls of one of the ways to end. -/
theorem copies_agree :
    (∀ (source : σ) (sink : τ) (answer : Except PartialMulticast (List Nat) × σ × List τ),
      CopiesTo source [sink] answer ↔
        ∃ _ : SweepEnds offer (0, sink) source, amongOne (copy source sink) = answer) ∧
    (∀ [Inhabited α] (xs : List α) (sink : τ),
      writeAll xs sink =
        ((copy (ListSource.ofList xs) sink).1.mapError (·.source),
          (copy (ListSource.ofList xs) sink).2.2)) ∧
    ∀ (source : σ) (sink : Sink.Logged τ),
      NeverEnds source [sink] ∨
        ∃ (_ : SweepEnds offer (0, sink) source) (log : List (Event α)) (result : _) (s : σ)
          (d : Sink.Logged τ), copy source sink = (result, s, d) ∧
            Runs (source, [sink]) log (s, [d]) ∧ Copied log result ∧
              d.log = sink.log ++ calls 0 log := by
  refine ⟨copiesTo_singleton, fun xs sink => writeAll_eq_copy xs sink, fun source sink => ?_⟩
  refine or_iff_not_imp_left.2 fun hnever => ?_
  have hends : SweepEnds offer (0, sink) source :=
    (copyEnds_singleton source sink).1 ((copyEnds_iff source [sink]).2 hnever)
  have hstart : Runs (source, [sink]) (transfers ([] : List (α × Nat))) (source, [sink]) := .nil _
  obtain ⟨log, hr, hc⟩ := exists_runs_conclude (sweepsTo_sweep (h := hends)) rfl hstart
  rw [← copy_eq] at hr hc
  rcases hcopy : copy source sink with ⟨result, s, d⟩
  rw [hcopy] at hr hc
  exact ⟨hends, log, result, s, d, hcopy, hr, hc, by simpa [logAt] using hr.logAt_eq 0⟩

end Loops
end PullStreams.Transfer
