import Mathlib
import PullStreams.Double.Sink
import PullStreams.Proofs.Run
import PullStreams.Proofs.Transfer.Trace
import PullStreams.Source.Listed

namespace PullStreams.Transfer
open Source Event

/-- The ways in which copying to `m` sinks ends, with the calls made by then. Every round before the
end is a full one. -/
inductive Account {α : Type v} (m : Nat) :
    List (Event α) → Except PartialMulticast (List Nat) → Prop
  | idle (hm : m = 0) : Account m [] (.ok [])
  /-- The item `a` is taken by as many sinks as `ns` has answers, and refused by the next. -/
  | refused {rs : List (α × List Nat)} {a : α} {ns : List Nat} {e : StreamFault}
    {log : List (Event α)} (hm : ns.length < m) (hr : Full m rs)
    (hl : log = rounds rs ++ broken a ns e)
    (hp : pulls log = rs.map (·.1) ++ [a])
    (hb : ∀ place ≤ ns.length, offers place log = rs.map (·.1) ++ [a])
    (ha : ∀ place, ns.length < place → place < m → offers place log = rs.map (·.1)) :
    Account m log (.error ⟨written m log, e⟩)
  | failed {rs : List (α × List Nat)} {stop : Option StreamFault} {e : StreamFault}
    {log : List (Event α)} (hm : 0 < m) (hr : Full m rs) (hf : failure? stop = some e)
    (hl : log = rounds rs ++ [.stopped stop]) (hp : pulls log = rs.map (·.1))
    (ho : ∀ place < m, offers place log = rs.map (·.1)) : Account m log (.error ⟨written m log, e⟩)
  | unflushed {rs : List (α × List Nat)} {stop : Option StreamFault} {count : Nat}
    {e : StreamFault} {log : List (Event α)} (hm : count < m) (hr : Full m rs)
    (hf : failure? stop = none)
    (hl : log = rounds rs ++ [.stopped stop] ++ (flushes 0 count ++ [.unflushed count e]))
    (hp : pulls log = rs.map (·.1)) (ho : ∀ place < m, offers place log = rs.map (·.1)) :
    Account m log (.error ⟨written m log, e⟩)
  | whole {rs : List (α × List Nat)} {stop : Option StreamFault} {log : List (Event α)}
    (hm : 0 < m) (hr : Full m rs) (hf : failure? stop = none)
    (hl : log = rounds rs ++ [.stopped stop] ++ flushes 0 m) (hp : pulls log = rs.map (·.1))
    (ho : ∀ place < m, offers place log = rs.map (·.1)) : Account m log (.ok (written m log))

/-- With no sink nothing is asked, of the source neither. -/
theorem Account.of_zero {α : Type v} {log : List (Event α)}
    {result : Except PartialMulticast (List Nat)} (h : Account 0 log result) :
    log = [] ∧ result = .ok [] := by
  cases h with
  | idle => exact ⟨rfl, rfl⟩
  | refused hm | failed hm | unflushed hm | whole hm => exact absurd hm (Nat.not_lt_zero _)

section Tallies
variable {α : Type v} {τ : Type w} {log log' : List (Event α)} {start : Nat} {d : Destination τ}
  {rest all : List (Destination τ)}

/-- The counts of destinations, of which the first is at `start`, are those of the log. -/
def Tallied (log : List (Event α)) (start : Nat) (all : List (Destination τ)) : Prop :=
  all.map (·.written) = (List.range' start all.length).map fun place => units place log

theorem Tallied.cons (hd : d.written = units start log) (h : Tallied log (start + 1) rest) :
    Tallied log start (d :: rest) := by
  unfold Tallied at h ⊢
  rw [List.map_cons, h, hd]
  rfl

theorem Tallied.of_cons (h : Tallied log start (d :: rest)) :
    d.written = units start log ∧ Tallied log (start + 1) rest := by
  unfold Tallied at h ⊢
  rw [List.map_cons, List.length_cons, List.range'_succ, List.map_cons] at h
  exact List.cons.inj h

/-- Events that add no units at the places leave the counts as they are. -/
theorem Tallied.append (h : Tallied log start all)
    (h' : ∀ place, start ≤ place → units place log' = 0) : Tallied (log ++ log') start all := by
  unfold Tallied at h ⊢
  rw [h]
  apply List.map_congr_left
  intro place hp
  have hs := (List.mem_range'_1.1 hp).1
  rw [units_append, h' place hs, Nat.add_zero]

/-- The item is taken by the first destination, and then by some further on. -/
theorem Tallied.wrote {a : α} {n : Nat} {ns : List Nat} {sink : τ}
    (hd : d.written = units start log)
    (h : Tallied (log ++ [.wrote start a n] ++ writes (start + 1) a ns) (start + 1) rest) :
    Tallied (log ++ writes start a (n :: ns)) start
      ({ sink, written := d.written + n } :: rest) := by
  rw [List.append_assoc] at h
  refine .cons ?_ h
  have hz : units start (writes (start + 1) a ns) = 0 :=
    units_writes_of_lt a ns _ _ (Nat.lt_succ_self start)
  rw [units_append, writes, units_wrote_cons, if_pos rfl, hz, hd, Nat.add_zero]

theorem Tallied.map_written (h : Tallied log 0 all) :
    all.map (·.written) = written all.length log := by
  rw [written, List.range_eq_range']
  exact h

theorem tallied_start (sinks : List τ) :
    Tallied ([] : List (Event α)) 0 (sinks.map ({ sink := · })) := by
  unfold Tallied
  apply List.ext_getElem <;> simp [units]

end Tallies

variable {σ : Type u} {α : Type v} [Source σ α] {τ : Type w} [Sink τ α]

section Rounds
variable {s : σ} {a : α} {before : List τ} {d : Destination τ}
  {all rest rest' : List (Destination τ)} {log : List (Event α)} {n : Nat} {sink : τ}
  {result : Except StreamFault Unit}

/-- What comes of offering an item to destinations that stand after the sinks `before`: all of them
take it, or those do that stand before the one that refuses it. -/
inductive Offered (s : σ) (a : α) (before : List τ) (all : List (Destination τ))
    (log : List (Event α)) : Except StreamFault Unit × List (Destination τ) → Prop
  | taken (ns : List Nat) {all' : List (Destination τ)} (hn : ns.length = all.length)
    (hl : all'.length = all.length)
    (hr : Runs (s, before ++ all.map (·.sink)) (writes before.length a ns)
      (s, before ++ all'.map (·.sink)))
    (ht : Tallied (log ++ writes before.length a ns) before.length all') :
    Offered s a before all log (.ok (), all')
  | refused (ns : List Nat) {e : StreamFault} {all' : List (Destination τ)}
    (hn : ns.length < all.length) (hl : all'.length = all.length)
    (hr : Runs (s, before ++ all.map (·.sink))
      (writes before.length a ns ++ [.refused (before.length + ns.length) a e])
      (s, before ++ all'.map (·.sink)))
    (ht : Tallied (log ++ writes before.length a ns) before.length all') :
    Offered s a before all log (.error e, all')

/-- The first destination takes the item, and what comes of the others is known. -/
theorem Offered.cons (hw : Sink.write a d.sink = (.ok n, sink))
    (hd : d.written = units before.length log)
    (h : Offered s a (before ++ [sink]) rest (log ++ [.wrote before.length a n]) (result, rest')) :
    Offered s a before (d :: rest) log
      (result, { sink, written := d.written + n } :: rest') := by
  have hstep : Step (s, before ++ (d :: rest).map (·.sink)) (.wrote before.length a n)
      (s, before ++ [sink] ++ rest.map (·.sink)) := by
    rw [List.append_assoc]
    exact .wrote s before (rest.map (·.sink)) hw
  have hstart : (before ++ [sink]).length = before.length + 1 := by simp
  have hsinks : before ++ [sink] ++ rest'.map (·.sink) =
      before ++ (({ sink, written := d.written + n } : Destination τ) :: rest').map (·.sink) := by
    simp
  cases h with
  | @taken ns _ hn hl hr ht =>
    rw [hstart, hsinks] at hr
    rw [hstart] at ht
    exact .taken (n :: ns) (by simp [hn]) (by simp [hl]) (.cons hstep hr) (.wrote hd ht)
  | @refused ns e _ hn hl hr ht =>
    have hplace : before.length + 1 + ns.length = before.length + (n :: ns).length := by
      simp only [List.length_cons]
      omega
    rw [hstart, hsinks, hplace] at hr
    rw [hstart] at ht
    exact .refused (n :: ns) (by simp [hn]) (by simp [hl]) (.cons hstep hr) (.wrote hd ht)

theorem offered_writeEach (s : σ) (a : α) (ht : Tallied log before.length all) :
    Offered s a before all log (writeEach a all) := by
  induction all generalizing before log with
  | nil =>
    refine .taken [] rfl rfl (.nil _) ?_
    rw [writes, List.append_nil]
    exact ht
  | cons d rest ih =>
    obtain ⟨hd, hrest⟩ := ht.of_cons
    unfold writeEach
    rcases hw : Sink.write a d.sink with ⟨e | n, sink⟩
    · refine .refused [] (Nat.succ_pos _) rfl ?_ ?_
      · exact .single (.refused s before (rest.map Destination.sink) hw)
      · rw [writes, List.append_nil]
        exact .cons hd hrest
    · -- The others stand after one sink more, and the log has one write more.
      have hone : Tallied (log ++ [.wrote before.length a n]) (before ++ [sink]).length rest := by
        rw [List.length_append]
        refine hrest.append fun place hp => ?_
        rw [units_wrote_cons, if_neg (by omega)]
        rfl
      exact .cons hw hd (ih hone)

/-- What comes of flushing destinations that stand after the sinks `before`. -/
inductive Flushed (s : σ) (before : List τ) (all : List (Destination τ)) :
    Except StreamFault Unit × List (Destination τ) → Prop
  | all {all' : List (Destination τ)} (hw : all'.map (·.written) = all.map (·.written))
    (hr : Runs (s, before ++ all.map (·.sink)) (flushes before.length all.length)
      (s, before ++ all'.map (·.sink))) : Flushed s before all (.ok (), all')
  | part (count : Nat) {e : StreamFault} {all' : List (Destination τ)} (hc : count < all.length)
    (hw : all'.map (·.written) = all.map (·.written))
    (hr : Runs (s, before ++ all.map (·.sink))
      (flushes before.length count ++ [.unflushed (before.length + count) e])
      (s, before ++ all'.map (·.sink))) : Flushed s before all (.error e, all')

theorem flushed_flushEach (s : σ) (before : List τ) (all : List (Destination τ)) :
    Flushed s before all (flushEach all) := by
  induction all generalizing before with
  | nil => exact .all rfl (.nil _)
  | cons d rest ih =>
    unfold flushEach
    match hf : Sink.flush d.sink with
    | (.error e, sink) =>
      exact .part 0 (Nat.succ_pos _) rfl
        (.single (.unflushed s before (rest.map Destination.sink) hf))
    | (.ok (), sink) =>
      have hstep : Step (s, before ++ (d :: rest).map (·.sink)) (.flushed before.length)
          (s, before ++ [sink] ++ rest.map (·.sink)) := by
        rw [List.append_assoc]
        exact .flushed s before (rest.map (·.sink)) hf
      have hstart : (before ++ [sink]).length = before.length + 1 := by simp
      have h := ih (before ++ [sink])
      generalize flushEach rest = r at h ⊢
      cases h with
      | @all rest' hw hr =>
        rw [hstart, List.append_assoc before [sink] (rest'.map _)] at hr
        refine .all (by simp [hw]) ?_
        rw [List.length_cons, flushes_succ]
        exact .cons hstep hr
      | @part count e rest' hc hw hr =>
        have hplace : before.length + 1 + count = before.length + (count + 1) := by omega
        rw [hstart, hplace, List.append_assoc before [sink] (rest'.map _)] at hr
        refine .part (count + 1) (Nat.succ_lt_succ hc) (by simp [hw]) ?_
        rw [flushes_succ]
        exact .cons hstep hr

end Rounds

def CopiesTo (source : σ) (sinks : List τ)
    (answer : Except PartialMulticast (List Nat) × σ × List τ) : Prop :=
  ∃ _ : CopyEnds source sinks, copyToEach source sinks = answer

def Accounts (source : σ) (sinks : List τ) : Prop :=
  ∃ log result s ds, CopiesTo source sinks (result, s, ds) ∧
    Runs (source, sinks) log (s, ds) ∧ Account sinks.length log result

/-- The source never stops, and no sink ever refuses an item. -/
def NeverEnds (source : σ) (sinks : List τ) : Prop :=
  sinks ≠ [] ∧ ∀ n, ∃ (rs : List (α × List Nat)) (q : σ × List τ),
    rs.length = n ∧ Full sinks.length rs ∧ Runs (source, sinks) (rounds rs) q

/-- Full rounds have led from the start to `s`, and the copy goes on from there. -/
structure Progress (source : σ) (sinks : List τ) (rs : List (α × List Nat)) (s : σ)
    (all : List (Destination τ)) : Prop where
  length : all.length = sinks.length
  full : Full sinks.length rs
  runs : Runs (source, sinks) (rounds rs) (s, all.map (·.sink))
  tallied : Tallied (rounds rs) 0 all
  sweepsTo {answer : Except (StreamFault × List (Destination τ)) (List (Destination τ)) × σ}
    (h : SweepsTo offerEach all s answer) :
    SweepsTo offerEach (sinks.map ({ sink := · })) source answer

section Copies
variable {source s t : σ} {sinks : List τ} {rs : List (α × List Nat)} {all : List (Destination τ)}

theorem progress_start (source : σ) (sinks : List τ) :
    Progress source sinks [] source (sinks.map ({ sink := · })) where
  length := List.length_map _
  full := full_nil
  runs := by
    rw [List.map_map]
    exact (List.map_id sinks).symm ▸ .nil _
  tallied := tallied_start sinks
  sweepsTo h := h

section Results
variable {e : StreamFault} (hs : sinks ≠ [])
include hs

theorem copiesTo_of_refusal
    (h : SweepsTo offerEach (sinks.map ({ sink := · })) source (.error (e, all), t)) :
    CopiesTo source sinks (.error ⟨all.map (·.written), e⟩, t, all.map (·.sink)) := by
  have hends := h.ends
  refine ⟨⟨fun _ => hends⟩, ?_⟩
  unfold copyToEach
  rw [dif_neg hs, h.sweep_eq]
  rfl

theorem copiesTo_of_failure
    (h : SweepsTo offerEach (sinks.map ({ sink := · })) source (.ok all, t))
    (hf : failure? (error t) = some e) :
    CopiesTo source sinks (.error ⟨all.map (·.written), e⟩, t, all.map (·.sink)) := by
  have hends := h.ends
  refine ⟨⟨fun _ => hends⟩, ?_⟩
  unfold copyToEach
  rw [dif_neg hs, h.sweep_eq]
  simp only [hf]
  rfl

theorem copiesTo_of_end
    (h : SweepsTo offerEach (sinks.map ({ sink := · })) source (.ok all, t))
    (hf : failure? (error t) = none) :
    CopiesTo source sinks (settle (flushEach all).1 t (flushEach all).2) := by
  have hends := h.ends
  refine ⟨⟨fun _ => hends⟩, ?_⟩
  unfold copyToEach
  rw [dif_neg hs, h.sweep_eq]
  simp only [hf]

end Results

/-- Calls after full rounds that move no item leave the counts as they are, and every sink has been
offered every item. -/
theorem Progress.views (h : Progress source sinks rs s all) {log : List (Event α)}
    (hlog : Silent log) :
    all.map (·.written) = written sinks.length (rounds rs ++ log) ∧
      pulls (rounds rs ++ log) = rs.map (·.1) ∧
      ∀ place < sinks.length, offers place (rounds rs ++ log) = rs.map (·.1) := by
  refine ⟨?_, ?_, fun place hp => ?_⟩
  · rw [(h.tallied.append fun place _ => hlog.units place).map_written, h.length]
  · rw [pulls_append, pulls_rounds, hlog.pulls, List.append_nil]
  · rw [offers_append, h.full.offers_eq hp, hlog.offers, List.append_nil]

/-- The source stops after full rounds. -/
theorem Progress.of_stop (h : Progress source sinks rs s all) (hs : sinks ≠ [])
    (ha : advance s = (false, t)) : Accounts source sinks := by
  have hsweep : SweepsTo offerEach (sinks.map ({ sink := · })) source (.ok all, t) :=
    h.sweepsTo (.stop ha)
  have hrun : Runs (source, sinks) (rounds rs ++ [.stopped (error t)]) (t, all.map (·.sink)) :=
    h.runs.append (.single (.stopped _ ha))
  have hstop : Silent ([.stopped (error t)] : List (Event α)) := silent_stopped _
  have hm : 0 < sinks.length := List.length_pos_iff.2 hs
  cases hf : failure? (error t) with
  | some e =>
    obtain ⟨hw, hp, ho⟩ := h.views hstop
    refine ⟨_, _, t, _, copiesTo_of_failure hs hsweep hf, hrun, ?_⟩
    rw [hw]
    exact .failed hm h.full hf rfl hp ho
  | none =>
    have hcopy := copiesTo_of_end hs hsweep hf
    have hfl := flushed_flushEach t [] all
    generalize flushEach all = r at hcopy hfl
    cases hfl with
    | @all all' hall hr =>
      obtain ⟨hw, hp, ho⟩ := h.views (hstop.append (silent_flushes 0 all.length))
      refine ⟨_, _, t, _, hcopy, hrun.append hr, ?_⟩
      rw [hall, hw, List.length_nil, h.length, ← List.append_assoc]
      rw [← List.append_assoc, h.length] at hp ho
      exact .whole hm h.full hf rfl hp ho
    | @part count e all' hc hall hr =>
      obtain ⟨hw, hp, ho⟩ :=
        h.views (hstop.append ((silent_flushes 0 count).append (silent_unflushed count e)))
      refine ⟨_, _, t, _, hcopy, hrun.append hr, ?_⟩
      rw [← List.append_assoc] at hw hp ho
      rw [h.length] at hc
      rw [List.length_nil, Nat.zero_add]
      show Account _ _ (.error ⟨all'.map (·.written), e⟩)
      rw [hall, hw]
      exact .unflushed hc h.full hf rfl hp ho

/-- The source yields one more item: all sinks take it, or one refuses it. -/
theorem Progress.of_item (h : Progress source sinks rs s all) (hs : sinks ≠ [])
    (ha : advance s = (true, t)) :
    Accounts source sinks ∨ ∃ r all', Progress source sinks (rs ++ [r]) t all' := by
  have hrun : Runs (source, sinks) (rounds rs ++ [.pulled (current t)]) (t, all.map (·.sink)) :=
    h.runs.append (.single (.pulled _ ha))
  have htally : Tallied (rounds rs ++ [.pulled (current t)]) 0 all :=
    h.tallied.append fun _ _ => rfl
  have hoff : Offered t (current t) [] all (rounds rs ++ [.pulled (current t)])
      (writeEach (current t) all) := offered_writeEach t (current t) htally
  have hround (ns : List Nat) : rounds rs ++ [.pulled (current t)] ++ writes 0 (current t) ns =
      rounds rs ++ round (current t, ns) := List.append_assoc _ _ _
  -- A round that all sinks take goes on the list of full ones; one that a sink refuses is the last.
  generalize hr : writeEach (current t) all = r at hoff
  cases hoff with
  | @taken ns all' hn hl hw ht =>
    rw [List.length_nil, hround] at ht
    refine .inr ⟨(current t, ns), all', hl.trans h.length, ?_, ?_, ?_, ?_⟩
    · exact h.full.append_singleton (hn.trans h.length)
    · rw [rounds_append, rounds_singleton, ← hround]
      exact hrun.append hw
    · rw [rounds_append, rounds_singleton]
      exact ht
    · exact fun h' => h.sweepsTo (.pass ha (by rw [offerEach, hr]) h')
  | @refused ns e all' hn hl hw ht =>
    have hsweep : SweepsTo offerEach (sinks.map ({ sink := · })) source (.error (e, all'), t) :=
      h.sweepsTo (.halt ha (by rw [offerEach, hr]))
    have hlog := hrun.append hw
    rw [List.length_nil, Nat.zero_add, ← List.append_assoc, hround, List.append_assoc,
      ← broken] at hlog
    rw [List.length_nil, hround] at ht
    have hcount : Tallied (rounds rs ++ broken (current t) ns e) 0 all' := by
      rw [broken, ← List.append_assoc]
      exact ht.append fun _ _ => rfl
    rw [h.length] at hn
    refine .inl ⟨_, _, t, _, copiesTo_of_refusal hs hsweep, hlog, ?_⟩
    rw [hcount.map_written, hl, h.length]
    refine .refused hn h.full rfl ?_ ?_ ?_
    · rw [pulls_append, pulls_rounds, pulls_broken]
    · intro place hp
      rw [offers_append, h.full.offers_eq (by omega), offers_broken, if_pos hp]
    · intro place hp hm
      rw [offers_append, h.full.offers_eq hm, offers_broken, if_neg (by omega), List.append_nil]

/-- Round after round, until the copy ends. -/
theorem accounts_or_progress (source : σ) (hs : sinks ≠ []) (n : Nat) :
    Accounts source sinks ∨ ∃ rs s all, rs.length = n ∧ Progress source sinks rs s all := by
  induction n with
  | zero => exact .inr ⟨[], source, _, rfl, progress_start source sinks⟩
  | succ n ih =>
    rcases ih with h | ⟨rs, s, all, hn, hp⟩
    · exact .inl h
    · match ha : advance s with
      | (false, t) => exact .inl (hp.of_stop hs ha)
      | (true, t) =>
        rcases hp.of_item hs ha with h | ⟨r, all', hp'⟩
        · exact .inl h
        · exact .inr ⟨rs ++ [r], t, all', by simp [hn], hp'⟩

theorem accounts_or_neverEnds (source : σ) (hs : sinks ≠ []) :
    Accounts source sinks ∨ NeverEnds source sinks := by
  by_cases h : Accounts source sinks
  · exact .inl h
  · refine .inr ⟨hs, fun n => ?_⟩
    obtain ⟨rs, s, all, hn, hp⟩ := (accounts_or_progress source hs n).resolve_left h
    exact ⟨rs, _, hn, hp.full, hp.runs⟩

/-- Writes that all destinations take are those of `writeEach`. -/
theorem writeEach_of_runs {a : α} {before : List τ} {ns : List Nat} {q : σ × List τ}
    (h : Runs (s, before ++ all.map (·.sink)) (writes before.length a ns) q)
    (hn : ns.length = all.length) :
    ∃ all', writeEach a all = (.ok (), all') ∧ all'.length = all.length ∧
      q = (s, before ++ all'.map (·.sink)) := by
  induction all generalizing before ns with
  | nil =>
    obtain rfl := List.length_eq_zero_iff.1 hn
    cases h
    exact ⟨[], rfl, rfl, rfl⟩
  | cons d rest ih =>
    obtain ⟨n, ns, rfl⟩ := List.exists_cons_of_length_eq_add_one hn
    cases h with
    | cons hstep hrest =>
      -- The place of the write tells the sinks before it from those after it.
      obtain ⟨before', after, d₁, d', hlen, heq, hw, rfl⟩ := hstep.of_wrote
      obtain ⟨rfl, hd⟩ := List.append_inj heq hlen.symm
      obtain ⟨rfl, rfl⟩ := List.cons.inj hd
      have hone : (before ++ [d']).length = before.length + 1 := by simp
      rw [List.append_cons, ← hone] at hrest
      obtain ⟨rest', hrest', hl, rfl⟩ := ih hrest (Nat.succ.inj hn)
      refine ⟨{ sink := d', written := d.written + n } :: rest', ?_, ?_, ?_⟩
      · rw [writeEach, hw]
        simp only [hrest', Prod.map, id]
      · rw [List.length_cons, hl, List.length_cons]
      · rw [List.map_cons, ← List.append_cons]

/-- One full round is one step of the sweep. -/
theorem offerEach_of_runs {r : α × List Nat} {q : σ × List τ}
    (h : Runs (s, all.map (·.sink)) (round r) q) (hn : r.2.length = all.length) :
    ∃ t all', advance s = (true, t) ∧ offerEach all t = .ok all' ∧ all'.length = all.length ∧
      q = (t, all'.map (·.sink)) := by
  cases h with
  | cons hstep hrest =>
    obtain ⟨t, ha, hitem, rfl⟩ := hstep.of_pulled
    have hwrites : Runs (t, [] ++ all.map (·.sink)) (writes ([] : List τ).length r.1 r.2) q := hrest
    obtain ⟨all', hw, hl, rfl⟩ := writeEach_of_runs hwrites hn
    exact ⟨t, all', ha, by rw [offerEach, ← hitem, hw], hl, rfl⟩

theorem exists_passed {q : σ × List τ} (h : Runs (s, all.map (·.sink)) (rounds rs) q)
    (hfull : Full all.length rs) : ∃ last t, Passed offerEach rs.length all s last t := by
  induction rs generalizing s all with
  | nil => exact ⟨all, s, .zero all s⟩
  | cons r rs ih =>
    obtain ⟨hr, hrest⟩ := List.forall_mem_cons.1 hfull
    obtain ⟨p, hround, hrounds⟩ := h.of_append
    obtain ⟨t, all', ha, hv, hl, rfl⟩ := offerEach_of_runs hround hr
    obtain ⟨last, t', hp⟩ := ih hrounds (hl ▸ hrest)
    exact ⟨last, t', .succ ha hv hp⟩

/-- A copy ends if and only if there is an end to its full rounds. -/
theorem copyEnds_iff (source : σ) (sinks : List τ) :
    CopyEnds source sinks ↔ ¬ NeverEnds source sinks := by
  constructor
  · rintro hends ⟨hs, h⟩
    have hsweep := hends.sweepEnds hs
    refine exists_sweepsTo_iff.1 ⟨_, sweepsTo_sweep (h := hsweep)⟩ fun n => ?_
    obtain ⟨rs, q, rfl, hfull, hrun⟩ := h n
    refine exists_passed (q := q) ?_ (by rwa [List.length_map])
    have hid : (Destination.sink ∘ fun sink : τ => { sink }) = id := rfl
    rwa [List.map_map, hid, List.map_id]
  · intro h
    refine ⟨fun hs => ?_⟩
    obtain ⟨-, -, -, -, ⟨hends, -⟩, -⟩ := (accounts_or_neverEnds source hs).resolve_right h
    exact hends.sweepEnds hs

end Copies

/-- Copying ends with one of the accounts, unless it never ends: sinks are offered the items in
turn, one item after the other, up to the first that refuses; they are flushed only when the source
has ended well. -/
theorem copyToEach_accounts (source : σ) (sinks : List τ) :
    NeverEnds source sinks ∨
      ∃ (_ : CopyEnds source sinks) (log : List (Event α)) (result : _) (s : σ) (ds : List τ),
        copyToEach source sinks = (result, s, ds) ∧ Runs (source, sinks) log (s, ds) ∧
          Account sinks.length log result := by
  by_cases hs : sinks = []
  · subst hs
    exact .inr ⟨⟨(absurd rfl ·)⟩, [], .ok [], source, [], rfl, .nil _, .idle rfl⟩
  · rcases accounts_or_neverEnds source hs with h | h
    · obtain ⟨log, result, s, ds, ⟨hends, hcopy⟩, hrun, haccount⟩ := h
      exact .inr ⟨hends, log, result, s, ds, hcopy, hrun, haccount⟩
    · exact .inl h

/-- The second of two sinks refuses the second item, and with no sink nothing is asked. -/
theorem copyToEach_accounts_limited :
    let source := ListSource.ofList ["x", "y", "z"]
    let sinks : List (Double.LimitedSink String) := [{}, { limit := some 1 }]
    (∃ log s ds, copyToEach source sinks =
        (.error ⟨[2, 1], .ofText "sink failed after 1 writes"⟩, s, ds) ∧
      ds.map (·.items) = [["x", "y"], ["x"]] ∧ Runs (source, sinks) log (s, ds) ∧
      Account 2 log (.error ⟨[2, 1], .ofText "sink failed after 1 writes"⟩)) ∧
    copyToEach source ([] : List (Double.LimitedSink String)) = (.ok [], source, []) := by
  intro source sinks
  have hfinite {ds : List (Double.LimitedSink String)} : ¬ NeverEnds source ds :=
    (copyEnds_iff source ds).1 inferInstance
  constructor
  · obtain ⟨_, log, result, s, ds, hcopy, hrun, ha⟩ :=
      (copyToEach_accounts source sinks).resolve_left hfinite
    have hresult : (copyToEach source sinks).1 =
        .error ⟨[2, 1], .ofText "sink failed after 1 writes"⟩ := by cbv
    have hitems : (copyToEach source sinks).2.2.map (·.items) = [["x", "y"], ["x"]] := by cbv
    rw [hcopy] at hresult hitems
    obtain rfl : result = _ := hresult
    exact ⟨log, s, ds, hcopy, hitems, hrun, ha⟩
  · obtain ⟨_, log, result, s, ds, hcopy, hrun, ha⟩ :=
      (copyToEach_accounts source ([] : List (Double.LimitedSink String))).resolve_left hfinite
    obtain ⟨rfl, rfl⟩ := ha.of_zero
    cases hrun
    exact hcopy

end PullStreams.Transfer
