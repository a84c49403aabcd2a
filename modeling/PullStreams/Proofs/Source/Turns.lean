import PullStreams.Double.Source
import PullStreams.Proofs.Source.Splice
import PullStreams.Proofs.Traced
import PullStreams.Source.Listed

namespace PullStreams.Concat
open Source

/-- What members have gone through, in their order: one after the other ends, up to one that is
being read or that has failed. Those after it have not been touched. -/
inductive InTurn {α : Type u} : List (List (Touch α)) → Prop
  | nil : InTurn []
  | reading (xs : List α) {rest : List (List (Touch α))} (h : ∀ log ∈ rest, log = []) :
    InTurn (xs.map .item :: rest)
  | failed (xs : List α) {e : Option StreamFault} {rest : List (List (Touch α))}
    (he : failure? e ≠ none) (h : ∀ log ∈ rest, log = []) :
    InTurn ((xs.map .item ++ [.stop e]) :: rest)
  | ended (xs : List α) {e : Option StreamFault} {rest : List (List (Touch α))}
    (he : failure? e = none) (h : InTurn rest) : InTurn ((xs.map .item ++ [.stop e]) :: rest)

/-- The first failure counts. -/
def firstFailure : List (Except StreamFault Unit) → Except StreamFault Unit
  | [] => .ok ()
  | .ok () :: rest => firstFailure rest
  | .error e :: _ => .error e

/-- The members, by their logs, of a source that has been called from `start` on. -/
structure TakeTurns {τ : Type u} {α : Type v} [Source τ α] (logs : τ → List (List (Touch α)))
    (start : τ) (calls : List Call) : Prop where
  inTurn : .close ∉ calls → InTurn (logs (run calls start).2)
  /-- The first close closes every member, and nothing more is done to them after it. -/
  closes (before after : List Call) : calls = before ++ .close :: after → .close ∉ before →
    ∃ (results : List (Except StreamFault Unit)) (later : List (Answer α)),
      results.length = (logs (run before start).2).length ∧
      (run calls start).1 = (run before start).1 ++ .close (firstFailure results) :: later ∧
      logs (run calls start).2 =
        List.zipWith (fun log r => log ++ [.close r]) (logs (run before start).2) results

section Turns
variable {σ : Type u} {α : Type v} [Source σ α]

def logs (c : Concat (Traced σ)) : List (List (Touch α)) := c.members.map Traced.log

/-- It has been read to a stop that is no failure. -/
def Ended (log : List (Touch α)) : Prop :=
  ∃ (xs : List α) (e : Option StreamFault), failure? e = none ∧ log = xs.map .item ++ [.stop e]

/-- The first may have been read, but has not stopped; the others have not been touched. -/
def Ready : List (Traced σ) → Prop
  | [] => True
  | s :: rest => (∃ xs : List α, s.log = xs.map .item) ∧ ∀ m ∈ rest, m.log = []

structure Turned (c : Concat (Traced σ)) : Prop where
  isOpen : c.isClosed = false
  inTurn : InTurn (logs c)
  passed : ∀ m ∈ c.passed, Ended m.log
  ready : c.stopped = none → Ready c.ahead

variable {passed ahead : List (Traced σ)} {c : Concat (Traced σ)}

theorem inTurn_append {ended rest : List (List (Touch α))} (h : ∀ log ∈ ended, Ended log)
    (hr : InTurn rest) : InTurn (ended ++ rest) := by
  induction ended with
  | nil => exact hr
  | cons log ended ih =>
    obtain ⟨⟨xs, e, he, rfl⟩, hended⟩ := List.forall_mem_cons.1 h
    exact .ended xs he (ih hended)

/-- Members that have been passed come before those that are ahead. -/
theorem inTurn_members (hp : ∀ m ∈ passed, Ended m.log) (h : InTurn (ahead.map Traced.log))
    (stopped : Option StreamFault) : InTurn (logs { passed, ahead, stopped }) := by
  rw [logs, members, List.map_append]
  exact inTurn_append (List.forall_mem_map.2 hp) h

theorem ready_of_untouched (h : ∀ m ∈ ahead, m.log = []) : Ready ahead := by
  cases ahead with
  | nil => trivial
  | cons s rest =>
    obtain ⟨hs, hrest⟩ := List.forall_mem_cons.1 h
    exact ⟨⟨[], hs⟩, hrest⟩

theorem turned_seek (hp : ∀ m ∈ passed, Ended m.log) (hr : Ready ahead) :
    Turned (seek passed ahead).2 := by
  induction ahead generalizing passed with
  | nil =>
    have hnone : InTurn (([] : List (Traced σ)).map Traced.log) := .nil
    exact ⟨rfl, inTurn_members hp hnone none, hp, fun _ => trivial⟩
  | cons s rest ih =>
    obtain ⟨⟨xs, hs⟩, hrest⟩ := hr
    have huntouched : ∀ log ∈ rest.map Traced.log, log = [] := List.forall_mem_map.2 hrest
    match h : Source.advance s with
    | (true, t) =>
      have ht : t.log = (xs ++ [Source.current t]).map .item := by
        rw [Traced.log_of_item h, hs]
        simp
      rw [seek, h]
      refine ⟨rfl, inTurn_members hp ?_ none, hp, fun _ => ⟨⟨_, ht⟩, hrest⟩⟩
      rw [List.map_cons, ht]
      exact .reading _ huntouched
    | (false, t) =>
      have ht : t.log = xs.map .item ++ [.stop (Source.error t)] := by
        rw [Traced.log_of_stop h, hs]
      cases hf : failure? (Source.error t) with
      | some e =>
        simp only [seek, h, hf]
        refine ⟨rfl, inTurn_members hp ?_ (some e), hp, fun hn => by simp at hn⟩
        rw [List.map_cons, ht]
        exact .failed xs (by simp [hf]) huntouched
      | none =>
        simp only [seek, h, hf]
        have hended : ∀ m ∈ passed ++ [t], Ended m.log :=
          List.forall_mem_append.2 ⟨hp, List.forall_mem_singleton.2 ⟨xs, _, hf, ht⟩⟩
        exact ih hended (ready_of_untouched hrest)

theorem turned_ofList (ms : List σ) : Turned (ofList (ms.map ({ inner := · } : σ → Traced σ))) := by
  have huntouched : ∀ m ∈ ms.map ({ inner := · } : σ → Traced σ), m.log = [] := by
    intro m hm
    obtain ⟨s, -, rfl⟩ := List.mem_map.1 hm
    rfl
  refine ⟨rfl, ?_, fun _ h => absurd h List.not_mem_nil, fun _ => ready_of_untouched huntouched⟩
  cases ms with
  | nil => exact .nil
  | cons s ms =>
    exact .reading [] (List.forall_mem_map.2 fun m hm => huntouched m (List.mem_cons_of_mem _ hm))

theorem closeAll_traced (ms : List (Traced σ)) :
    ∃ results, results.length = ms.length ∧ (closeAll ms).1 = firstFailure results ∧
      (closeAll ms).2.map Traced.log =
        List.zipWith (fun log r => log ++ [.close r]) (ms.map Traced.log) results := by
  induction ms with
  | nil => exact ⟨[], rfl, rfl, rfl⟩
  | cons s rest ih =>
    obtain ⟨results, hlen, he, hl⟩ := ih
    refine ⟨(Source.close s).1 :: results, by simp [hlen], ?_, ?_⟩
    · show ((Source.close s).1.bind fun _ => (closeAll rest).1) = _
      rw [he]
      cases (Source.close s).1 <;> rfl
    · rw [List.map_cons, List.zipWith_cons_cons, ← hl, ← Traced.log_close]
      rfl

variable [Inhabited α]

theorem Turned.perform (h : Turned c) {call : Call} (hn : call ≠ .close) :
    Turned (Source.perform c call).2 := by
  cases call with
  | current => exact h
  | error => exact h
  | close => exact absurd rfl hn
  | advance =>
    show Turned c.advance.2
    unfold advance
    split
    · exact h
    · rename_i hd
      simp only [Bool.or_eq_true, not_or, Bool.not_eq_true, Option.isSome_eq_false_iff,
        Option.isNone_iff_eq_none] at hd
      exact turned_seek h.passed (h.ready hd.2)

theorem Turned.run (h : Turned c) {calls : List Call} (hn : .close ∉ calls) :
    Turned (run calls c).2 := by
  induction calls generalizing c with
  | nil => exact h
  | cons call calls ih =>
    rw [List.mem_cons, not_or] at hn
    exact ih (h.perform (Ne.symm hn.1)) hn.2

/-- A source that has been closed stays as it is. -/
theorem run_of_closed (h : c.isClosed = true) (calls : List Call) : (run calls c).2 = c := by
  have hperform (call : Call) : (perform c call).2 = c := by
    cases call with
    | current => rfl
    | error => rfl
    | advance => exact congrArg Prod.snd (if_pos (by simp [h]) : c.advance = _)
    | close => exact congrArg Prod.snd (if_pos h : c.close = _)
  induction calls with
  | nil => rfl
  | cons call calls ih => rw [run_cons, hperform, ih]

theorem takeTurns (ms : List σ) (calls : List Call) :
    TakeTurns logs (ofList (ms.map ({ inner := · } : σ → Traced σ))) calls where
  inTurn hn := ((turned_ofList ms).run hn).inTurn
  closes before after hc hn := by
    have h := (turned_ofList ms).run hn
    generalize hstart : ofList (ms.map ({ inner := · } : σ → Traced σ)) = start at h ⊢
    obtain ⟨h1, h2, h3, -⟩ := close_of_open h.isOpen
    obtain ⟨results, hlen, he, hl⟩ := closeAll_traced (run before start).2.members
    have hafter := run_of_closed h3 after
    refine ⟨results, (run after (run before start).2.close.2).1, ?_, ?_, ?_⟩
    · rw [hlen, logs, List.length_map]
    · rw [hc, run_append, run_cons, ← he, ← h1]
      rfl
    · rw [hc, run_append, run_cons]
      show logs (run after (run before start).2.close.2).2 = _
      rw [hafter, logs, h2, hl]
      rfl

end Turns

theorem TakeTurns.of_alike {τ : Type u} {υ : Type v} {α : Type w} [Source τ α] [Source υ α]
    {logs : τ → List (List (Touch α))} {logs' : υ → List (List (Touch α))} {s : τ} {t : υ}
    (ha : ∀ calls, (run calls s).1 = (run calls t).1)
    (hl : ∀ calls, logs (run calls s).2 = logs' (run calls t).2) {calls : List Call}
    (h : TakeTurns logs' t calls) : TakeTurns logs s calls where
  inTurn hn := by
    rw [hl]
    exact h.inTurn hn
  closes before after hc hn := by
    rw [ha, ha, hl, hl]
    exact h.closes before after hc hn

section Nested
variable {σ : Type u} {τ : Type v} {υ : Type w} {α : Type x} [Source σ α] [Source τ α] [Source υ α]
  [Inhabited α]

def leaves {σ : Type u} (c : Concat (Concat σ)) : List σ := c.members.flatMap members

def leftLeaves {σ : Type u} {τ : Type v} {υ : Type w} (c : Concat (Concat (σ ⊕ τ) ⊕ υ)) :
    List (σ ⊕ τ ⊕ υ) :=
  c.members.flatMap
    (Sum.elim
      (fun d => d.members.flatMap (Sum.elim (fun s => [.inl s]) fun t => [.inr (.inl t)]))
      fun u => [.inr (.inr u)])

def rightLeaves {σ : Type u} {τ : Type v} {υ : Type w} (c : Concat (σ ⊕ Concat (τ ⊕ υ))) :
    List (σ ⊕ τ ⊕ υ) :=
  c.members.flatMap
    (Sum.elim (fun s => [.inl s])
      fun d => d.members.flatMap (Sum.elim (fun t => [.inr (.inl t)]) fun u => [.inr (.inr u)]))

theorem members_single_concat :
    (Splice.single (passes_id : Passes (id : σ → σ))).concat.members = members := by
  funext c
  exact List.flatMap_singleton' c.members

/-- Members one after the other answer as they do when they are put together in blocks. -/
theorem blocks_alike {blocks : List (List σ)} (hne : ∀ block ∈ blocks, block ≠ [])
    (calls : List Call) :
    (run calls (ofList (blocks.map ofList))).1 = (run calls (ofList blocks.flatten)).1 ∧
      leaves (run calls (ofList (blocks.map ofList))).2 =
        (run calls (ofList blocks.flatten)).2.members := by
  let S : Splice σ σ := .single passes_id
  have hfresh : ∀ c ∈ blocks.map ofList, S.concat.Fresh c :=
    List.forall_mem_map.2 fun block hb =>
      Splice.fresh_concat (hne block hb) fun m _ => Splice.fresh_single passes_id m
  have hflat : (blocks.map ofList).flatMap S.concat.members = blocks.flatten := by
    rw [members_single_concat, List.flatMap_map]
    simp [members, ofList]
  have h := S.concat.bisimulation.run (Splice.matches_ofList hfresh) calls
  rw [hflat] at h
  refine ⟨h.1, ?_⟩
  rw [← h.2.members, members_single_concat]
  rfl

/-- Either way of chaining three sources comes to all three, one after the other. -/
theorem chain_assoc (a : σ) (b : τ) (c : υ) (calls : List Call) :
    (run calls (chain (chain a b) c)).1 = (run calls (chain a (chain b c))).1 ∧
      leftLeaves (run calls (chain (chain a b) c)).2 =
        rightLeaves (run calls (chain a (chain b c))).2 := by
  have h1 : Passes (.inl : σ → σ ⊕ τ ⊕ υ) := passes_inl
  have h2 : Passes (fun t => .inr (.inl t) : τ → σ ⊕ τ ⊕ υ) := passes_inr.comp passes_inl
  have h3 : Passes (fun u => .inr (.inr u) : υ → σ ⊕ τ ⊕ υ) := passes_inr.comp passes_inr
  let left : Splice (Concat (σ ⊕ τ) ⊕ υ) (σ ⊕ τ ⊕ υ) :=
    ((Splice.single h1).sum (.single h2)).concat.sum (.single h3)
  let right : Splice (σ ⊕ Concat (τ ⊕ υ)) (σ ⊕ τ ⊕ υ) :=
    (Splice.single h1).sum ((Splice.single h2).sum (.single h3)).concat
  have hfl : ∀ m ∈ [Sum.inl (chain a b), Sum.inr c], left.Fresh m :=
    Splice.fresh_pair
      (Splice.fresh_concat (List.cons_ne_nil _ _)
        (Splice.fresh_pair (Splice.fresh_single h1 a) (Splice.fresh_single h2 b)))
      (Splice.fresh_single h3 c)
  have hfr : ∀ m ∈ [Sum.inl a, Sum.inr (chain b c)], right.Fresh m :=
    Splice.fresh_pair (Splice.fresh_single h1 a)
      (Splice.fresh_concat (List.cons_ne_nil _ _)
        (Splice.fresh_pair (Splice.fresh_single h2 b) (Splice.fresh_single h3 c)))
  have hl : left.Matches (chain (chain a b) c) (ofList [.inl a, .inr (.inl b), .inr (.inr c)]) :=
    Splice.matches_ofList hfl
  have hr : right.Matches (chain a (chain b c)) (ofList [.inl a, .inr (.inl b), .inr (.inr c)]) :=
    Splice.matches_ofList hfr
  obtain ⟨hla, hlm⟩ := left.bisimulation.run hl calls
  obtain ⟨hra, hrm⟩ := right.bisimulation.run hr calls
  exact ⟨hla.trans hra.symm, hlm.members.trans hrm.members.symm⟩

/-- It makes no difference how sources one after the other are put together: in blocks, none of them
empty, they are called as they are without, and take turns. So chaining is associative. -/
theorem concat_assoc :
    (∀ blocks : List (List σ), (∀ block ∈ blocks, block ≠ []) → ∀ calls : List Call,
      let traced (block : List σ) : Concat (Traced σ) := ofList (block.map ({ inner := · }))
      let nested := ofList (blocks.map traced)
      let whole := traced blocks.flatten
      (run calls nested).1 = (run calls whole).1 ∧
        leaves (run calls nested).2 = (run calls whole).2.members ∧
        TakeTurns (fun c => (leaves c).map Traced.log) nested calls ∧
        TakeTurns logs whole calls) ∧
    ∀ (a : σ) (b : τ) (c : υ) (calls : List Call),
      (run calls (chain (chain a b) c)).1 = (run calls (chain a (chain b c))).1 ∧
        leftLeaves (run calls (chain (chain a b) c)).2 =
          rightLeaves (run calls (chain a (chain b c))).2 := by
  refine ⟨fun blocks hne calls => ?_, chain_assoc⟩
  intro traced nested whole
  let start : List σ → List (Traced σ) := List.map ({ inner := · })
  have hstart : ∀ block ∈ blocks.map start, block ≠ [] :=
    List.forall_mem_map.2 fun block hb => mt List.map_eq_nil_iff.1 (hne block hb)
  have halike (calls : List Call) := blocks_alike hstart calls
  rw [List.map_map, ← List.map_flatten] at halike
  have hturns (calls : List Call) : TakeTurns logs whole calls := takeTurns blocks.flatten calls
  refine ⟨(halike calls).1, (halike calls).2, ?_, hturns calls⟩
  exact (hturns calls).of_alike (fun calls => (halike calls).1)
    fun calls => congrArg (List.map Traced.log) (halike calls).2

/-- The second of three members fails, and so do two of the closes: the first of them is told. -/
theorem concat_assoc_failing :
    let play (n : Nat) (ending closing : Option StreamFault) : Double.ScriptedSource Nat :=
      { script := [{ item := some n }, { error := ending }], closings := [closing] }
    let bad := StreamFault.ofText "bad"
    let held := StreamFault.ofText "held"
    let lost := StreamFault.ofText "lost"
    let blocks := [[play 1 none none, play 2 (some bad) (some held)], [play 3 none (some lost)]]
    let calls : List Call := [.advance, .advance, .current, .advance, .error, .close, .close]
    let nested : Concat (Concat (Traced (Double.ScriptedSource Nat))) :=
      ofList (blocks.map fun block => ofList (block.map ({ inner := · })))
    (∀ block ∈ blocks, block ≠ []) ∧
      (run calls nested).1 = [.advance true, .advance true, .current 2, .advance false,
        .error (some bad), .close (.error held), .close (.ok ())] ∧
      (leaves (run calls nested).2).map Traced.log =
        [[.item 1, .stop none, .close (.ok ())], [.item 2, .stop (some bad), .close (.error held)],
          [.close (.error lost)]] ∧
      TakeTurns (fun c => (leaves c).map Traced.log) nested calls := by
  intro play bad held lost blocks calls nested
  have hne : ∀ block ∈ blocks, block ≠ [] := by simp [blocks]
  obtain ⟨-, -, h, -⟩ := (concat_assoc (τ := Double.ScriptedSource Nat)
    (υ := Double.ScriptedSource Nat)).1 blocks hne calls
  exact ⟨hne, rfl, rfl, h⟩

end Nested
end PullStreams.Concat
