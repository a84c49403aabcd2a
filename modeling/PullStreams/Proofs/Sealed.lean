import PullStreams.Proofs.Answers
import PullStreams.Proofs.Custody
import PullStreams.Proofs.Slot

namespace PullStreams
open Source

/-- The failure that a window has met and not told, where the source within holds `inner`. -/
def Ending.untold (inner : Option StreamFault) : Ending → Option StreamFault
  | .running => inner
  | .held e => some e
  | .ended _ => none

theorem Ending.ne_ended_of_ofError {e : Option StreamFault} {e' : StreamFault}
    (h : ofError e = .held e') : e' ≠ .ended := by
  rintro rfl
  unfold ofError failure? at h
  cases e with
  | none => simp at h
  | some e => cases e <;> simp at h

theorem Ending.settle_ne_held (ending : Ending) (e : StreamFault) : ending.settle ≠ .held e := by
  cases ending <;> simp [settle]

/-- A source by the states that it is in: those in which it has been closed are marked. -/
structure Seals {σ : Type u} {α : Type v} [Source σ α] (held : σ → Option StreamFault)
    (At : Bool → σ → Prop) : Prop where
  failure {isShut : Bool} {s : σ} {e : StreamFault} :
    At isShut s → held s = some e → error s = none ∧ e ≠ .ended
  item {s t : σ} : At false s → advance s = (true, t) → At false t ∧ error t = none
  stop {s t : σ} : At false s → advance s = (false, t) → At false t
  close {isShut : Bool} {s : σ} : At isShut s →
    At true (close s).2 ∧ error (close s).2 = error s ∧ held (close s).2 = held s
  rest {s : σ} : At true s →
    ∃ t, advance s = (false, t) ∧ At true t ∧ error t = (held s).or (error s) ∧ held t = none

structure Sealed {σ : Type u} {α : Type v} [Source σ α] (held : σ → Option StreamFault) (s : σ)
    (later : List Call) : Prop where
  /-- What is held back has not been told, and is a failure. -/
  failure : ∀ e, held s = some e → error s = none ∧ e ≠ .ended
  close : error (close s).2 = error s
  later : error (run later (Source.close s).2).2 =
    if .advance ∈ later then (held s).or (error s) else error s

namespace Seals
variable {σ : Type u} {α : Type v} [Source σ α] {held : σ → Option StreamFault}
  {At : Bool → σ → Prop} {s t : σ} {xs : List α}

theorem at_run (h : Seals held At) {isShut : Bool} (hs : At isShut s) (calls : List Call) :
    ∃ isShut, At isShut (run calls s).2 := by
  refine run_induction (fun s => ∃ isShut, At isShut s) ?_ (fun ⟨_, hs⟩ => ⟨true, (h.close hs).1⟩)
    ⟨isShut, hs⟩ calls
  rintro s ⟨_ | _, hs⟩
  · match ha : advance s with
    | (true, t) => exact ⟨false, (h.item hs ha).1⟩
    | (false, t) => exact ⟨false, h.stop hs ha⟩
  · obtain ⟨t, ha, ht, -⟩ := h.rest hs
    rw [ha]
    exact ⟨true, ht⟩

/-- Only the first advance after a close can change the slot. -/
theorem error_run (h : Seals held At) (hs : At true s) (later : List Call) :
    error (run later s).2 = if .advance ∈ later then (held s).or (error s) else error s := by
  induction later generalizing s with
  | nil => rfl
  | cons c later ih =>
    rw [run_cons]
    cases c with
    | current => simpa [perform] using ih hs
    | error => simpa [perform] using ih hs
    | close =>
      obtain ⟨hc, he, hh⟩ := h.close hs
      have hl := ih hc
      rw [he, hh] at hl
      simpa [perform] using hl
    | advance =>
      obtain ⟨t, ha, ht, he, hh⟩ := h.rest hs
      have hl := ih ht
      rw [hh, Option.none_or, ite_self, he] at hl
      simpa [perform, ha] using hl

theorem sealed (h : Seals held At) (hs : At false s) (before later : List Call) :
    Sealed held (run before s).2 later := by
  obtain ⟨isShut, hb⟩ := h.at_run hs before
  obtain ⟨hc, he, hh⟩ := h.close hb
  refine ⟨fun e => h.failure hb, he, ?_⟩
  rw [h.error_run hc, he, hh]

theorem of_reads (h : Seals held At) (hs : At false s) (hr : Reads s xs t) :
    At false t ∧ (error s = none ∨ xs ≠ [] → error t = none) := by
  induction hr with
  | nil => exact ⟨hs, fun he => he.resolve_right (by simp)⟩
  | cons ha _ ih =>
    obtain ⟨ht, he⟩ := h.item hs ha
    obtain ⟨hu, hx⟩ := ih ht
    exact ⟨hu, fun _ => hx (.inl he)⟩

theorem of_drains (h : Seals held At) (hs : At false s) (hd : Drains s xs t) : At false t := by
  induction hd with
  | stop ha => exact h.stop hs ha
  | item ha _ ih => exact ih (h.item hs ha).1

/-- There is nothing to read in a source that has been closed. -/
theorem eq_nil_of_reads (h : Seals held At) (hs : At true s) (hr : Reads s xs t) : xs = [] := by
  cases hr with
  | nil => rfl
  | cons ha =>
    obtain ⟨u, hu, -⟩ := h.rest hs
    simp [hu] at ha

theorem rest_of_drains (h : Seals held At) (hs : At true s) (hd : Drains s xs t) :
    xs = [] ∧ At true t ∧ error t = (held s).or (error s) ∧ held t = none := by
  obtain ⟨u, hu, hrest⟩ := h.rest hs
  obtain ⟨rfl, rfl⟩ := hd.unique (.stop hu)
  exact ⟨rfl, hrest⟩

theorem failure?_held (h : Seals held At) {isShut : Bool} (hs : At isShut s) :
    failure? (held s) = held s := by
  cases hh : held s with
  | none => rfl
  | some e =>
    have hne := (h.failure hs hh).2
    cases e <;> first | rfl | exact absurd rfl hne

theorem of_passes {τ : Type w} [Source τ α] {f : τ → σ} (hf : Passes f) (h : Seals held At) :
    Seals (fun t => held (f t)) (fun isShut t => At isShut (f t)) where
  failure {_ t _} ht hh := by
    rw [← hf.error]
    exact h.failure ht hh
  item {t u} ht ha := by
    rw [← hf.error]
    exact h.item ht ((hf.advance t).trans (by rw [ha]; rfl))
  stop {t u} ht ha := h.stop ht ((hf.advance t).trans (by rw [ha]; rfl))
  close {_ t} ht := by
    have hc : f (Source.close t).2 = (Source.close (f t)).2 :=
      (congrArg Prod.snd (hf.close t)).symm
    rw [hc, ← hf.error, ← hf.error t, hc]
    exact h.close ht
  rest {t} ht := by
    obtain ⟨u, hu, hrest⟩ := h.rest ht
    rw [hf.advance] at hu
    obtain ⟨hstop, rfl⟩ := Prod.mk.inj hu
    rw [hf.error, hf.error] at hrest
    exact ⟨(Source.advance t).2, Prod.ext hstop rfl, hrest⟩

end Seals

/-- A source over nothing else holds no failure back, if it does nothing once it is closed. -/
theorem Source.Slotted.seals {σ : Type u} {α : Type v} [Source σ α] [Inhabited α]
    {slot : σ → Option α} {isDone : σ → Bool} (hs : Slotted slot isDone) (closed : σ → Prop)
    (hdone : ∀ s, closed s → isDone s = true)
    (hclose : ∀ s, closed (Source.close s).2 ∧ Source.error (Source.close s).2 = Source.error s)
    (hrest : ∀ s, closed s →
      closed (Source.advance s).2 ∧ Source.error (Source.advance s).2 = Source.error s) :
    Seals (fun _ : σ => none)
      (fun isShut s =>
        (isDone s = false → Source.error s = none) ∧ (isShut = true → closed s)) where
  failure _ hh := by cases hh
  item {s t} h ha := by
    have hstep := hs.step s
    rw [ha] at hstep
    cases hstep with
    | item hn ht he =>
      rw [he]
      exact ⟨⟨fun _ => h.1 hn, fun hf => by cases hf⟩, h.1 hn⟩
  stop {s t} h ha := by
    have hstep := hs.step s
    rw [ha] at hstep
    cases hstep with
    | stop hn ht => exact ⟨fun hf => by simp [ht] at hf, fun hf => by cases hf⟩
  close {_ s} h := by
    obtain ⟨hc, he⟩ := hclose s
    exact ⟨⟨fun hf => by simp [hdone _ hc] at hf, fun _ => hc⟩, he, rfl⟩
  rest {s} h := by
    have hc := h.2 rfl
    obtain ⟨hc', he⟩ := hrest s hc
    have hstop : (Source.advance s).1 = false := by
      have hstep := hs.step s
      generalize Source.advance s = r at hstep ⊢
      cases hstep with
      | item hn => simp [hdone s hc] at hn
      | stop => rfl
    exact ⟨_, Prod.ext hstop rfl, ⟨fun hf => by simp [hdone _ hc'] at hf, fun _ => hc'⟩, he, rfl⟩

/-- An operator that stops with a fault of its own leaves the source within alone from then on, and
what that holds is not told. -/
theorem Source.Relays.seals {τ : Type u} {σ : Type v} {α : Type w} {β : Type x} [Source τ β]
    [Source σ α] [Inhabited α] [Inhabited β] {inner : τ → σ} {stopped : τ → Option StreamFault}
    {IsIdle : τ → Prop} (hr : Relays inner stopped IsIdle) {held : σ → Option StreamFault}
    {At : Bool → σ → Prop} (h : Seals held At)
    (hclose : ∀ s, stopped (Source.close s).2 = stopped s)
    (hstop : ∀ s, stopped s = none → (Source.advance (inner s)).1 = false →
      stopped (Source.advance s).2 = none) :
    Seals (fun s => (stopped s).elim (held (inner s)) fun _ => none)
      (fun isShut s => At isShut (inner s)) where
  failure {_ s e} hs hh := by
    cases hn : stopped s with
    | some e' => simp [hn] at hh
    | none =>
      rw [hr.error, hn]
      exact h.failure hs (by simpa [hn] using hh)
  item {s t} hs ha := by
    have hstep := hr.step s
    rw [ha] at hstep
    cases hstep with
    | item hn hx hne ht =>
      obtain ⟨hin, he⟩ := h.of_reads hs hx
      rw [hr.error, ht]
      exact ⟨hin, he (.inr hne)⟩
  stop {s t} hs ha := by
    have hstep := hr.step s
    rw [ha] at hstep
    cases hstep with
    | fail hn hx => exact (h.of_reads hs hx).1
    | stop hn hd => exact h.of_drains hs hd
    | rest hn ht hin =>
      rw [hin]
      exact hs
  close {_ s} hs := by
    obtain ⟨hc, he, hh⟩ := h.close hs
    rw [(hr.close s).1, hr.error, hr.error, hclose, (hr.close s).1, he, hh]
    exact ⟨hc, rfl, rfl⟩
  rest {s} hs := by
    obtain ⟨u, hu, -⟩ := h.rest hs
    have hstep := hr.step s
    have hquiet := hstop s
    generalize Source.advance s = r at hstep hquiet
    cases hstep with
    | item hn hx hne => exact absurd (h.eq_nil_of_reads hs hx) hne
    | fail hn hx hne => exact absurd (h.eq_nil_of_reads hs hx) hne
    | @stop t xs hn hd =>
      obtain ⟨-, ht, he, hh⟩ := h.rest_of_drains hs hd
      have hn' : stopped t = none := hquiet hn (by rw [hu])
      refine ⟨t, rfl, ht, ?_, ?_⟩
      · rw [hr.error, hr.error, hn, hn']
        exact he
      · simp [hn', hh]
    | @rest t hn ht hin =>
      obtain ⟨e, he⟩ := Option.ne_none_iff_exists'.1 hn
      rw [← hin] at hs
      refine ⟨t, rfl, hs, ?_, ?_⟩
      · rw [hr.error, hr.error, ht, he]
        rfl
      · simp [ht, he]

namespace Window
variable {ω : Type u} {σ : Type v} {α : Type w} [Source ω (List α)] [Source σ α]

/-- A window goes on only while the source within has no error, and holds only failures back. -/
structure Sealing (W : Window ω σ) (At : Bool → σ → Prop) (isShut : Bool) (w : ω) : Prop where
  within : At isShut (W.inner w)
  quiet : W.ending w = .running → Source.error (W.inner w) = none
  waiting : (W.ending w).isRunning = false → W.waiting w = []
  shut : isShut = true → W.waiting w = []
  failure : ∀ e, W.ending w = .held e → e ≠ .ended

variable {W : Window ω σ} {held : σ → Option StreamFault} {At : Bool → σ → Prop} {w w' : ω}

theorem Sealing.start (hin : At false (W.inner w)) (he : Source.error (W.inner w) = none)
    (hr : W.ending w = .running) : W.Sealing At false w where
  within := hin
  quiet _ := he
  waiting hn := by simp [hr] at hn
  shut hf := by cases hf
  failure e hh := by simp [hr] at hh

theorem Sealing.item (hW : W.Lawful) (h : Seals held At) (hw : W.Sealing At false w)
    (ha : Source.advance w = (true, w')) : W.Sealing At false w' ∧ Source.error w' = none := by
  rw [hW.error]
  rcases W.running_or w with he | he
  · have hstep := hW.step he
    rw [ha] at hstep
    cases hstep with
    | item hx he' =>
      obtain ⟨hin, hread⟩ := h.of_reads hw.within hx
      rw [he']
      exact ⟨⟨hin, fun _ => hread (.inl (hw.quiet he)), by simp [he'], by simp, by simp [he']⟩, rfl⟩
    | last hd he' hwait =>
      have hrun : (W.ending w').isRunning = false := by simp [he']
      refine ⟨⟨h.of_drains hw.within hd, fun hr => by simp [hr] at hrun, fun _ => hwait, by simp,
        fun e hh => ?_⟩, by simp [he']⟩
      exact Ending.ne_ended_of_ofError (he'.symm.trans hh)
  · obtain ⟨u, hu, -⟩ := hW.rest he (hw.waiting he)
    simp [ha] at hu

theorem Sealing.of_rest {isShut : Bool} (hw : W.Sealing At isShut w)
    (he : (W.ending w).isRunning = false) (hin : W.inner w' = W.inner w) (hwait : W.waiting w' = [])
    (he' : W.ending w' = (W.ending w).settle) : W.Sealing At isShut w' where
  within := hin ▸ hw.within
  quiet hr := by
    rw [← Ending.isRunning_settle, ← he', hr] at he
    cases he
  waiting _ := hwait
  shut _ := hwait
  failure e hh := absurd (he'.symm.trans hh) (Ending.settle_ne_held _ e)

theorem Sealing.of_ended {isShut : Bool} {reported : Option StreamFault}
    (hin : At isShut (W.inner w)) (hwait : W.waiting w = []) (he : W.ending w = .ended reported) :
    W.Sealing At isShut w where
  within := hin
  quiet hr := by simp [he] at hr
  waiting _ := hwait
  shut _ := hwait
  failure e hh := by simp [he] at hh

theorem Sealing.stop (hW : W.Lawful) (h : Seals held At) (hw : W.Sealing At false w)
    (ha : Source.advance w = (false, w')) : W.Sealing At false w' := by
  rcases W.running_or w with he | he
  · have hstep := hW.step he
    rw [ha] at hstep
    cases hstep with
    | stop hs he' _ hwait => exact .of_ended (h.stop hw.within hs) hwait he'
  · obtain ⟨u, hu, hin, hwait, he', -⟩ := hW.rest he (hw.waiting he)
    obtain rfl := (Prod.mk.inj (ha.symm.trans hu)).2
    exact hw.of_rest he hin hwait he'

/-- A window that is closed before it has met the end meets it in its next advance. -/
theorem Sealing.rest (hW : W.Lawful) (h : Seals held At) (hw : W.Sealing At true w) :
    ∃ w', Source.advance w = (false, w') ∧ W.Sealing At true w' ∧
      Source.error w' = ((W.ending w).untold (held (W.inner w))).or (Source.error w) ∧
      (W.ending w').untold (held (W.inner w')) = none := by
  rcases W.running_or w with he | he
  · have hstep := hW.step he
    generalize Source.advance w = r at hstep
    -- Nothing waits and nothing can be read, so there is nothing to deliver.
    cases hstep with
    | item hx he' hc hne =>
      rw [h.eq_nil_of_reads hw.within hx, hw.shut rfl] at hc
      exact absurd (List.append_eq_nil_iff.1 hc).1 hne
    | last hd he' hwait hc hne =>
      rw [(h.rest_of_drains hw.within hd).1, hw.shut rfl] at hc
      exact absurd hc hne
    | @stop w' hs he' _ hwait =>
      obtain ⟨-, hin, herror, -⟩ := h.rest_of_drains hw.within (.stop hs)
      refine ⟨w', rfl, .of_ended hin hwait he', ?_, by rw [he']; rfl⟩
      rw [hW.error, hW.error, he', he, Ending.error_ended, herror, hw.quiet he, Option.or_none,
        h.failure?_held hw.within]
      exact (Option.or_none).symm
  · obtain ⟨w', ha, hin, hwait, he', -⟩ := hW.rest he (hw.shut rfl)
    refine ⟨w', ha, hw.of_rest he hin hwait he', ?_, ?_⟩
    · rw [hW.error, hW.error, he']
      cases hending : W.ending w with
      | running => simp [hending] at he
      | held e => rfl
      | ended reported => rfl
    · rw [he']
      cases hending : W.ending w with
      | running => simp [hending] at he
      | held e => rfl
      | ended reported => rfl

theorem seals (hW : W.Lawful) (h : Seals held At)
    (hending : ∀ w, W.ending (Source.close w).2 = W.ending w) :
    Seals (fun w => (W.ending w).untold (held (W.inner w))) (W.Sealing At) where
  failure {_ w e} hw hh := by
    rw [hW.error]
    cases he : W.ending w with
    | running => exact ⟨rfl, (h.failure hw.within (by simpa [he, Ending.untold] using hh)).2⟩
    | held e' =>
      obtain rfl : e' = e := by simpa [he, Ending.untold] using hh
      exact ⟨rfl, hw.failure e' he⟩
    | ended reported => simp [he, Ending.untold] at hh
  item hw ha := hw.item hW h ha
  stop hw ha := hw.stop hW h ha
  close {_ w} hw := by
    obtain ⟨hin, hwait, -⟩ := hW.close w
    obtain ⟨hc, he, hh⟩ := h.close hw.within
    rw [← hin] at hc he hh
    refine ⟨⟨hc, fun hr => ?_, fun _ => hwait, fun _ => hwait, fun e hheld => ?_⟩, ?_, ?_⟩
    · rw [hending] at hr
      rw [he]
      exact hw.quiet hr
    · rw [hending] at hheld
      exact hw.failure e hheld
    · rw [hW.error, hW.error, hending]
    · rw [hending, hh]
  rest hw := hw.rest hW h

end Window

namespace Flatten
variable {σ : Type u} {α : Type v} [Source σ (List α)]

structure Sealing (At : Bool → σ → Prop) (isShut : Bool) (s : Flatten σ α) : Prop where
  within : At isShut s.inner
  pending : s.pending ≠ [] → isShut = false ∧ Source.error s.inner = none

variable [NonemptyAtLast σ] [Inhabited α]

theorem seals {held : σ → Option StreamFault} {At : Bool → σ → Prop} (h : Seals held At) :
    Seals (fun s : Flatten σ α => held s.inner) (Sealing At) where
  failure hs hh := h.failure hs.within hh
  item {s t} hs ha := by
    change s.advance = (true, t) at ha
    unfold advance at ha
    split at ha
    · rename_i a rest hp
      obtain rfl := (Prod.mk.inj ha).2
      have hq := (hs.pending (by simp [hp])).2
      exact ⟨⟨hs.within, fun _ => ⟨rfl, hq⟩⟩, hq⟩
    · split at ha
      · rename_i hu
        obtain rfl := (Prod.mk.inj ha).2
        obtain ⟨xs, hr⟩ := reads_of_pull hu
        obtain ⟨hin, hread⟩ := h.of_reads hs.within hr
        have hq := hread (.inr (by simp))
        exact ⟨⟨hin, fun _ => ⟨rfl, hq⟩⟩, hq⟩
      · simp at ha
  stop {s t} hs ha := by
    change s.advance = (false, t) at ha
    unfold advance at ha
    split at ha
    · simp at ha
    · split at ha
      · simp at ha
      · rename_i hu
        obtain rfl := (Prod.mk.inj ha).2
        obtain ⟨xs, hd⟩ := drains_of_pull hu
        exact ⟨h.of_drains hs.within hd, fun hne => absurd rfl hne⟩
  close {_ s} hs := by
    obtain ⟨hc, he, hh⟩ := h.close hs.within
    exact ⟨⟨hc, fun hne => absurd rfl hne⟩, he, hh⟩
  rest {s} hs := by
    have hp : s.pending = [] := by
      by_contra hne
      simpa using (hs.pending hne).1
    obtain ⟨t, ha, ht, hrest⟩ := h.rest hs.within
    exact ⟨_, advance_of_stop hp ha, ⟨ht, fun hne => absurd rfl hne⟩, hrest⟩

end Flatten

namespace Concat
variable {σ : Type u} {α : Type v} [Source σ α]

theorem stopped_of_seek {passed ahead : List σ} {t : Concat σ}
    (h : seek passed ahead = (true, t)) : t.stopped = none := by
  induction ahead generalizing passed with
  | nil => simp [seek] at h
  | cons s rest ih =>
    unfold seek at h
    split at h
    · obtain rfl := (Prod.mk.inj h).2
      rfl
    · split at h
      · simp at h
      · exact ih h

/-- A concatenation leaves its members alone once it is closed, so what they hold is not told. -/
theorem seals [Inhabited α] :
    Seals (fun _ : Concat σ => none) (fun isShut c => c.isClosed = isShut) where
  failure _ hh := by cases hh
  item {c t} hc ha := by
    change c.advance = (true, t) at ha
    unfold advance at ha
    split at ha
    · simp at ha
    · refine ⟨?_, stopped_of_seek ha⟩
      have hs := isClosed_seek c.passed c.ahead
      rwa [ha] at hs
  stop {c t} hc ha := by
    change c.advance = (false, t) at ha
    unfold advance at ha
    split at ha
    · obtain rfl := (Prod.mk.inj ha).2
      exact hc
    · have hs := isClosed_seek c.passed c.ahead
      rwa [ha] at hs
  close {_ c} _ := by
    show c.close.2.isClosed = true ∧ c.close.2.stopped = c.stopped ∧ none = none
    unfold close
    split
    · exact ⟨‹_›, rfl, rfl⟩
    · exact ⟨rfl, rfl, rfl⟩
  rest {c} hc := by
    refine ⟨c, ?_, hc, rfl, rfl⟩
    show c.advance = _
    rw [advance, if_pos (by simp [hc])]

end Concat
end PullStreams
