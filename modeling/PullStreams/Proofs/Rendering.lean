import Mathlib.Data.List.Basic
import PullStreams.Proofs.LoggedWriter
import PullStreams.Proofs.Run
import PullStreams.Render

namespace PullStreams
open Source WriterEvent

/-- `encode` is given the number of records before the one it encodes. -/
structure Layout (α : Type u) where
  opening : Bytes := []
  encode : Nat → α → Except StreamFault Bytes
  join : List Bytes → Bytes
  closing : Bytes := []

namespace Layout
variable {α : Type u}

inductive Encodes (L : Layout α) : List α → List Bytes → Prop
  | nil : L.Encodes [] []
  | snoc {xs : List α} {records : List Bytes} {a : α} {bs : Bytes} (h : L.Encodes xs records)
    (ha : L.encode xs.length a = .ok bs) : L.Encodes (xs ++ [a]) (records ++ [bs])

theorem Encodes.length_eq {L : Layout α} {xs : List α} {records : List Bytes}
    (h : L.Encodes xs records) : records.length = xs.length := by
  induction h with
  | nil => rfl
  | snoc _ _ ih => simp [ih]

structure Delivered (L : Layout α) (xs : List α) (records : List Bytes) (log : List WriterEvent) :
    Prop where
  encodes : L.Encodes xs records
  smooth : Smooth log
  received : received log = L.opening ++ L.join records

/-- The ways in which rendering a source ends: with which answer, where it leaves the source, and
what the writer has been asked by then. Only items that were pulled are spoken of. -/
inductive Account {σ : Type v} [Source σ α] (L : Layout α) (source : σ) :
    Except PartialTransfer Nat → σ → List WriterEvent → Prop
  | whole {xs : List α} {records : List Bytes} {t : σ} {log : List WriterEvent}
    (hx : Drains source xs t) (hf : failure? (error t) = none) (he : L.Encodes xs records)
    (hs : Smooth log) (hr : received log = L.opening ++ L.join records ++ L.closing) :
    Account L source (.ok xs.length) t (log ++ [.flush (.ok ())])
  | flush {xs : List α} {records : List Bytes} {t : σ} {log : List WriterEvent} {e : IoFault}
    (hx : Drains source xs t) (hf : failure? (error t) = none) (he : L.Encodes xs records)
    (hs : Smooth log) (hr : received log = L.opening ++ L.join records ++ L.closing) :
    Account L source (.error ⟨xs.length, .io e⟩) t (log ++ [.flush (.error e)])
  | stream {xs : List α} {records : List Bytes} {t : σ} {log : List WriterEvent} {e : StreamFault}
    (hx : Drains source xs t) (hf : failure? (error t) = some e) (hd : L.Delivered xs records log) :
    Account L source (.error ⟨xs.length, e⟩) t log
  | marshal {done : List α} {a : α} {records : List Bytes} {t : σ} {log : List WriterEvent}
    {e : StreamFault} (hx : Reads source (done ++ [a]) t) (hd : L.Delivered done records log)
    (he : L.encode done.length a = .error e) : Account L source (.error ⟨done.length, e⟩) t log
  | opening {log : List WriterEvent} {rest : Bytes} {event : WriterEvent} {e : IoFault}
    (hs : Smooth log) (hr : L.opening = received log ++ rest) (hh : Halts rest e event) :
    Account L source (.error ⟨0, .io e⟩) source (log ++ [event])
  | record {done : List α} {a : α} {records : List Bytes} {bs rest : Bytes} {t : σ}
    {log : List WriterEvent} {event : WriterEvent} {e : IoFault}
    (hx : Reads source (done ++ [a]) t) (he : L.Encodes (done ++ [a]) (records ++ [bs]))
    (hs : Smooth log) (part : Bytes) (hr : received log = L.opening ++ L.join records ++ part)
    (hb : L.join (records ++ [bs]) = L.join records ++ part ++ rest) (hh : Halts rest e event) :
    Account L source (.error ⟨done.length, .io e⟩) t (log ++ [event])
  | closing {xs : List α} {records : List Bytes} {rest : Bytes} {t : σ} {log : List WriterEvent}
    {event : WriterEvent} {e : IoFault} (hx : Drains source xs t)
    (hf : failure? (error t) = none) (he : L.Encodes xs records) (hs : Smooth log) (part : Bytes)
    (hr : received log = L.opening ++ L.join records ++ part) (hb : L.closing = part ++ rest)
    (hh : Halts rest e event) :
    Account L source (.error ⟨xs.length, .io e⟩) t (log ++ [event])

end Layout

structure Format.Follows {α : Type u} (f : Format α) (L : Layout α) : Prop where
  opening : f.opening = L.opening
  closing : f.closing = L.closing
  join_nil : L.join [] = []
  record_of_error {n : Nat} {a : α} {e : StreamFault} : L.encode n a = .error e →
    f.record n a = .error e
  record_of_ok {n : Nat} {a : α} {bs : Bytes} : L.encode n a = .ok bs →
    ∃ added, f.record n a = .ok added ∧
      ∀ records, records.length = n → L.join (records ++ [bs]) = L.join records ++ added

namespace Format
open Layout
variable {σ : Type u} {α : Type v} [Source σ α] {ω : Type w} [ByteWriter ω] [PatientWriter ω]

section Endless
variable {f : Format α} {n : Nat} {s t : σ} {u v w : ω} {xs : List α} {bs : Bytes}

/-- The items are pulled one after the other, and the record of each, the first of which is number
`n`, is taken in full. -/
inductive Writes (f : Format α) : Nat → σ → ω → List α → σ → ω → Prop
  | nil (n : Nat) (s : σ) (w : ω) : Writes f n s w [] s w
  | cons {n : Nat} {s t t' : σ} {u v w : ω} {xs : List α} {bs : Bytes}
    (ha : advance s = (true, t)) (hr : f.record n (current t) = .ok bs)
    (hw : ByteWriter.writeAll bs w = (.ok (), v)) (rest : Writes f (n + 1) t v xs t' u) :
    Writes f n s w (current t :: xs) t' u

/-- The source yields for ever, and each of its items is encoded and the record taken. -/
def NeverEnds (f : Format α) (source : σ) (w : ω) : Prop :=
  ∃ v, ByteWriter.writeAll f.opening w = (.ok (), v) ∧
    ∀ n, ∃ xs t u, xs.length = n ∧ f.Writes 0 source v xs t u

theorem visit_eq_ok_iff {tally : Nat × ω} : f.visit (n, w) t = .ok tally ↔
    ∃ bs v, f.record n (current t) = .ok bs ∧ ByteWriter.writeAll bs w = (.ok (), v) ∧
      tally = (n + 1, v) := by
  simp only [visit]
  cases f.record n (current t) with
  | error e => simp
  | ok bs =>
    rcases hw : ByteWriter.writeAll bs w with ⟨e | ⟨⟩, v⟩
    · simp [put_of_writeAll hw, hw]
    · simp [put_of_writeAll hw, hw, eq_comm]

theorem Writes.exists_passed (h : f.Writes n s w xs t u) :
    ∃ last, Passed f.visit xs.length (n, w) s last t := by
  induction h with
  | nil n s w => exact ⟨_, .zero _ _⟩
  | cons ha hr hw _ ih =>
    obtain ⟨last, h⟩ := ih
    exact ⟨last, .succ ha (visit_eq_ok_iff.2 ⟨_, _, hr, hw, rfl⟩) h⟩

theorem exists_writes {tally last : Nat × ω} (h : Passed f.visit n tally s last t) :
    ∃ xs, xs.length = n ∧ f.Writes tally.1 s tally.2 xs t last.2 := by
  induction h with
  | zero tally s => exact ⟨[], rfl, .nil _ _ _⟩
  | succ ha hv _ ih =>
    obtain ⟨bs, v, hr, hw, rfl⟩ := visit_eq_ok_iff.1 hv
    obtain ⟨xs, rfl, h⟩ := ih
    exact ⟨_, List.length_cons, .cons ha hr hw h⟩

/-- Rendering ends if and only if there is an end to the records that are taken. -/
theorem renderEnds_iff (f : Format α) (source : σ) (w : ω) :
    RenderEnds f source w ↔ ¬ NeverEnds f source w := by
  constructor
  · rintro hends ⟨v, hv, h⟩
    have hsweep := hends.sweepEnds (start_of_writeAll hv)
    refine exists_sweepsTo_iff.1 ⟨_, sweepsTo_sweep (h := hsweep)⟩ fun n => ?_
    obtain ⟨xs, t, u, rfl, hw⟩ := h n
    obtain ⟨last, hp⟩ := hw.exists_passed
    exact ⟨last, t, hp⟩
  · intro h
    rcases hv : ByteWriter.writeAll f.opening w with ⟨e | ⟨⟩, v⟩
    · exact .of_error (start_of_writeAll hv)
    · by_cases hp : ∀ n, ∃ last t, Passed f.visit n (0, v) source last t
      · refine absurd ⟨v, hv, fun n => ?_⟩ h
        obtain ⟨last, t, hp⟩ := hp n
        obtain ⟨xs, hn, hw⟩ := exists_writes hp
        exact ⟨xs, t, last.2, hn, hw⟩
      · obtain ⟨answer, hs⟩ := exists_sweepsTo_iff.2 hp
        exact .of_sweepsTo (start_of_writeAll hv) hs

end Endless

section Accounts
variable {f : Format α} {L : Layout α} {w : LoggedWriter ω} {done : List α} {records : List Bytes}
  {source s t : σ}

/-- One record: it is delivered, or the account of the transfer is closed. -/
theorem visit_cases (hf : f.Follows L) (hd : L.Delivered done records w.log)
    (hx : Reads source (done ++ [current t]) t) :
    (∃ bs v, f.visit (done.length, w) t = .ok (done.length + 1, v) ∧
      L.Delivered (done ++ [current t]) (records ++ [bs]) v.log) ∨
    ∃ p v, f.visit (done.length, w) t = .error (p, v) ∧
      L.Account source (.error p) t v.log := by
  cases he : L.encode done.length (current t) with
  | error e =>
    refine .inr ⟨_, w, ?_, .marshal hx hd he⟩
    simp [visit, hf.record_of_error he]
  | ok bs =>
    obtain ⟨added, hrec, hjoin⟩ := hf.record_of_ok he
    have henc := hd.encodes.snoc he
    have hadd := hjoin records hd.encodes.length_eq
    have hw := LoggedWriter.wrote_writeAll added w
    generalize hr : ByteWriter.writeAll added w = r at hw
    cases hw with
    | @all v log hl hs hlog =>
      refine .inl ⟨bs, v, visit_eq_ok_iff.2 ⟨added, v, hrec, hr, rfl⟩, henc, ?_, ?_⟩
      · rw [hl]
        exact hd.smooth.append hs
      · rw [hl, received_append, hd.received, hlog, hadd, List.append_assoc]
    | @part v log rest event e hl hs hlog hh =>
      refine .inr ⟨⟨done.length, .io e⟩, v, ?_, ?_⟩
      · simp [visit, hrec, put_of_writeAll hr]
      · rw [hl]
        refine .record hx henc (hd.smooth.append hs) (received log) ?_ ?_ hh
        · rw [received_append, hd.received]
        · rw [hadd, hlog, List.append_assoc]

theorem account_finish (hf : f.Follows L) (hd : L.Delivered done records w.log)
    (hx : Drains source done t) (hstop : failure? (error t) = none) :
    L.Account source (f.finish done.length w).1 t (f.finish done.length w).2.log := by
  have hw := LoggedWriter.wrote_writeAll L.closing w
  rw [finish, put, hf.closing]
  generalize ByteWriter.writeAll L.closing w = r at hw
  cases hw with
  | @part v log rest event e hl hs hlog hh =>
    show L.Account source (.error ⟨done.length, .io e⟩) t v.log
    rw [hl]
    refine .closing hx hstop hd.encodes (hd.smooth.append hs) (received log) ?_ hlog hh
    rw [received_append, hd.received]
  | @all v log hl hs hlog =>
    have hsmooth := hd.smooth.append hs
    have hrec : received (w.log ++ log) = L.opening ++ L.join records ++ L.closing := by
      rw [received_append, hd.received, hlog]
    simp only [Prod.map, mapError_ok, id]
    rcases hfl : ByteWriter.flush v with ⟨e | ⟨⟩, u⟩
    · simp only
      rw [LoggedWriter.log_of_flush hfl, hl]
      exact .flush hx hstop hd.encodes hsmooth hrec
    · simp only
      rw [LoggedWriter.log_of_flush hfl, hl]
      exact .whole hx hstop hd.encodes hsmooth hrec

theorem account_conclude (hf : f.Follows L) {tally : Nat × LoggedWriter ω}
    {answer : Except (PartialTransfer × LoggedWriter ω) (Nat × LoggedWriter ω) × σ}
    (h : SweepsTo f.visit tally s answer) (htally : tally = (done.length, w))
    (hd : L.Delivered done records w.log) (hx : Reads source done s) :
    L.Account source (f.conclude answer).1 (f.conclude answer).2.1
      (f.conclude answer).2.2.log := by
  -- What has been delivered before grows along the sweep, so it is general in the induction.
  induction h generalizing done records w with
  | @stop tally s t ha =>
    subst htally
    have hdrains : Drains source done t := by
      simpa using hx.drains (.stop ha)
    simp only [conclude]
    cases hstop : failure? (error t) with
    | some e => exact .stream hdrains hstop hd
    | none => exact account_finish hf hd hdrains hstop
  | @halt tally s t e ha hv =>
    subst htally
    rcases visit_cases hf hd (hx.trans (.single ha)) with ⟨bs, v, hv', -⟩ | ⟨p, v, hv', haccount⟩
    · simp [hv] at hv'
    · obtain rfl := Except.error.inj (hv.symm.trans hv')
      exact haccount
  | @pass tally tally' s t answer ha hv _ ih =>
    subst htally
    have hread : Reads source (done ++ [current t]) t := hx.trans (.single ha)
    rcases visit_cases hf hd hread with ⟨bs, v, hv', hd'⟩ | ⟨p, v, hv', -⟩
    · refine ih ?_ hd' hread
      rw [Except.ok.inj (hv.symm.trans hv'), List.length_append]
      rfl
    · simp [hv] at hv'

theorem account_render (hf : f.Follows L) (source : σ) (w : ω)
    [hends : RenderEnds f source ({ inner := w } : LoggedWriter ω)] :
    L.Account source (f.render source ({ inner := w } : LoggedWriter ω)).1
      (f.render source ({ inner := w } : LoggedWriter ω)).2.1
      (f.render source ({ inner := w } : LoggedWriter ω)).2.2.log := by
  have hw := LoggedWriter.wrote_writeAll L.opening ({ inner := w } : LoggedWriter ω)
  rw [← hf.opening] at hw
  generalize hr : ByteWriter.writeAll f.opening ({ inner := w } : LoggedWriter ω) = r at hw
  cases hw with
  | @part v log rest event e hl hs hlog hh =>
    rw [render_of_error (start_of_writeAll hr), hl]
    exact .opening hs (hf.opening ▸ hlog) hh
  | @all v log hl hs hlog =>
    have hd : L.Delivered [] [] v.log := by
      refine ⟨.nil, ?_, ?_⟩
      · rw [hl]
        exact hs
      · rw [hl, hf.join_nil, List.append_nil, ← hf.opening]
        exact hlog
    have hstart : f.start ({ inner := w } : LoggedWriter ω) = .ok (0, v) := start_of_writeAll hr
    have hsweep := sweepsTo_sweep (h := hends.sweepEnds hstart)
    rw [render_of_sweepsTo hstart hsweep]
    exact account_conclude hf hsweep rfl hd (.nil source)

end Accounts

section Mirror
variable {f : Format α} {s : σ} {w : LoggedWriter ω}

omit [Source σ α] in
theorem put_inner (count : Nat) (bs : Bytes) (w : LoggedWriter ω) :
    put count bs w.inner = (put count bs w).map id LoggedWriter.inner := by
  rw [put, LoggedWriter.writeAll_inner]
  rfl

theorem visit_inner (f : Format α) (tally : Nat × LoggedWriter ω) (t : σ) :
    f.visit (tally.map id LoggedWriter.inner) t =
      ((f.visit tally t).map (Prod.map id LoggedWriter.inner)).mapError
        (Prod.map id LoggedWriter.inner) := by
  obtain ⟨count, w⟩ := tally
  simp only [visit, Prod.map, id]
  cases f.record count (current t) with
  | error e => rfl
  | ok bs =>
    simp only [put_inner]
    obtain ⟨result, v⟩ := put count bs w
    cases result <;> rfl

omit [Source σ α] in
theorem finish_inner (f : Format α) (count : Nat) (w : LoggedWriter ω) :
    f.finish count w.inner = (f.finish count w).map id LoggedWriter.inner := by
  simp only [finish, put_inner]
  obtain ⟨result, v⟩ := put count f.closing w
  cases result with
  | error e => rfl
  | ok u =>
    simp only [Prod.map, id, LoggedWriter.flush_inner]
    obtain ⟨result, v⟩ := ByteWriter.flush v
    cases result <;> rfl

theorem conclude_inner (f : Format α)
    (answer : Except (PartialTransfer × LoggedWriter ω) (Nat × LoggedWriter ω) × σ) :
    f.conclude (answer.map (fun r => (r.map (Prod.map id LoggedWriter.inner)).mapError
        (Prod.map id LoggedWriter.inner)) id) =
      (f.conclude answer).map id (Prod.map id LoggedWriter.inner) := by
  obtain ⟨⟨p, v⟩ | ⟨count, v⟩, t⟩ := answer
  · rfl
  · simp only [conclude, Prod.map, Except.map, mapError_ok, id]
    cases failure? (error t) with
    | some e => rfl
    | none => simp only [Prod.map, id, finish_inner]

theorem start_inner (f : Format α) (w : LoggedWriter ω) :
    f.start w.inner = ((f.start w).map (Prod.map id LoggedWriter.inner)).mapError
      (Prod.map id LoggedWriter.inner) := by
  simp only [start, put_inner]
  obtain ⟨result, v⟩ := put 0 f.opening w
  cases result <;> rfl

theorem RenderEnds.of_inner [hends : RenderEnds f s w.inner] : RenderEnds f s w := by
  have hinner := start_inner f w
  cases hw : f.start w with
  | error p => exact .of_error hw
  | ok tally =>
    rw [hw] at hinner
    have hsweep := sweepsTo_sweep (h := hends.sweepEnds hinner)
    obtain ⟨answer, hs⟩ := SweepsTo.of_map (visit_inner f) hsweep
    exact .of_sweepsTo hw hs

/-- That the writer is logged makes no difference to the rendering. -/
theorem render_inner (f : Format α) (s : σ) (w : LoggedWriter ω) [RenderEnds f s w.inner]
    [hends : RenderEnds f s w] :
    f.render s w.inner = (f.render s w).map id (Prod.map id LoggedWriter.inner) := by
  have hinner := start_inner f w
  cases hw : f.start w with
  | error p =>
    rw [hw] at hinner
    rw [render_of_error hw, render_of_error hinner]
    rfl
  | ok tally =>
    rw [hw] at hinner
    have hsweep := sweepsTo_sweep (h := hends.sweepEnds hw)
    rw [render_of_sweepsTo hw hsweep, ← conclude_inner]
    exact render_of_sweepsTo hinner (hsweep.map (visit_inner f))

end Mirror

def Accounts (f : Format α) (L : Layout α) (source : σ) (w : ω) : Prop :=
  ∃ (_ : RenderEnds f source w) (_ : RenderEnds f source ({ inner := w } : LoggedWriter ω))
    (result : Except PartialTransfer Nat) (s : σ) (v : LoggedWriter ω),
    f.render source ({ inner := w } : LoggedWriter ω) = (result, s, v) ∧
      f.render source w = (result, s, v.inner) ∧ L.Account source result s v.log

theorem Follows.accounts {f : Format α} {L : Layout α} (hf : f.Follows L) (source : σ) (w : ω)
    [hends : RenderEnds f source w] : f.Accounts L source w := by
  have hlogged : RenderEnds f source ({ inner := w } : LoggedWriter ω) := .of_inner
  have hr := render_inner f source ({ inner := w } : LoggedWriter ω)
  exact ⟨hends, hlogged, _, _, _, rfl, hr, account_render hf source w⟩

theorem Follows.accounts_iff {f : Format α} {L : Layout α} (hf : f.Follows L) (source : σ)
    (w : ω) : f.Accounts L source w ↔ ¬ f.NeverEnds source w := by
  rw [← renderEnds_iff]
  exact ⟨fun ⟨hends, _⟩ => hends, fun _ => hf.accounts source w⟩

end Format
end PullStreams
