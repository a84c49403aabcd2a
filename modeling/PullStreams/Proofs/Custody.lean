import Mathlib.Data.List.Forall2
import Mathlib.Data.List.Induction
import PullStreams.Proofs.Operator.Driving
import PullStreams.Proofs.Source.Cursor

namespace PullStreams
open Source History CursorCall

/-- Each log has gone on from where it was. -/
def Grows (logs logs' : List (List CursorCall)) : Prop := List.Forall₂ (· <+: ·) logs logs'

namespace Grows
variable {logs logs' logs'' : List (List CursorCall)}

@[refl] theorem refl (logs : List (List CursorCall)) : Grows logs logs :=
  List.forall₂_same.2 fun log _ => log.prefix_rfl

theorem trans (h : Grows logs logs') (h' : Grows logs' logs'') : Grows logs logs'' := by
  induction h generalizing logs'' with
  | nil => exact h'
  | cons hp _ ih =>
    cases h' with
    | cons hp' h' => exact .cons (hp.trans hp') (ih h')

theorem append {more more' : List (List CursorCall)} (h : Grows logs logs')
    (h' : Grows more more') : Grows (logs ++ more) (logs' ++ more') :=
  List.rel_append h h'

end Grows

/-- What a close makes of the logs of cursors: one that has been released is left alone, any other
is released now. The answer is the first failure from the left. -/
inductive Releases : List (List CursorCall) → List (List CursorCall) →
    Except StreamFault Unit → Prop
  | nil : Releases [] [] (.ok ())
  | done {log : List CursorCall} {logs logs' : List (List CursorCall)}
    {answer : Except StreamFault Unit} (h : closes log = 1) (rest : Releases logs logs' answer) :
    Releases (log :: logs) (log :: logs') answer
  | now {log : List CursorCall} {logs logs' : List (List CursorCall)}
    {answer : Except StreamFault Unit} (h : closes log = 0) (result : Except Report Unit)
    (rest : Releases logs logs' answer) :
    Releases (log :: logs) ((log ++ [.close result]) :: logs')
      ((result.mapError Report.toStreamFault).bind fun _ => answer)

namespace Releases
variable {logs logs' more more' : List (List CursorCall)} {answer answer' : Except StreamFault Unit}

theorem append (h : Releases logs logs' answer) (h' : Releases more more' answer') :
    Releases (logs ++ more) (logs' ++ more') (answer.bind fun _ => answer') := by
  induction h with
  | nil => exact h'
  | done hd _ ih => exact .done hd ih
  | @now _ _ _ answer hn result _ ih =>
    have hb : ((result.mapError Report.toStreamFault).bind fun _ => answer).bind
        (fun _ => answer') = (result.mapError Report.toStreamFault).bind fun _ =>
          answer.bind fun _ => answer' := by
      cases result <;> rfl
    rw [hb]
    exact .now hn result ih

/-- A single cursor that had not been released. -/
theorem single {log : List CursorCall} (h : closes log = 0) (result : Except Report Unit) :
    Releases [log] [log ++ [.close result]] (result.mapError Report.toStreamFault) := by
  have hb : ((result.mapError Report.toStreamFault).bind fun _ => .ok ()) =
      result.mapError Report.toStreamFault := by
    cases result <;> rfl
  rw [← hb]
  exact .now h result .nil

theorem grows (h : Releases logs logs' answer) : Grows logs logs' := by
  induction h with
  | nil => exact .nil
  | done _ _ ih => exact .cons List.prefix_rfl ih
  | now _ _ _ ih => exact .cons (List.prefix_append _ _) ih

/-- All have been released, once. -/
theorem closes_eq (h : Releases logs logs' answer) : ∀ log ∈ logs', closes log = 1 := by
  induction h with
  | nil => simp
  | done hd _ ih => exact List.forall_mem_cons.2 ⟨hd, ih⟩
  | now hn result _ ih => exact List.forall_mem_cons.2 ⟨by simp [hn], ih⟩

end Releases

/-- The cursors of a source, by their logs, while it is open and when it has been shut. -/
structure Custody {τ : Type u} {α : Type v} [Source τ α] (logs : τ → List (List CursorCall))
    (Open Shut : τ → Prop) : Prop where
  closes_le {s : τ} : Open s → ∀ log ∈ logs s, closes log ≤ 1
  advance {s : τ} : Open s → Open (advance s).2 ∧ Grows (logs s) (logs (advance s).2)
  close {s : τ} : Open s → Shut (close s).2 ∧ Releases (logs s) (logs (close s).2) (close s).1
  rest {s : τ} : Shut s → Shut (Source.advance s).2 ∧ logs (Source.advance s).2 = logs s
  close_again {s : τ} : Shut s →
    Shut (Source.close s).2 ∧ logs (Source.close s).2 = logs s ∧ (Source.close s).1 = .ok ()

/-- What the logs say of a source that has been called from `s` on. -/
structure ReleasesOnce {σ : Type u} {α : Type v} [Source σ α] (logs : σ → List (List CursorCall))
    (s : σ) (calls : List Call) : Prop where
  fresh : ∀ log ∈ logs s, log = []
  grows (c : Call) :
    Grows (logs (after calls s).state) (logs ((after calls s).call c).state)
  closes_le : ∀ log ∈ logs (after calls s).state, closes log ≤ 1
  /-- The first close. -/
  releases : .close ∉ calls →
    Releases (logs (after calls s).state) (logs (close (after calls s).state).2)
      (close (after calls s).state).1
  closes_eq : .close ∈ calls → ∀ log ∈ logs (after calls s).state, closes log = 1
  /-- Any later close. -/
  close_again : .close ∈ calls → (close (after calls s).state).1 = .ok ()
  /-- After a close no cursor is called any more. -/
  rest : .close ∈ calls → ∀ c : Call,
    logs ((after calls s).call c).state = logs (after calls s).state

namespace Custody
variable {σ : Type u} {α : Type v} [Source σ α] {logs : σ → List (List CursorCall)}
  {Open Shut : σ → Prop} {s : σ}

theorem advances (h : Custody logs Open Shut) (n : Nat) (hs : Open s) :
    Open (advances n s) ∧ Grows (logs s) (logs (Source.advances n s)) := by
  induction n with
  | zero => exact ⟨hs, .refl _⟩
  | succ n ih =>
    obtain ⟨ho, hg⟩ := h.advance ih.1
    exact ⟨ho, ih.2.trans hg⟩

theorem rest_advances (h : Custody logs Open Shut) (n : Nat) (hs : Shut s) :
    Shut (Source.advances n s) ∧ logs (Source.advances n s) = logs s := by
  induction n with
  | zero => exact ⟨hs, rfl⟩
  | succ n ih =>
    obtain ⟨ho, hl⟩ := h.rest ih.1
    exact ⟨ho, hl.trans ih.2⟩

theorem call_of_open (h : Custody logs Open Shut) {t : History σ} (ho : Open t.state) {c : Call}
    (hc : c ≠ .close) :
    Open (t.call c).state ∧ Grows (logs t.state) (logs (t.call c).state) := by
  cases c with
  | advance => exact h.advance ho
  | current => exact ⟨ho, .refl _⟩
  | error => exact ⟨ho, .refl _⟩
  | close => exact absurd rfl hc

theorem call_of_shut (h : Custody logs Open Shut) {t : History σ} (hs : Shut t.state) (c : Call) :
    Shut (t.call c).state ∧ logs (t.call c).state = logs t.state := by
  cases c with
  | advance => exact h.rest hs
  | current => exact ⟨hs, rfl⟩
  | error => exact ⟨hs, rfl⟩
  | close =>
    obtain ⟨hs', hl, -⟩ := h.close_again hs
    exact ⟨hs', hl⟩

/-- A source that has been closed is shut, and has released each cursor once; any other is open. -/
theorem open_or_shut (h : Custody logs Open Shut) (hs : Open s) (calls : List Call) :
    .close ∉ calls ∧ Open (after calls s).state ∨
      .close ∈ calls ∧ Shut (after calls s).state ∧
        ∀ log ∈ logs (after calls s).state, closes log = 1 := by
  -- The last call decides whether the source is closed only now.
  induction calls using List.reverseRecOn with
  | nil => exact .inl ⟨List.not_mem_nil, hs⟩
  | append_singleton calls c ih =>
    rw [after_concat, List.mem_append, List.mem_singleton]
    rcases ih with ⟨hn, ho⟩ | ⟨hm, hs, hl⟩
    · by_cases hc : c = .close
      · subst hc
        obtain ⟨hs, hr⟩ := h.close ho
        exact .inr ⟨.inr rfl, hs, hr.closes_eq⟩
      · refine .inl ⟨?_, (h.call_of_open ho hc).1⟩
        rintro (hm | hc')
        · exact hn hm
        · exact hc hc'.symm
    · obtain ⟨hs', he⟩ := h.call_of_shut hs c
      rw [he]
      exact .inr ⟨.inl hm, hs', hl⟩

theorem of_drives {τ : Type w} {β : Type x} [Source τ β] {inner : τ → σ}
    (h : Custody logs Open Shut) (hi : Drives inner) :
    Custody (fun t => logs (inner t)) (fun t => Open (inner t)) (fun t => Shut (inner t)) where
  closes_le hs := h.closes_le hs
  advance {t} hs := by
    obtain ⟨n, hn⟩ := hi.advance t
    rw [hn]
    exact h.advances n hs
  close {t} hs := by
    rw [← hi.fst_close, hi.snd_close]
    exact h.close hs
  rest {t} hs := by
    obtain ⟨n, hn⟩ := hi.advance t
    rw [hn]
    exact h.rest_advances n hs
  close_again {t} hs := by
    rw [← hi.fst_close, hi.snd_close]
    exact h.close_again hs

theorem releasesOnce (h : Custody logs Open Shut) (hs : Open s) (hf : ∀ log ∈ logs s, log = [])
    (calls : List Call) : ReleasesOnce logs s calls := by
  rcases h.open_or_shut hs calls with ⟨hn, ho⟩ | ⟨hm, hs, hl⟩
  · refine ⟨hf, fun c => ?_, h.closes_le ho, fun _ => (h.close ho).2, ?_, ?_, ?_⟩
    · by_cases hc : c = .close
      · subst hc
        exact (h.close ho).2.grows
      · exact (h.call_of_open ho hc).2
    · exact fun hm => absurd hm hn
    · exact fun hm => absurd hm hn
    · exact fun hm => absurd hm hn
  · refine ⟨hf, fun c => ?_, fun log hlog => Nat.le_of_eq (hl log hlog), fun hn => absurd hm hn,
      fun _ => hl, fun _ => (h.close_again hs).2.2, fun _ c => (h.call_of_shut hs c).2⟩
    rw [(h.call_of_shut hs c).2]

end Custody

/-- From `s` on the cursors of the source are in custody. -/
def InCustody {σ : Type u} {α : Type v} [Source σ α] (logs : σ → List (List CursorCall)) (s : σ) :
    Prop :=
  ∃ Open Shut : σ → Prop, Custody logs Open Shut ∧ Open s

theorem InCustody.of_drives {τ : Type u} {σ : Type v} {α : Type w} {β : Type x} [Source τ β]
    [Source σ α] {inner : τ → σ} {logs : σ → List (List CursorCall)}
    {logs' : τ → List (List CursorCall)} {s : σ} {t : τ} (h : InCustody logs s)
    (hi : Drives inner) (hl : ∀ t, logs' t = logs (inner t)) (ht : inner t = s) :
    InCustody logs' t := by
  obtain ⟨Open, Shut, hc, hs⟩ := h
  obtain rfl : logs' = fun t => logs (inner t) := funext hl
  subst ht
  exact ⟨_, _, hc.of_drives hi, hs⟩

theorem custody_sigma {ι : Type u} {σ : ι → Type v} {α : Type w} [∀ i, Source (σ i) α]
    {logs : (i : ι) → σ i → List (List CursorCall)} {Open Shut : (i : ι) → σ i → Prop}
    (h : ∀ i, Custody (logs i) (Open i) (Shut i)) :
    Custody (fun s : (i : ι) × σ i => logs s.1 s.2) (fun s => Open s.1 s.2)
      (fun s => Shut s.1 s.2) where
  closes_le {s} := (h s.1).closes_le
  advance {s} := (h s.1).advance
  close {s} := (h s.1).close
  rest {s} := (h s.1).rest
  close_again {s} := (h s.1).close_again

/-- A source whose every close goes well: it has nothing to release that could fail. -/
class ClosesWell (σ : Type u) {α : outParam (Type v)} [Source σ α] : Prop where
  ok (s : σ) : (close s).1 = .ok ()

theorem ClosesWell.custody {σ : Type u} {α : Type v} [Source σ α] [ClosesWell σ] :
    Custody (fun _ : σ => []) (fun _ => True) (fun _ => True) where
  closes_le _ := by simp
  advance _ := ⟨trivial, .refl _⟩
  close {s} _ := by
    rw [ClosesWell.ok s]
    exact ⟨trivial, .nil⟩
  rest _ := ⟨trivial, rfl⟩
  close_again {s} _ := ⟨trivial, rfl, ClosesWell.ok s⟩

namespace CursorSource
variable {γ ρ : Type u} [Cursor γ ρ] [Inhabited ρ]

def Tracks (s : CursorSource (LoggedCursor γ)) : Prop :=
  closes s.cursor.log = if s.isReleased then 1 else 0

/-- The log of a cursor that is called goes on, and tells of a release if the source does. -/
theorem tracks_advance {s : CursorSource (LoggedCursor γ)} (h : s.Tracks) :
    s.advance.2.isClosed = s.isClosed ∧ s.advance.2.Tracks ∧
      s.cursor.log <+: s.advance.2.cursor.log := by
  unfold Tracks at h ⊢
  have hstep := advanced_advance s
  generalize s.advance = r at hstep ⊢
  cases hstep with
  | done hd => exact ⟨rfl, h, List.prefix_rfl⟩
  | row hd hn hs =>
    rw [(LoggedCursor.of_scan hs).2, (LoggedCursor.of_hasNext hn).2]
    simp [h]
  | unscanned hd hn hs =>
    rw [(LoggedCursor.of_scan hs).2, (LoggedCursor.of_hasNext hn).2]
    simp [h]
  | released hd hn hc =>
    have hr : s.isReleased = false := by
      simp only [isDone, Bool.or_eq_false_iff] at hd
      exact hd.1.2
    rw [(LoggedCursor.of_close hc).2, (LoggedCursor.of_hasNext hn).2]
    simp [h, hr]

omit [Inhabited ρ] in
theorem releases_close {s : CursorSource (LoggedCursor γ)} (hc : s.isClosed = false)
    (h : s.Tracks) :
    s.close.2.isClosed = true ∧ Releases [s.cursor.log] [s.close.2.cursor.log] s.close.1 := by
  have hstep := closed_close s
  generalize s.close = r at hstep ⊢
  cases hstep with
  | again hc' => simp [hc] at hc'
  | released _ hr => exact ⟨rfl, .done (by simpa [Tracks, hr] using h) .nil⟩
  | release _ hr hclose =>
    rw [(LoggedCursor.of_close hclose).2]
    exact ⟨rfl, .single (by simpa [Tracks, hr] using h) _⟩

theorem custody :
    Custody (fun s : CursorSource (LoggedCursor γ) => [s.cursor.log])
      (fun s => s.isClosed = false ∧ s.Tracks) (fun s => s.isClosed = true) where
  closes_le {s} hs := by
    have hl : closes s.cursor.log = if s.isReleased then 1 else 0 := hs.2
    simp only [List.mem_singleton, forall_eq, hl]
    split <;> omega
  advance {s} hs := by
    obtain ⟨hc, hl⟩ := hs
    obtain ⟨hc', hl', hp⟩ := tracks_advance hl
    exact ⟨⟨hc'.trans hc, hl'⟩, .cons hp .nil⟩
  close hs := releases_close hs.1 hs.2
  rest {s} hs := by
    have hd : s.isDone = true := by simp [isDone, hs]
    show s.advance.2.isClosed = true ∧ [s.advance.2.cursor.log] = _
    rw [advance_of_done hd]
    exact ⟨hs, rfl⟩
  close_again {s} hs := by
    show s.close.2.isClosed = true ∧ [s.close.2.cursor.log] = _ ∧ s.close.1 = _
    rw [close, if_pos hs]
    exact ⟨hs, rfl, rfl⟩

end CursorSource

namespace Concat
variable {σ : Type u} {α : Type v} [Source σ α]

def members (c : Concat σ) : List σ := c.passed ++ c.ahead

def Moved (s t : σ) : Prop := t = s ∨ t = (Source.advance s).2

theorem moved_advance {s t : σ} {more : Bool} (h : Source.advance s = (more, t)) : Moved s t :=
  .inr (congrArg Prod.snd h).symm

theorem forall₂_moved_refl (ms : List σ) : List.Forall₂ Moved ms ms :=
  List.forall₂_same.2 fun _ _ => .inl rfl

/-- The members that have been passed are left alone. -/
theorem forall₂_seek (passed ahead : List σ) :
    ∃ ms, (seek passed ahead).2.members = passed ++ ms ∧ List.Forall₂ Moved ahead ms := by
  induction ahead generalizing passed with
  | nil => exact ⟨[], rfl, .nil⟩
  | cons s rest ih =>
    match ha : Source.advance s with
    | (true, t) =>
      simp only [seek, ha]
      exact ⟨t :: rest, rfl, .cons (moved_advance ha) (forall₂_moved_refl rest)⟩
    | (false, t) =>
      cases hf : failure? (Source.error t) with
      | some e =>
        simp only [seek, ha, hf]
        exact ⟨t :: rest, rfl, .cons (moved_advance ha) (forall₂_moved_refl rest)⟩
      | none =>
        simp only [seek, ha, hf]
        obtain ⟨ms, hm, hr⟩ := ih (passed ++ [t])
        exact ⟨t :: ms, by simpa using hm, .cons (moved_advance ha) hr⟩

theorem isClosed_seek (passed ahead : List σ) : (seek passed ahead).2.isClosed = false := by
  induction ahead generalizing passed with
  | nil => rfl
  | cons s rest ih =>
    unfold seek
    split
    · rfl
    · split
      · rfl
      · exact ih _

theorem forall₂_advance (c : Concat σ) :
    c.advance.2.isClosed = c.isClosed ∧
      List.Forall₂ Moved c.members c.advance.2.members := by
  unfold advance
  split
  · exact ⟨rfl, forall₂_moved_refl _⟩
  · rename_i hd
    simp only [Bool.or_eq_true, not_or, Bool.not_eq_true] at hd
    obtain ⟨ms, hm, hr⟩ := forall₂_seek c.passed c.ahead
    rw [hm, hd.1]
    exact ⟨isClosed_seek _ _, List.rel_append (forall₂_moved_refl c.passed) hr⟩

variable {logs : σ → List (List CursorCall)} {Open Shut : σ → Prop}

theorem grows_of_moved (h : Custody logs Open Shut) {ms ms' : List σ}
    (hm : List.Forall₂ Moved ms ms') (ho : ∀ m ∈ ms, Open m) :
    (∀ m ∈ ms', Open m) ∧ Grows (ms.flatMap logs) (ms'.flatMap logs) := by
  induction hm with
  | nil => exact ⟨ho, .nil⟩
  | @cons s t ms ms' hst _ ih =>
    obtain ⟨hs, hrest⟩ := List.forall_mem_cons.1 ho
    obtain ⟨ho', hg⟩ := ih hrest
    have ht : Open t ∧ Grows (logs s) (logs t) := by
      rcases hst with rfl | rfl
      · exact ⟨hs, .refl _⟩
      · exact h.advance hs
    exact ⟨List.forall_mem_cons.2 ⟨ht.1, ho'⟩, ht.2.append hg⟩

/-- A failure does not keep the members after it from being closed. -/
theorem releases_closeAll (h : Custody logs Open Shut) {ms : List σ} (ho : ∀ m ∈ ms, Open m) :
    Releases (ms.flatMap logs) ((closeAll ms).2.flatMap logs) (closeAll ms).1 := by
  induction ms with
  | nil => exact .nil
  | cons s rest ih =>
    obtain ⟨hs, hrest⟩ := List.forall_mem_cons.1 ho
    exact (h.close hs).2.append (ih hrest)

theorem custody [Inhabited α] (h : Custody logs Open Shut) :
    Custody (fun c : Concat σ => c.members.flatMap logs)
      (fun c => c.isClosed = false ∧ ∀ m ∈ c.members, Open m) (fun c => c.isClosed = true) where
  closes_le {c} hc log hl := by
    obtain ⟨m, hm, hl⟩ := List.mem_flatMap.1 hl
    exact h.closes_le (hc.2 m hm) log hl
  advance {c} hc := by
    obtain ⟨he, hm⟩ := forall₂_advance c
    obtain ⟨ho, hg⟩ := grows_of_moved h hm hc.2
    exact ⟨⟨he.trans hc.1, ho⟩, hg⟩
  close {c} hc := by
    show c.close.2.isClosed = true ∧ Releases _ (c.close.2.members.flatMap logs) c.close.1
    obtain ⟨hp, ha⟩ := List.forall_mem_append.1 hc.2
    have hr := (releases_closeAll h hp).append (releases_closeAll h ha)
    rw [close, if_neg (by simp [hc.1])]
    simp only [members, List.flatMap_append]
    exact ⟨trivial, hr⟩
  rest {c} hc := by
    show c.advance.2.isClosed = true ∧ c.advance.2.members.flatMap logs = _
    rw [advance, if_pos (by simp [hc])]
    exact ⟨hc, rfl⟩
  close_again {c} hc := by
    show c.close.2.isClosed = true ∧ c.close.2.members.flatMap logs = _ ∧ c.close.1 = _
    rw [close, if_pos hc]
    exact ⟨hc, rfl, rfl⟩

end Concat
end PullStreams
