import PullStreams.Proofs.Passing

namespace PullStreams.Source

inductive Call where
  | advance
  | current
  | error
  | close
  deriving DecidableEq, Repr

/-- A source after some calls. -/
structure History (σ : Type u) where
  state : σ
  /-- The last `advance` or `close` was an advance that yielded. -/
  hasItem : Bool := false
  /-- An advance has yielded nothing, or the source was closed. -/
  isOver : Bool := false

namespace History

def call {σ : Type u} {α : Type v} [Source σ α] (h : History σ) : Call → History σ
  | .advance =>
    let (more, s) := Source.advance h.state
    ⟨s, more, h.isOver || !more⟩
  | .close => ⟨(Source.close h.state).2, false, true⟩
  | .current => h
  | .error => h

def after {σ : Type u} {α : Type v} [Source σ α] (calls : List Call) (s : σ) : History σ :=
  calls.foldl call { state := s }

variable {σ : Type u} {α : Type v} [Source σ α] {s t : σ} {i o : Bool}

theorem call_advance {more : Bool} (h : Source.advance s = (more, t)) :
    call ⟨s, i, o⟩ .advance = ⟨t, more, o || !more⟩ := by
  simp [call, h]

theorem after_concat (calls : List Call) (c : Call) (s : σ) :
    after (calls ++ [c]) s = (after calls s).call c :=
  List.foldl_append ..

variable [Inhabited α]

structure Sound (h : History σ) : Prop where
  current : h.hasItem = false → Source.current h.state = default
  error : h.hasItem = true → Source.error h.state = none
  advance : h.isOver = true → (Source.advance h.state).1 = false

/-- Sound after any calls that may follow. -/
def Orderly (h : History σ) : Prop := ∀ calls : List Call, (calls.foldl call h).Sound

/-- An invariant of single calls that makes a history sound. -/
structure Keeps (inv : History σ → Prop) : Prop where
  sound {h : History σ} : inv h → h.Sound
  item {s t : σ} {i : Bool} :
    inv ⟨s, i, false⟩ → Source.advance s = (true, t) → inv ⟨t, true, false⟩
  stop {s t : σ} {i o : Bool} :
    inv ⟨s, i, o⟩ → Source.advance s = (false, t) → inv ⟨t, false, true⟩
  close {s : σ} {i o : Bool} : inv ⟨s, i, o⟩ → inv ⟨(Source.close s).2, false, true⟩

theorem Sound.eq_false (hs : Sound ⟨s, i, o⟩) (h : Source.advance s = (true, t)) : o = false := by
  cases o with
  | false => rfl
  | true => simpa [h] using hs.advance rfl

theorem Sound.exists_stop (hs : Sound ⟨s, i, true⟩) : ∃ t, Source.advance s = (false, t) :=
  ⟨_, Prod.ext (hs.advance rfl) rfl⟩

theorem Keeps.call {inv : History σ → Prop} (hk : Keeps inv) {h : History σ} (hi : inv h)
    (c : Call) : inv (h.call c) := by
  obtain ⟨s, i, o⟩ := h
  cases c with
  | current => exact hi
  | error => exact hi
  | close => exact hk.close hi
  | advance =>
    match ha : Source.advance s with
    | (true, t) =>
      obtain rfl := (hk.sound hi).eq_false ha
      rw [call_advance ha]
      exact hk.item hi ha
    | (false, t) =>
      rw [call_advance ha, Bool.not_false, Bool.or_true]
      exact hk.stop hi ha

theorem Keeps.orderly {inv : History σ → Prop} (hk : Keeps inv) {h : History σ} (hi : inv h) :
    h.Orderly := by
  intro calls
  induction calls generalizing h with
  | nil => exact hk.sound hi
  | cons c calls ih => exact ih (hk.call hi c)

namespace Orderly

theorem sound {h : History σ} (ho : h.Orderly) : h.Sound := ho []

theorem call {h : History σ} (ho : h.Orderly) (c : Call) : (h.call c).Orderly :=
  fun calls => ho (c :: calls)

theorem of_item (ho : Orderly ⟨s, i, o⟩) (h : Source.advance s = (true, t)) :
    o = false ∧ Orderly ⟨t, true, false⟩ := by
  have hf := ho.sound.eq_false h
  have hc := ho.call .advance
  rw [call_advance h, hf] at hc
  exact ⟨hf, hc⟩

theorem of_stop (ho : Orderly ⟨s, i, o⟩) (h : Source.advance s = (false, t)) :
    Orderly ⟨t, false, true⟩ := by
  have hc := ho.call .advance
  rw [call_advance h] at hc
  simpa using hc

theorem of_close (ho : Orderly ⟨s, i, o⟩) : Orderly ⟨(Source.close s).2, false, true⟩ :=
  ho.call .close

theorem of_reads (ho : Orderly ⟨s, i, o⟩) {xs : List α} (h : Reads s xs t) (hne : xs ≠ []) :
    o = false ∧ Orderly ⟨t, true, false⟩ := by
  induction h generalizing i o with
  | nil => exact absurd rfl hne
  | cons h rest ih =>
    obtain ⟨hf, ht⟩ := ho.of_item h
    cases rest with
    | nil => exact ⟨hf, ht⟩
    | cons h' rest => exact ⟨hf, (ih ht (List.cons_ne_nil _ _)).2⟩

theorem exists_of_reads (ho : Orderly ⟨s, i, o⟩) {xs : List α} (h : Reads s xs t) :
    ∃ i o, Orderly ⟨t, i, o⟩ := by
  cases h with
  | nil => exact ⟨i, o, ho⟩
  | cons h rest => exact ⟨true, false, (ho.of_reads (.cons h rest) (List.cons_ne_nil _ _)).2⟩

theorem of_drains (ho : Orderly ⟨s, i, o⟩) {xs : List α} (h : Drains s xs t) :
    Orderly ⟨t, false, true⟩ := by
  induction h generalizing i o with
  | stop h => exact ho.of_stop h
  | item h _ ih => exact ih (ho.of_item h).2

/-- A source that is over has nothing to read. -/
theorem eq_nil_of_drains (ho : Orderly ⟨s, i, true⟩) {xs : List α} (h : Drains s xs t) :
    xs = [] := by
  cases h with
  | stop => rfl
  | item h _ => simpa using (ho.of_item h).1

end Orderly

variable {τ : Type w} [Source τ α] {f : σ → τ}

def map (f : σ → τ) (h : History σ) : History τ := ⟨f h.state, h.hasItem, h.isOver⟩

omit [Inhabited α] in
theorem call_map (hf : Passes f) (h : History σ) (c : Call) :
    (h.map f).call c = (h.call c).map f := by
  cases c with
  | advance => simp [call, map, hf.advance]
  | close => simp [call, map, hf.close]
  | current => rfl
  | error => rfl

theorem sound_map_iff (hf : Passes f) (h : History σ) : (h.map f).Sound ↔ h.Sound := by
  have ha : (Source.advance (f h.state)).1 = (Source.advance h.state).1 := by simp [hf.advance]
  constructor
  · intro hs
    refine ⟨fun hi => ?_, fun hi => ?_, fun hi => ?_⟩
    · rw [← hf.current]
      exact hs.current hi
    · rw [← hf.error]
      exact hs.error hi
    · rw [← ha]
      exact hs.advance hi
  · intro hs
    refine ⟨fun hi => ?_, fun hi => ?_, fun hi => ?_⟩
    · rw [map, hf.current]
      exact hs.current hi
    · rw [map, hf.error]
      exact hs.error hi
    · rw [map, ha]
      exact hs.advance hi

theorem orderly_map_iff (hf : Passes f) (h : History σ) : (h.map f).Orderly ↔ h.Orderly := by
  -- The two histories stay in step through any calls.
  have hc (calls : List Call) (h : History σ) :
      calls.foldl call (h.map f) = (calls.foldl call h).map f := by
    induction calls generalizing h with
    | nil => rfl
    | cons c calls ih =>
      rw [List.foldl_cons, call_map hf, ih]
      rfl
  simp only [Orderly, hc, sound_map_iff hf]

end History
end PullStreams.Source
