import PullStreams.Source

namespace PullStreams

/-- Sources one after the other. `passed` have ended; the first of `ahead` is being read. The end of
a member is passed over, its failure stops the whole. -/
structure Concat (σ : Type u) where
  passed : List σ := []
  ahead : List σ
  stopped : Option StreamFault := none
  isClosed : Bool := false

namespace Concat
variable {σ : Type u} {α : Type v} [Source σ α]

def ofList (members : List σ) : Concat σ := { ahead := members }

def chain {τ : Type v} (s : σ) (t : τ) : Concat (σ ⊕ τ) := ofList [.inl s, .inr t]

def seek (passed : List σ) : List σ → Bool × Concat σ
  | [] => (false, { passed, ahead := [] })
  | s :: rest =>
    match Source.advance s with
    | (true, s) => (true, { passed, ahead := s :: rest })
    | (false, s) =>
      match failure? (Source.error s) with
      | some e => (false, { passed, ahead := s :: rest, stopped := some e })
      | none => seek (passed ++ [s]) rest

def advance (c : Concat σ) : Bool × Concat σ :=
  if c.isClosed || c.stopped.isSome then (false, c) else seek c.passed c.ahead

/-- Every member is closed, whatever the ones before it answer; the first failure counts. -/
def closeAll : List σ → Except StreamFault Unit × List σ
  | [] => (.ok (), [])
  | s :: rest =>
    let (result, s) := Source.close s
    let (later, rest) := closeAll rest
    (result.bind fun _ => later, s :: rest)

def close (c : Concat σ) : Except StreamFault Unit × Concat σ :=
  if c.isClosed then (.ok (), c)
  else
    let (first, passed) := closeAll c.passed
    let (later, ahead) := closeAll c.ahead
    (first.bind fun _ => later, { c with passed, ahead, isClosed := true })

def current [Inhabited α] (c : Concat σ) : α :=
  if c.isClosed then default else (c.ahead.head?.map Source.current).getD default

instance [Inhabited α] : Source (Concat σ) α where
  advance := advance
  current := current
  error c := c.stopped
  close := close

/-- Fewer members are ahead, or the first of them has moved on. -/
def Nearer (l' l : List σ) : Prop :=
  l'.length < l.length ∨ ∃ s' s rest, l' = s' :: rest ∧ l = s :: rest ∧ Source.After s' s

theorem nearer_wf [FiniteSource σ] : WellFounded (Nearer (σ := σ)) := by
  refine ⟨fun l => ?_⟩
  induction hn : l.length using Nat.strongRecOn generalizing l with
  | _ n ih =>
    subst hn
    cases l with
    | nil => exact ⟨_, fun l' h => by simp [Nearer] at h⟩
    | cons s rest =>
      induction s using (FiniteSource.wf (σ := σ)).induction with
      | _ s ihs =>
        refine ⟨_, fun l' h => ?_⟩
        rcases h with h | ⟨s', _, _, rfl, he, h⟩
        · exact ih _ h l' rfl
        · cases he
          exact ihs s' h ih

theorem nearer_of_seek {passed ahead : List σ} {t : Concat σ} (h : seek passed ahead = (true, t)) :
    Nearer t.ahead ahead := by
  induction ahead generalizing passed with
  | nil => simp [seek] at h
  | cons s rest ih =>
    unfold seek at h
    split at h
    · rename_i s' hs
      simp at h
      exact .inr ⟨s', s, rest, by simp [← h], rfl, hs⟩
    · split at h
      · simp at h
      · rcases ih h with h | ⟨s', s'', rest', h', rfl, _⟩
        · exact .inl (Nat.lt_succ_of_lt h)
        · exact .inl (by simp [h'])

instance [Inhabited α] [FiniteSource σ] : FiniteSource (Concat σ) :=
  .of_wellFounded (InvImage.wf ahead nearer_wf) fun t s h => by
    change s.advance = (true, t) at h
    unfold advance at h
    split at h
    · simp at h
    · exact nearer_of_seek h

end Concat
end PullStreams
