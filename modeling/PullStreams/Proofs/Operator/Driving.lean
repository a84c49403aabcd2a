import PullStreams.Double.Source
import PullStreams.Proofs.Operator.Orderly

namespace PullStreams
open Source

/-- The source within is only advanced, and closed whenever the operator is. -/
structure Drives {τ : Type u} {σ : Type v} {α : Type w} {β : Type x} [Source τ β] [Source σ α]
    (inner : τ → σ) : Prop where
  advance (s : τ) : ∃ n, inner (advance s).2 = advances n (inner s)
  close (s : τ) : (close s).map id inner = close (inner s)

namespace Drives
variable {τ : Type u} {σ : Type v} {α : Type w} {β : Type x} [Source τ β] [Source σ α]
  {inner : τ → σ}

theorem fst_close (h : Drives inner) (s : τ) : (Source.close (inner s)).1 = (Source.close s).1 :=
  (congrArg Prod.fst (h.close s)).symm

theorem snd_close (h : Drives inner) (s : τ) :
    inner (Source.close s).2 = (Source.close (inner s)).2 :=
  congrArg Prod.snd (h.close s)

theorem of_passes [Source τ α] (h : Passes inner) : Drives inner where
  advance s := ⟨1, (congrArg Prod.snd (h.advance s)).symm⟩
  close s := (h.close s).symm

end Drives

namespace Source
variable {τ : Type u} {σ : Type v} {α : Type w} {β : Type x} [Source τ β] [Source σ α]
  {inner : τ → σ} {stopped : τ → Option StreamFault} {IsIdle : τ → Prop}

theorem RelayStep.exists_advances {s : τ} {r : Bool × τ}
    (h : RelayStep inner stopped IsIdle s r) : ∃ n, inner r.2 = advances n (inner s) := by
  cases h with
  | item hs h hne ht => exact ⟨_, h.eq_advances⟩
  | fail hs h hne ht hi => exact ⟨_, h.eq_advances⟩
  | stop hs h hi => exact ⟨_, h.eq_advances⟩
  | rest hs ht h hi => exact ⟨0, h⟩

theorem Relays.drives [Inhabited α] [Inhabited β] (h : Relays inner stopped IsIdle)
    (hc : ∀ s, (Source.close s).map id inner = Source.close (inner s)) : Drives inner where
  advance s := (h.step s).exists_advances
  close := hc

end Source

section Elementwise
variable {σ : Type u} {α : Type v} {κ : Type w} {β : Type x} [Source σ α] [Inhabited α]
  [Inhabited β]

theorem Map.drives {f : Callback α κ β} : Drives (inner : Map σ f → σ) :=
  relays.drives fun _ => rfl

theorem TryMap.drives {f : Callback α κ (Except Report β)} : Drives (inner : TryMap σ f → σ) :=
  relays.drives fun _ => rfl

theorem Filter.drives {p : Callback α κ Bool} [SweepsEnd σ (visit p)] :
    Drives (inner : Filter σ p → σ) :=
  relays.drives fun _ => rfl

theorem FilterMap.drives {f : Callback α κ (Option β)} [SweepsEnd σ (visit f)] :
    Drives (inner : FilterMap σ f → σ) :=
  relays.drives fun _ => rfl

end Elementwise

section Windows
variable {ω : Type u} {σ : Type v} {α : Type w} [Source ω (List α)] [Source σ α]

theorem Window.Step.exists_advances {W : Window ω σ} {w : ω} {r : Bool × ω} (h : W.Step w r) :
    ∃ n, W.inner r.2 = advances n (W.inner w) := by
  cases h with
  | item h he hc hne => exact ⟨_, h.eq_advances⟩
  | last h he hw hc hne => exact ⟨_, h.eq_advances⟩
  | stop h he hw hw' hs => exact ⟨_, (Drains.stop h).eq_advances⟩

/-- A window that is not running leaves the source within as it is. -/
theorem Window.drives {W : Window ω σ} (hW : W.Lawful)
    (hr : ∀ w, (W.ending w).isRunning = false → W.inner (advance w).2 = W.inner w)
    (hc : ∀ w, (close w).map id W.inner = close (W.inner w)) : Drives W.inner where
  advance w := by
    rcases W.running_or w with he | he
    · exact (hW.step he).exists_advances
    · exact ⟨0, hr w he⟩
  close := hc

end Windows

theorem Batch.drives {σ : Type u} {α : Type v} [Source σ α] {size : Nat} :
    Drives (inner : Batch σ size → σ) := by
  refine window.drives lawful_window (fun w hr => ?_) fun _ => rfl
  show w.advance.2.inner = w.inner
  rw [advance_of_not_running hr]

theorem Group.drives {σ : Type u} {α : Type v} {κ : Type w} {ξ : Type x} {key : Callback α κ ξ}
    [Source σ α] [BEq ξ] [∀ k, SweepsEnd σ (visit key k)] :
    Drives (inner : Group σ key → σ) := by
  refine window.drives lawful_window (fun w hr => ?_) fun _ => rfl
  show w.advance.2.inner = w.inner
  cases hp : w.pending with
  | none => rw [advance_of_not_running hp hr]
  | some next =>
    have hr : w.ending.isRunning = false := hr
    rw [advance_of_pending (k := next.1) (a := next.2) hp, gather, if_neg (by simp [hr])]

theorem Flatten.drives {σ : Type u} {α : Type v} [Source σ (List α)] [NonemptyAtLast σ]
    [Inhabited α] : Drives (inner : Flatten σ α → σ) where
  advance s := by
    show ∃ n, s.advance.2.inner = advances n s.inner
    unfold advance
    split
    · exact ⟨0, rfl⟩
    · split
      · rename_i h
        obtain ⟨xs, hr⟩ := reads_of_pull h
        exact ⟨_, hr.eq_advances⟩
      · rename_i h
        obtain ⟨xs, hd⟩ := drains_of_pull h
        exact ⟨_, hd.eq_advances⟩
  close _ := rfl

theorem drives_counted {σ : Type u} {α : Type v} [Source σ α] :
    Drives (Double.CountedSource.inner : Double.CountedSource σ → σ) :=
  .of_passes passes_counted

end PullStreams
