import PullStreams.Proofs.Answers
import PullStreams.Source.Supplied

namespace PullStreams
open Source

theorem SupplySource.advance_of_over {ι : Type u} {α : Type v} [Supply ι α]
    {s : SupplySource ι α} (h : s.isLive = false) :
    s.advance = (false, { s with slot := none }) := by
  rw [advance, if_neg (by simp [h])]

namespace ChannelSource
variable {ι : Type u} {α : Type v} [Supply ι α] {s : SupplySource ι α} {t : ChannelSource ι α}

/-- A source over an iterator that has asked it for as much as one over a receiver has. At the end
the iterator is let go, and the receiver is still there. -/
structure Alike (s : SupplySource ι α) (t : ChannelSource ι α) : Prop where
  supply : s.supply = t.receiver
  slot : s.slot = t.slot
  stopped : s.stopped = t.stopped
  isLive : s.isLive = (t.isOpen && t.stopped.isNone)
  idle : t.isOpen = false → t.slot = none

theorem alike_start (receiver : ι) : Alike (.ofSupply receiver : SupplySource ι α)
    (.ofReceiver receiver) :=
  ⟨rfl, rfl, rfl, rfl, nofun⟩

theorem Alike.advance (h : Alike s t) :
    s.advance.1 = t.advance.1 ∧ Alike s.advance.2 t.advance.2 := by
  have ha := advanced_advance t
  generalize t.advance = r at ha ⊢
  cases ha with
  | done hd =>
    have hl : s.isLive = false := by
      rw [h.isLive]
      rcases t with ⟨_, _ | _, _, _ | _⟩ <;> simp_all
    rw [SupplySource.advance_of_over hl]
    exact ⟨rfl, h.supply, rfl, h.stopped, h.isLive, fun _ => rfl⟩
  | @item a receiver ho hs hn =>
    have hl : s.isLive = true := by simp [h.isLive, ho, hs]
    rw [SupplySource.advance, if_pos hl, h.supply, hn]
    exact ⟨rfl, rfl, rfl, h.stopped, h.isLive, fun hc => by simp [ho] at hc⟩
  | @ended receiver ho hs hn =>
    have hl : s.isLive = true := by simp [h.isLive, ho, hs]
    rw [SupplySource.advance, if_pos hl, h.supply, hn]
    exact ⟨rfl, rfl, rfl, rfl, by simp, fun _ => rfl⟩

omit [Supply ι α] in
theorem Alike.close (h : Alike s t) :
    Alike { s with isLive := false, slot := none } t.close := by
  unfold ChannelSource.close
  by_cases ho : t.isOpen = true
  · rw [if_pos ho]
    exact ⟨h.supply, rfl, h.stopped, rfl, fun _ => rfl⟩
  · have ho : t.isOpen = false := by simpa using ho
    rw [if_neg (by simp [ho])]
    exact ⟨h.supply, (h.idle ho).symm, h.stopped, by simp [ho], h.idle⟩

variable [Inhabited α]

theorem bisimulation : Bisimulation (Alike (ι := ι) (α := α)) where
  advance h := h.advance
  current h := congrArg (·.getD default) h.slot
  error h := h.stopped
  close h := ⟨rfl, h.close⟩

/-- A receiver is held up to the first close. -/
theorem isOpen_run (calls : List Call) (t : ChannelSource ι α) :
    (run calls t).2.isOpen = true ↔ t.isOpen = true ∧ .close ∉ calls := by
  induction calls generalizing t with
  | nil => simp [run]
  | cons c calls ih =>
    rw [run_cons, ih]
    cases c with
    | advance =>
      have hkept : t.advance.2.isOpen = t.isOpen := by
        have ha := advanced_advance t
        generalize t.advance = r at ha ⊢
        cases ha <;> rfl
      show t.advance.2.isOpen = true ∧ _ ↔ _
      simp [hkept]
    | current => simp [perform]
    | error => simp [perform]
    | close =>
      have hclosed : t.close.isOpen = false := by
        unfold ChannelSource.close
        split <;> simp_all
      show t.close.isOpen = true ∧ _ ↔ _
      simp [hclosed]

/-- A source over a receiver answers as one over an iterator does and asks for as much. But it keeps
the receiver until it is closed, and the other lets the iterator go when that is at its end. -/
theorem run_ofReceiver (receiver : ι) (calls : List Call) :
    let iterating := run calls (.ofSupply receiver : SupplySource ι α)
    let receiving := run calls (.ofReceiver receiver : ChannelSource ι α)
    receiving.1 = iterating.1 ∧ receiving.2.receiver = iterating.2.supply ∧
      (receiving.2.isOpen = true ↔ .close ∉ calls) ∧
      (iterating.2.isLive = true ↔ .close ∉ calls ∧ error receiving.2 = none) := by
  intro iterating receiving
  obtain ⟨hanswers, h⟩ := bisimulation.run (alike_start (α := α) receiver) calls
  have hopen : receiving.2.isOpen = true ↔ .close ∉ calls :=
    (isOpen_run calls (.ofReceiver receiver)).trans (and_iff_right rfl)
  refine ⟨hanswers.symm, h.supply.symm, hopen, ?_⟩
  rw [h.isLive, Bool.and_eq_true, hopen, Option.isNone_iff_eq_none]
  rfl

end ChannelSource
end PullStreams
