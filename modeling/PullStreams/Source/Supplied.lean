import PullStreams.Source

namespace PullStreams

class Supply (ι : Type u) (α : outParam (Type v)) where
  next : ι → Option α × ι

/-- No supply of the type lasts for ever. -/
class FiniteSupply (ι : Type u) {α : outParam (Type v)} [Supply ι α] : Prop where
  wf : WellFounded fun t s : ι => ∃ a, Supply.next s = (some a, t)

theorem FiniteSupply.of_size {ι : Type u} {α : Type v} [Supply ι α] (size : ι → Nat)
    (h : ∀ (s t : ι) (a : α), Supply.next s = (some a, t) → size t < size s) : FiniteSupply ι :=
  ⟨Subrelation.wf (fun {t s} ⟨a, e⟩ => h s t a e) (InvImage.wf size Nat.lt_wfRel.wf)⟩

/-- A source over an iterator, which it lets go when it is closed or when there is no more. -/
structure SupplySource (ι : Type u) (α : Type v) where
  supply : ι
  isLive : Bool := true
  slot : Option α := none
  stopped : Option StreamFault := none

namespace SupplySource
variable {ι : Type u} {α : Type v}

def ofSupply [Supply ι α] (supply : ι) : SupplySource ι α := { supply }

def advance [Supply ι α] (s : SupplySource ι α) : Bool × SupplySource ι α :=
  if s.isLive then
    match Supply.next s.supply with
    | (some a, supply) => (true, { s with supply, slot := some a })
    | (none, supply) => (false, { supply, isLive := false, slot := none, stopped := some .ended })
  else (false, { s with slot := none })

instance [Supply ι α] [Inhabited α] : Source (SupplySource ι α) α where
  advance := advance
  current s := s.slot.getD default
  error s := s.stopped
  close s := (.ok (), { s with isLive := false, slot := none })

theorem next_of_advance [Supply ι α] {s t : SupplySource ι α} (h : s.advance = (true, t)) :
    ∃ a, Supply.next s.supply = (some a, t.supply) := by
  unfold advance at h
  split at h
  · split at h
    · rename_i a supply hn
      simp at h
      exact ⟨a, h ▸ hn⟩
    · simp at h
  · simp at h

instance [Supply ι α] [FiniteSupply ι] [Inhabited α] : FiniteSource (SupplySource ι α) :=
  .of_wellFounded (InvImage.wf supply FiniteSupply.wf) fun _ _ => next_of_advance

end SupplySource

/-- A source over a receiver, which it keeps until it is closed, also when there is no more. -/
structure ChannelSource (ι : Type u) (α : Type v) where
  receiver : ι
  isOpen : Bool := true
  slot : Option α := none
  stopped : Option StreamFault := none

namespace ChannelSource
variable {ι : Type u} {α : Type v}

def ofReceiver [Supply ι α] (receiver : ι) : ChannelSource ι α := { receiver }

def advance [Supply ι α] (s : ChannelSource ι α) : Bool × ChannelSource ι α :=
  if s.stopped.isSome || !s.isOpen then (false, { s with slot := none })
  else
    match Supply.next s.receiver with
    | (some a, receiver) => (true, { s with receiver, slot := some a })
    | (none, receiver) => (false, { s with receiver, slot := none, stopped := some .ended })

def close (s : ChannelSource ι α) : ChannelSource ι α :=
  if s.isOpen then { s with isOpen := false, slot := none } else s

instance [Supply ι α] [Inhabited α] : Source (ChannelSource ι α) α where
  advance := advance
  current s := s.slot.getD default
  error s := s.stopped
  close s := (.ok (), s.close)

inductive Advanced [Supply ι α] (s : ChannelSource ι α) : Bool × ChannelSource ι α → Prop
  | done (h : (s.stopped.isSome || !s.isOpen) = true) : Advanced s (false, { s with slot := none })
  | item {a : α} {receiver : ι} (ho : s.isOpen = true) (hs : s.stopped = none)
    (hn : Supply.next s.receiver = (some a, receiver)) :
    Advanced s (true, { s with receiver, slot := some a })
  | ended {receiver : ι} (ho : s.isOpen = true) (hs : s.stopped = none)
    (hn : Supply.next s.receiver = (none, receiver)) :
    Advanced s (false, { s with receiver, slot := none, stopped := some .ended })

theorem advanced_advance [Supply ι α] (s : ChannelSource ι α) : Advanced s s.advance := by
  unfold advance
  by_cases hd : (s.stopped.isSome || !s.isOpen) = true
  · rw [if_pos hd]
    exact .done hd
  · rw [if_neg hd]
    have hlive : s.stopped = none ∧ s.isOpen = true := by simpa using hd
    split
    · exact .item hlive.2 hlive.1 ‹_›
    · exact .ended hlive.2 hlive.1 ‹_›

theorem next_of_advance [Supply ι α] {s t : ChannelSource ι α} (h : s.advance = (true, t)) :
    ∃ a, Supply.next s.receiver = (some a, t.receiver) := by
  have ha := advanced_advance s
  rw [h] at ha
  cases ha with
  | item _ _ hn => exact ⟨_, hn⟩

instance [Supply ι α] [FiniteSupply ι] [Inhabited α] : FiniteSource (ChannelSource ι α) :=
  .of_wellFounded (InvImage.wf receiver FiniteSupply.wf) fun _ _ => next_of_advance

end ChannelSource

instance {α : Type u} : Supply (List α) α where
  next
    | [] => (none, [])
    | a :: rest => (some a, rest)

instance {α : Type u} : FiniteSupply (List α) :=
  .of_size List.length fun s t a h => by
    cases s <;> simp_all [Supply.next]

/-- The receiving end of a channel: what was sent is queued until it is received. -/
structure Channel (α : Type u) where
  queue : List α

instance {α : Type u} : Supply (Channel α) α where
  next c :=
    match c.queue with
    | [] => (none, c)
    | a :: rest => (some a, ⟨rest⟩)

instance {α : Type u} : FiniteSupply (Channel α) :=
  .of_size (fun c => c.queue.length) fun ⟨q⟩ ⟨r⟩ a h => by
    cases q <;> simp_all [Supply.next]

def Channel.send {α : Type u} (c : Channel α) (a : α) : Channel α := ⟨c.queue ++ [a]⟩

end PullStreams
