import PullStreams.Proofs.Pipeline.Assembly
import PullStreams.Proofs.Sealed
import PullStreams.Proofs.Source.Orderly

namespace PullStreams
open Source

/-- The source holds back what `held` says, from `s` on, where it has no error yet. -/
def Source.SealsFrom {σ : Type u} {α : Type v} [Source σ α] (held : σ → Option StreamFault)
    (s : σ) : Prop :=
  ∃ At, Seals held At ∧ At false s ∧ error s = none

theorem Source.Slotted.sealsFrom {σ : Type u} {α : Type v} [Source σ α] [Inhabited α]
    {slot : σ → Option α} {isDone : σ → Bool} (h : Slotted slot isDone) (closed : σ → Prop)
    (hdone : ∀ s, closed s → isDone s = true)
    (hclose : ∀ s, closed (Source.close s).2 ∧ Source.error (Source.close s).2 = Source.error s)
    (hrest : ∀ s, closed s →
      closed (Source.advance s).2 ∧ Source.error (Source.advance s).2 = Source.error s)
    {s : σ} (he : Source.error s = none) : SealsFrom (fun _ => none) s :=
  ⟨_, h.seals closed hdone hclose hrest, ⟨fun _ => he, fun hf => by cases hf⟩, he⟩

section Leaves
variable {α : Type u} [Inhabited α]

theorem ListSource.sealsFrom (items : List α) (ending : StreamFault) :
    SealsFrom (fun _ => none) (failing items ending) := by
  refine slotted.sealsFrom (·.isClosed = true) (fun s hc => by simp [hc]) (fun s => ?_)
    (fun s hc => ?_) rfl
  · show s.close.isClosed = true ∧ s.close.stopped = s.stopped
    unfold close
    split
    · exact ⟨‹_›, rfl⟩
    · exact ⟨rfl, rfl⟩
  · show s.advance.2.isClosed = true ∧ s.advance.2.stopped = s.stopped
    rw [advance, if_pos (by simp [hc])]
    exact ⟨hc, rfl⟩

theorem SupplySource.sealsFrom {ι : Type v} [Supply ι α] (supply : ι) :
    SealsFrom (fun _ => none) (ofSupply supply : SupplySource ι α) := by
  refine slotted.sealsFrom (·.isLive = false) (fun s hl => by simp [hl]) (fun s => ⟨rfl, rfl⟩)
    (fun s hl => ?_) rfl
  show s.advance.2.isLive = false ∧ s.advance.2.stopped = s.stopped
  rw [advance, if_neg (by simp [hl])]
  exact ⟨hl, rfl⟩

theorem ChannelSource.sealsFrom {ι : Type v} [Supply ι α] (receiver : ι) :
    SealsFrom (fun _ => none) (ofReceiver receiver : ChannelSource ι α) := by
  refine slotted.sealsFrom (·.isOpen = false) (fun s ho => by simp [ho]) (fun s => ?_)
    (fun s ho => ?_) rfl
  · show s.close.isOpen = false ∧ s.close.stopped = s.stopped
    unfold close
    split <;> simp_all
  · show s.advance.2.isOpen = false ∧ s.advance.2.stopped = s.stopped
    rw [advance, if_pos (by simp [ho])]
    exact ⟨ho, rfl⟩

theorem CursorSource.sealsFrom {γ : Type u} [Cursor γ α] (cursor : γ) :
    SealsFrom (fun _ => none) (ofCursor cursor) := by
  refine slotted.sealsFrom (·.isClosed = true) (fun s hc => by simp [isDone, hc]) (fun s => ?_)
    (fun s hc => ?_) rfl
  · show s.close.2.isClosed = true ∧ s.close.2.stopped = s.stopped
    have hs := closed_close s
    generalize s.close = r at hs ⊢
    cases hs with
    | again h => exact ⟨h, rfl⟩
    | released => exact ⟨rfl, rfl⟩
    | release => exact ⟨rfl, rfl⟩
  · show s.advance.2.isClosed = true ∧ s.advance.2.stopped = s.stopped
    rw [advance_of_done (by simp [isDone, hc])]
    exact ⟨hc, rfl⟩

variable {ρ : Type v} [ByteReader ρ]

theorem LineSource.sealsFrom [Line.FiniteLines ρ] (reader : ρ) :
    SealsFrom (fun _ => none) (ofReader reader) := by
  refine slotted.sealsFrom (·.isOpen = false) (fun s ho => by simp [ho]) (fun s => ?_)
    (fun s ho => ?_) rfl
  · cases ho : s.isOpen <;> simp [Source.close, Source.error, ho]
  · show s.advance.2.isOpen = false ∧ s.advance.2.stopped = s.stopped
    rw [advance, if_pos (by simp [ho])]
    exact ⟨ho, rfl⟩

theorem Csv.RowsSource.sealsFrom (sep : Separator) [RowReader.FiniteRows sep ρ]
    (decode : RowDecoder α) (hasHeaders : Bool) (reader : ρ) :
    SealsFrom (fun _ => none) (ofReader hasHeaders reader : RowsSource ρ sep decode) := by
  refine slotted.sealsFrom (·.isOpen = false) (fun s ho => by simp [ho]) (fun s => ?_)
    (fun s ho => ?_) (slot_stopped_ofReader hasHeaders reader).2
  · cases ho : s.isOpen <;> simp [Source.close, Source.error, ho]
  · show s.advance.2.isOpen = false ∧ s.advance.2.stopped = s.stopped
    rw [advance, if_pos (by simp [ho])]
    exact ⟨ho, rfl⟩

theorem Json.LinesSource.sealsFrom [Line.FiniteLines ρ] (decode : String → Except Fault α)
    (skipsBlank : Bool) [SweepsEnd (LineSource ρ) (visit decode skipsBlank)] (reader : ρ) :
    SealsFrom (fun _ => none) (ofReader reader : LinesSource ρ decode skipsBlank) := by
  obtain ⟨At, h, hs, he⟩ := LineSource.sealsFrom reader
  have hrelays : Relays (lines : LinesSource ρ decode skipsBlank → LineSource ρ) stopped
      (fun s => s.slot = none) := relays
  have hseals := hrelays.seals h (fun _ => rfl) fun s hn ha => ?_
  · have hnone : (fun s : LinesSource ρ decode skipsBlank => s.stopped.elim none fun _ => none) =
        fun _ => (none : Option StreamFault) := by
      funext s
      cases s.stopped <;> rfl
    exact ⟨_, hnone ▸ hseals, hs, he⟩
  · show s.advance.2.stopped = none
    rw [advance, if_neg (by simp [hn]), sweep_of_stop (Prod.ext ha rfl)]

end Leaves

namespace Assembly

/-- Leaves: the sources over items, iterators, receivers, cursors and text. -/
inductive Origin : (σ α : Type) → [Inhabited α] → [Source σ α] → σ → Type 1
  | list {α : Type} [Inhabited α] (items : List α) (ending : StreamFault) :
    Origin (ListSource α) α (.failing items ending)
  | supply {ι α : Type} [Inhabited α] [Supply ι α] (supply : ι) :
    Origin (SupplySource ι α) α (.ofSupply supply)
  | channel {ι α : Type} [Inhabited α] [Supply ι α] (receiver : ι) :
    Origin (ChannelSource ι α) α (.ofReceiver receiver)
  | cursor {γ α : Type} [Inhabited α] [Cursor γ α] (cursor : γ) :
    Origin (CursorSource γ) α (.ofCursor cursor)
  | lines {ρ : Type} [ByteReader ρ] [Line.FiniteLines ρ] (reader : ρ) :
    Origin (LineSource ρ) String (.ofReader reader)
  | jsonLines {ρ α : Type} [Inhabited α] [ByteReader ρ] [Line.FiniteLines ρ]
    (decode : String → Except Json.Fault α) (skipsBlank : Bool)
    [SweepsEnd (LineSource ρ) (Json.LinesSource.visit decode skipsBlank)] (reader : ρ) :
    Origin (Json.LinesSource ρ decode skipsBlank) α (.ofReader reader)
  | rows {ρ α : Type} [Inhabited α] [ByteReader ρ] (sep : Csv.Separator)
    [Csv.RowReader.FiniteRows sep ρ] (decode : Csv.RowDecoder α) (hasHeaders : Bool) (reader : ρ) :
    Origin (Csv.RowsSource ρ sep decode) α (.ofReader hasHeaders reader)

/-- The failure that the tree has met and not told: that of a window that still has its items to
deliver, as far as it can come up to the root. -/
def held : {σ α : Type} → [Inhabited α] → [Source σ α] → {s : σ} → Assembly Origin σ α s → σ →
    Option StreamFault
  | _, _, _, _, _, @leaf _ _ _ _ _ _ _, _ => none
  | _, _, _, _, _, @map _ _ _ _ _ _ _ _ _ _ _ p, u => p.held u.inner
  | _, _, _, _, _, @tryMap _ _ _ _ _ _ _ _ _ _ _ p, u =>
    u.stopped.elim (p.held u.inner) fun _ => none
  | _, _, _, _, _, @filter _ _ _ _ _ _ _ _ _ _ p, u => p.held u.inner
  | _, _, _, _, _, @filterMap _ _ _ _ _ _ _ _ _ _ _ _ p, u => p.held u.inner
  | _, _, _, _, _, @batch _ _ _ _ _ _ _ p, u => u.ending.untold (p.held u.inner)
  | _, _, _, _, _, @group _ _ _ _ _ _ _ _ _ _ _ _ p, u => u.ending.untold (p.held u.inner)
  | _, _, _, _, _, @flatten _ _ _ _ _ _ _ p, u => p.held u.inner
  | _, _, _, _, _, @concat _ _ _ _ _ _ _ _, _ => none
  | _, _, _, _, _, @boxed _ _ _ _ _ _ p, u => p.held u
  | _, _, _, _, _, @counted _ _ _ _ _ _ p, u => p.held u.inner

variable {σ α : Type} [Inhabited α] [Source σ α] {s : σ}

theorem sealsFrom (a : Assembly Origin σ α s) : SealsFrom a.held s := by
  induction a with
  | leaf origin =>
    cases origin with
    | list items ending => exact ListSource.sealsFrom items ending
    | supply supply => exact SupplySource.sealsFrom supply
    | channel receiver => exact ChannelSource.sealsFrom receiver
    | cursor cursor => exact CursorSource.sealsFrom cursor
    | lines reader => exact LineSource.sealsFrom reader
    | jsonLines decode skipsBlank reader =>
      exact Json.LinesSource.sealsFrom decode skipsBlank reader
    | rows sep decode hasHeaders reader =>
      exact Csv.RowsSource.sealsFrom sep decode hasHeaders reader
  | concat members _ => exact ⟨_, Concat.seals, rfl, rfl⟩
  | map f memory p ih =>
    obtain ⟨At, h, hs, he⟩ := ih
    exact ⟨_, Map.relays.seals h (fun _ => rfl) fun _ _ _ => rfl, hs, he⟩
  | tryMap f memory p ih =>
    obtain ⟨At, h, hs, he⟩ := ih
    refine ⟨_, TryMap.relays.seals h (fun _ => rfl) fun t ht ha => ?_, hs, he⟩
    show t.advance.2.stopped = none
    rw [TryMap.advance_of_stop ht (Prod.ext ha rfl), ← ht]
  | filter p memory q ih =>
    obtain ⟨At, h, hs, he⟩ := ih
    exact ⟨_, Filter.relays.seals h (fun _ => rfl) fun _ _ _ => rfl, hs, he⟩
  | filterMap f memory p ih =>
    obtain ⟨At, h, hs, he⟩ := ih
    exact ⟨_, FilterMap.relays.seals h (fun _ => rfl) fun _ _ _ => rfl, hs, he⟩
  | batch size p ih =>
    obtain ⟨At, h, hs, he⟩ := ih
    exact ⟨_, Window.seals Batch.lawful_window h fun _ => rfl, .start hs he rfl, rfl⟩
  | group key memory p ih =>
    obtain ⟨At, h, hs, he⟩ := ih
    exact ⟨_, Window.seals Group.lawful_window h fun _ => rfl, .start hs he rfl, rfl⟩
  | flatten p ih =>
    obtain ⟨At, h, hs, he⟩ := ih
    exact ⟨_, Flatten.seals h, ⟨hs, fun hne => absurd rfl hne⟩, he⟩
  | boxed p ih => exact ih
  | counted p ih =>
    obtain ⟨At, h, hs, he⟩ := ih
    have hc : Seals (fun u : Double.CountedSource _ => p.held u.inner) _ :=
      h.of_passes passes_counted
    exact ⟨_, hc, hs, he⟩

/-- Whatever is asked of a pipeline before it is closed and after that. -/
theorem sealed_after_close (a : Assembly Origin σ α s) (before later : List Call) :
    Sealed a.held (run before s).2 later := by
  obtain ⟨At, h, hs, -⟩ := a.sealsFrom
  exact h.sealed hs before later

/-- A batch that is closed when it has delivered its last items: the failure after them is told all
the same. -/
theorem error_changes_after_close :
    let late : StreamFault := .ofText "late"
    let start : Batch (ListSource Nat) 3 := { inner := .failing [1] late }
    let tree : Assembly Origin _ (List Nat) start := .batch 3 (.leaf (.list [1] late))
    let u := (run [.advance] start).2
    tree.held u = some late ∧ error (Source.close u).2 = none ∧
      error (run [.advance] (Source.close u).2).2 = some late :=
  ⟨rfl, rfl, rfl⟩

end Assembly
end PullStreams
