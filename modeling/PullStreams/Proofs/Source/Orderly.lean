import PullStreams.Csv.Source
import PullStreams.Json.Lines
import PullStreams.Proofs.Relay
import PullStreams.Proofs.Slot
import PullStreams.Proofs.Source.Cursor
import PullStreams.Source.Lines
import PullStreams.Source.Listed
import PullStreams.Source.Supplied

namespace PullStreams
open Source History

namespace ListSource
variable {α : Type u} [Inhabited α]

theorem slotted :
    Slotted (slot (α := α)) (fun s : ListSource α => s.isClosed || s.stopped.isSome) where
  current _ := rfl
  step s := by
    show SlotStep _ _ s s.advance
    unfold advance
    split
    · exact .stop rfl ‹_›
    · rename_i hd
      split
      · exact .item (by simpa using hd) (by simpa using hd) rfl
      · exact .stop rfl (Bool.or_true _)
  close s hn := by
    show s.close.slot = none ∧ (s.close.isClosed || s.close.stopped.isSome) = true
    unfold close
    by_cases hc : s.isClosed = true
    · rw [if_pos hc]
      exact ⟨hn (by simp [hc]), by simp [hc]⟩
    · rw [if_neg hc]
      exact ⟨rfl, rfl⟩

theorem orderly (items : List α) (ending : StreamFault) :
    Orderly ⟨failing items ending, false, false⟩ :=
  slotted.orderly rfl rfl

end ListSource

namespace SupplySource
variable {ι : Type u} {α : Type v} [Supply ι α] [Inhabited α]

theorem slotted : Slotted (fun s : SupplySource ι α => s.slot) (fun s => !s.isLive) where
  current _ := rfl
  step s := by
    show SlotStep _ _ s s.advance
    unfold advance
    split
    · rename_i hl
      split
      · exact .item (by simp [hl]) (by simp [hl]) rfl
      · exact .stop rfl rfl
    · rename_i hl
      exact .stop rfl (by simpa using hl)
  close _ _ := ⟨rfl, rfl⟩

theorem orderly (supply : ι) : Orderly ⟨(ofSupply supply : SupplySource ι α), false, false⟩ :=
  slotted.orderly rfl rfl

end SupplySource

namespace ChannelSource
variable {ι : Type u} {α : Type v} [Supply ι α] [Inhabited α]

theorem slotted :
    Slotted (fun s : ChannelSource ι α => s.slot) (fun s => s.stopped.isSome || !s.isOpen) where
  current _ := rfl
  step s := by
    show SlotStep _ _ s s.advance
    have ha := advanced_advance s
    generalize s.advance = r at ha ⊢
    cases ha with
    | done h => exact .stop rfl h
    | item ho hs => exact .item (by simp [ho, hs]) (by simp [ho, hs]) rfl
    | ended => exact .stop rfl rfl
  close s hn := by
    show s.close.slot = none ∧ (s.close.stopped.isSome || !s.close.isOpen) = true
    unfold close
    by_cases ho : s.isOpen = true
    · simp [ho]
    · have hd : (s.stopped.isSome || !s.isOpen) = true := by simpa using Or.inr ho
      simp [ho, hn hd]

theorem orderly (receiver : ι) :
    Orderly ⟨(ofReceiver receiver : ChannelSource ι α), false, false⟩ :=
  slotted.orderly rfl rfl

end ChannelSource

namespace CursorSource
variable {γ ρ : Type u} [Cursor γ ρ] [Inhabited ρ]

theorem slotted : Slotted (slot (γ := γ)) isDone where
  current _ := rfl
  step s := by
    show SlotStep _ _ s s.advance
    have hs := advanced_advance s
    generalize s.advance = r at hs ⊢
    cases hs with
    | done h => exact .stop rfl h
    | row h => exact .item h h rfl
    | unscanned => exact .stop rfl (Bool.or_true _)
    | released => exact .stop rfl (Bool.or_true _)
  close s hn := by
    show s.close.2.slot = none ∧ isDone s.close.2 = true
    have hs := closed_close s
    generalize s.close = r at hs ⊢
    cases hs with
    | again h =>
      have hd : s.isDone = true := by simp [isDone, h]
      exact ⟨hn hd, hd⟩
    | released => exact ⟨rfl, rfl⟩
    | release => exact ⟨rfl, rfl⟩

theorem orderly (cursor : γ) : Orderly ⟨ofCursor cursor, false, false⟩ :=
  slotted.orderly rfl rfl

end CursorSource

namespace LineSource
variable {ρ : Type u} [ByteReader ρ] [Line.FiniteLines ρ]

theorem slotted : Slotted (slot (ρ := ρ)) (fun s => s.stopped.isSome || !s.isOpen) where
  current _ := rfl
  step s := by
    show SlotStep _ _ s s.advance
    have ha := advanced_advance s
    generalize s.advance = r at ha ⊢
    cases ha with
    | done h => exact .stop rfl (by simpa using h)
    | item ho hs => exact .item (by simp [ho, hs]) (by simp [ho, hs]) rfl
    | ended => exact .stop rfl rfl
    | refused => exact .stop rfl rfl
    | failed => exact .stop rfl rfl
  close s hn := by
    show (if s.isOpen then { s with isOpen := false, slot := none } else s).slot = none ∧ _
    by_cases ho : s.isOpen = true
    · simp [Source.close, ho]
    · have hd : (s.stopped.isSome || !s.isOpen) = true := by simpa using Or.inr ho
      simp [Source.close, ho, hn hd]

theorem orderly (reader : ρ) : Orderly ⟨ofReader reader, false, false⟩ :=
  slotted.orderly rfl rfl

end LineSource

namespace Csv.RowsSource
variable {ρ : Type u} [ByteReader ρ] {β : Type v} [Inhabited β] {sep : Separator}
  [RowReader.FiniteRows sep ρ] {decode : RowDecoder β}

theorem slotted :
    Slotted (fun s : RowsSource ρ sep decode => s.slot) (fun s => s.stopped.isSome || !s.isOpen)
    where
  current _ := rfl
  step s := by
    show SlotStep _ _ s s.advance
    unfold advance
    split
    · exact .stop rfl ‹_›
    · rename_i hd
      split
      · exact .stop rfl rfl
      · exact .stop rfl rfl
      · simp only
        split
        · exact .item (by simpa using hd) (by simpa using hd) rfl
        · exact .stop rfl rfl
  close s hn := by
    show (if s.isOpen then { s with isOpen := false, slot := none } else s).slot = none ∧ _
    by_cases ho : s.isOpen = true
    · simp [Source.close, ho]
    · have hd : (s.stopped.isSome || !s.isOpen) = true := by simpa using Or.inr ho
      simp [Source.close, ho, hn hd]

omit [Inhabited β] in
/-- A header that is read at once is not an item. -/
theorem slot_stopped_ofReader (hasHeaders : Bool) (reader : ρ) :
    (ofReader hasHeaders reader : RowsSource ρ sep decode).slot = none ∧
      (ofReader hasHeaders reader : RowsSource ρ sep decode).stopped = none := by
  unfold ofReader
  split
  · split <;> exact ⟨rfl, rfl⟩
  · exact ⟨rfl, rfl⟩

theorem orderly (hasHeaders : Bool) (reader : ρ) :
    Orderly ⟨(ofReader hasHeaders reader : RowsSource ρ sep decode), false, false⟩ :=
  slotted.orderly (slot_stopped_ofReader hasHeaders reader).1
    (slot_stopped_ofReader hasHeaders reader).2

end Csv.RowsSource

namespace Json.LinesSource
variable {ρ : Type u} [ByteReader ρ] [Line.FiniteLines ρ] {β : Type v} [Inhabited β]
  {decode : String → Except Fault β} {skipsBlank : Bool}
  [SweepsEnd (LineSource ρ) (visit decode skipsBlank)]

omit [Inhabited β] in
/-- The lines are read to one that is a value, or that cannot be read, or to their stop. -/
theorem advance_cases {s : LinesSource ρ decode skipsBlank} (hs : s.stopped = none) :
    (∃ xs t b, Reads s.lines (xs ++ [Source.current t]) t ∧
      s.advance = (true, { lines := t, slot := some b })) ∨
    (∃ xs t e, Reads s.lines (xs ++ [Source.current t]) t ∧
      s.advance = (false, { lines := t, stopped := some e })) ∨
    ∃ xs t, Drains s.lines xs t ∧ s.advance = (false, { lines := t }) := by
  unfold advance
  rw [if_neg (by simp [hs])]
  match h : Source.sweep (visit decode skipsBlank) () s.lines with
  | (.error (.ok b), t) =>
    obtain ⟨xs, hr⟩ := reads_of_sweep_eq_error h
    exact .inl ⟨xs, t, b, hr, rfl⟩
  | (.error (.error e), t) =>
    obtain ⟨xs, hr⟩ := reads_of_sweep_eq_error h
    exact .inr (.inl ⟨xs, t, e, hr, rfl⟩)
  | (.ok (), t) =>
    obtain ⟨xs, hd⟩ := drains_of_sweep_eq_ok h
    exact .inr (.inr ⟨xs, t, hd, rfl⟩)

omit [Inhabited β] in
theorem advance_of_stopped {s : LinesSource ρ decode skipsBlank} {e : StreamFault}
    (hs : s.stopped = some e) : s.advance = (false, { s with slot := none }) := by
  simp [advance, hs]

theorem relays :
    Relays (lines : LinesSource ρ decode skipsBlank → LineSource ρ) stopped
      (fun s => s.slot = none) where
  current {s} hn := by
    show s.slot.getD default = default
    rw [hn]
    rfl
  error _ := rfl
  step s := by
    show RelayStep _ _ _ s s.advance
    cases hs : s.stopped with
    | some e =>
      rw [advance_of_stopped hs]
      exact .rest (by simp [hs]) rfl rfl rfl
    | none =>
      rcases advance_cases hs with ⟨xs, t, b, hr, ha⟩ | ⟨xs, t, e, hr, ha⟩ | ⟨xs, t, hd, ha⟩
      · rw [ha]
        exact .item hs hr (by simp) rfl
      · rw [ha]
        exact .fail hs hr (by simp) (Option.some_ne_none _) rfl
      · rw [ha]
        exact .stop hs hd rfl
  close _ := ⟨rfl, rfl⟩

theorem orderly (reader : ρ) :
    Orderly ⟨(ofReader reader : LinesSource ρ decode skipsBlank), false, false⟩ :=
  relays.orderly rfl rfl (LineSource.orderly reader)

end Json.LinesSource
end PullStreams
