import PullStreams.Csv.Rows

namespace PullStreams.Csv

abbrev RowDecoder (β : Type u) := Option (List String) → List String → Except RowFault β

/-- The values of rows. With headers, the first row is read when the source is made: it names the
columns, unless it is not text or cannot be read, and in the latter case no row follows. Any fault
ends the source. -/
structure RowsSource (ρ : Type u) {β : Type v} (sep : Separator) (decode : RowDecoder β) where
  rows : RowReader ρ
  names : Option (List String) := none
  /-- The number of fields in the first row. -/
  width : Option Nat := none
  isOpen : Bool := true
  slot : Option β := none
  stopped : Option StreamFault := none

def textsOf (position : Position) (index : Nat) : List Bytes → Except Fault (List String)
  | [] => .ok []
  | field :: rest =>
    match Utf8.decode field with
    | .ok text => (textsOf position (index + 1) rest).map (text :: ·)
    | .error e => .error (.notUtf8 position index e.index)

def valueOf {β : Type v} (decode : RowDecoder β) (names : Option (List String)) (width : Option Nat)
    (position : Position) (row : List Bytes) : Except Fault β :=
  let first := width.getD row.length
  if row.length ≠ first then .error (.unequal (some position) row.length first)
  else
    match textsOf position 0 row with
    | .error e => .error e
    | .ok texts =>
      match decode names texts with
      | .ok b => .ok b
      | .error (field, reason) => .error (.mismatch position field reason)

namespace RowsSource
variable {ρ : Type u} [ByteReader ρ] {β : Type v} {sep : Separator} {decode : RowDecoder β}

section Rows
variable [RowReader.FiniteRows sep ρ]

def ofReader (hasHeaders : Bool) (reader : ρ) : RowsSource ρ sep decode :=
  if hasHeaders then
    match RowReader.next sep { reader } with
    | (.ok (some (position, row)), rows) =>
      { rows, names := (textsOf position 0 row).toOption, width := some row.length }
    | (.ok none, rows) => { rows, names := some [] }
    | (.error _, rows) => { rows }
  else { rows := { reader } }

def advance (s : RowsSource ρ sep decode) : Bool × RowsSource ρ sep decode :=
  if s.stopped.isSome || !s.isOpen then (false, { s with slot := none })
  else
    match s.rows.next sep with
    | (.ok none, rows) => (false, { s with rows, slot := none, stopped := some .ended })
    | (.error e, rows) =>
      (false, { s with rows, slot := none, stopped := some (.csv (.io e.text)) })
    | (.ok (some (position, row)), rows) =>
      let width := some (s.width.getD row.length)
      match valueOf decode s.names s.width position row with
      | .ok b => (true, { s with rows, width, slot := some b })
      | .error e => (false, { s with rows, width, slot := none, stopped := some (.csv e) })

instance [Inhabited β] : Source (RowsSource ρ sep decode) β where
  advance := advance
  current s := s.slot.getD default
  error s := s.stopped
  close s := (.ok (), if s.isOpen then { s with isOpen := false, slot := none } else s)

end Rows

instance [FiniteReader ρ] [Inhabited β] : FiniteSource (RowsSource ρ sep decode) :=
  .of_size (fun s => s.rows.left) fun s t h => by
    change s.advance = (true, t) at h
    unfold advance at h
    split at h
    · simp at h
    · split at h
      · simp at h
      · simp at h
      · rename_i hr
        split at h
        · simp only [Prod.mk.injEq, true_and] at h
          exact h ▸ RowReader.left_of_next hr
        · simp at h

end RowsSource
end PullStreams.Csv
