import PullStreams.Csv.Source
import PullStreams.Double.Cursor
import PullStreams.Json.Lines
import PullStreams.Proofs.Custody
import PullStreams.Proofs.Pipeline.Assembly
import PullStreams.Source.Lines
import PullStreams.Source.Listed
import PullStreams.Source.Supplied

namespace PullStreams
open Source History CursorCall

instance {α : Type} [Inhabited α] : ClosesWell (ListSource α) where
  ok _ := rfl

instance {ι α : Type} [Supply ι α] [Inhabited α] : ClosesWell (SupplySource ι α) where
  ok _ := rfl

instance {ι α : Type} [Supply ι α] [Inhabited α] : ClosesWell (ChannelSource ι α) where
  ok _ := rfl

instance {ρ : Type} [ByteReader ρ] [Line.FiniteLines ρ] : ClosesWell (LineSource ρ) where
  ok _ := rfl

instance {ρ β : Type} [ByteReader ρ] [Line.FiniteLines ρ] [Inhabited β]
    {decode : String → Except Json.Fault β} {skipsBlank : Bool}
    [SweepsEnd (LineSource ρ) (Json.LinesSource.visit decode skipsBlank)] :
    ClosesWell (Json.LinesSource ρ decode skipsBlank) where
  ok _ := rfl

instance {ρ β : Type} [ByteReader ρ] [Inhabited β] {sep : Csv.Separator}
    [Csv.RowReader.FiniteRows sep ρ] {decode : Csv.RowDecoder β} :
    ClosesWell (Csv.RowsSource ρ sep decode) where
  ok _ := rfl

/-- Leaves: a cursor of any type, whose calls are written down, or a source whose closes all go
well, as those over items at hand and over text do. -/
inductive Resource : (σ α : Type) → [Inhabited α] → [Source σ α] → σ → Type 1
  | cursor {γ α : Type} [Inhabited α] [Cursor γ α] (cursor : γ) :
    Resource (CursorSource (LoggedCursor γ)) α (.ofCursor { inner := cursor })
  | other {σ α : Type} [Inhabited α] [Source σ α] [ClosesWell σ] (s : σ) : Resource σ α s

namespace Resource

def logs : {σ α : Type} → [Inhabited α] → [Source σ α] → {s : σ} → Resource σ α s → σ →
    List (List CursorCall)
  | _, _, _, _, _, @cursor _ _ _ _ _, u => [u.cursor.log]
  | _, _, _, _, _, @other _ _ _ _ _ _, _ => []

end Resource

namespace Assembly

def logs : {σ α : Type} → [Inhabited α] → [Source σ α] → {s : σ} → Assembly Resource σ α s → σ →
    List (List CursorCall)
  | _, _, _, _, _, @leaf _ _ _ _ _ _ origin, u => origin.logs u
  | _, _, _, _, _, @map _ _ _ _ _ _ _ _ _ _ _ p, u => p.logs u.inner
  | _, _, _, _, _, @tryMap _ _ _ _ _ _ _ _ _ _ _ p, u => p.logs u.inner
  | _, _, _, _, _, @filter _ _ _ _ _ _ _ _ _ _ p, u => p.logs u.inner
  | _, _, _, _, _, @filterMap _ _ _ _ _ _ _ _ _ _ _ _ p, u => p.logs u.inner
  | _, _, _, _, _, @batch _ _ _ _ _ _ _ p, u => p.logs u.inner
  | _, _, _, _, _, @group _ _ _ _ _ _ _ _ _ _ _ _ p, u => p.logs u.inner
  | _, _, _, _, _, @flatten _ _ _ _ _ _ _ p, u => p.logs u.inner
  | _, _, _, _, _, @concat _ _ _ _ _ _ _ members, u =>
    u.members.flatMap fun m => (members m.1).logs m.2
  | _, _, _, _, _, @boxed _ _ _ _ _ _ p, u => p.logs u
  | _, _, _, _, _, @counted _ _ _ _ _ _ p, u => p.logs u.inner

variable {σ α : Type} [Inhabited α] [Source σ α] {s : σ}

theorem eq_nil_of_mem_logs (a : Assembly Resource σ α s) : ∀ log ∈ a.logs s, log = [] := by
  induction a with
  | leaf origin =>
    intro log hl
    cases origin with
    | cursor c => exact List.mem_singleton.1 hl
    | other s => cases hl
  | concat members ih =>
    intro log hl
    obtain ⟨m, hm, hl⟩ := List.mem_flatMap.1 hl
    obtain ⟨i, -, rfl⟩ := List.mem_map.1 hm
    exact ih i log hl
  | map f memory p ih => exact ih
  | tryMap f memory p ih => exact ih
  | filter p memory q ih => exact ih
  | filterMap f memory p ih => exact ih
  | batch size p ih => exact ih
  | group key memory p ih => exact ih
  | flatten p ih => exact ih
  | boxed p ih => exact ih
  | counted p ih => exact ih

/-- The cursors of a tree are in custody, from the start. -/
theorem inCustody (a : Assembly Resource σ α s) : InCustody a.logs s := by
  induction a with
  | leaf origin =>
    cases origin with
    | cursor c => exact ⟨_, _, CursorSource.custody, rfl, rfl⟩
    | other s => exact ⟨_, _, ClosesWell.custody, trivial⟩
  | concat members ih =>
    choose Open Shut h hs using ih
    refine ⟨_, _, Concat.custody (custody_sigma h), rfl, fun m hm => ?_⟩
    obtain ⟨i, -, rfl⟩ := List.mem_map.1 hm
    exact hs i
  | map f memory p ih => exact ih.of_drives Map.drives (fun _ => rfl) rfl
  | tryMap f memory p ih => exact ih.of_drives TryMap.drives (fun _ => rfl) rfl
  | filter p memory q ih => exact ih.of_drives Filter.drives (fun _ => rfl) rfl
  | filterMap f memory p ih => exact ih.of_drives FilterMap.drives (fun _ => rfl) rfl
  | batch size p ih => exact ih.of_drives Batch.drives (fun _ => rfl) rfl
  | group key memory p ih => exact ih.of_drives Group.drives (fun _ => rfl) rfl
  | flatten p ih => exact ih.of_drives Flatten.drives (fun _ => rfl) rfl
  | boxed p ih => exact ih
  | counted p ih => exact ih.of_drives drives_counted (fun _ => rfl) rfl

/-- Whatever is asked of a pipeline, and in whatever order: each cursor is released at most once,
and the first close sees to those that are left, whichever of them fail. -/
theorem releases_once (a : Assembly Resource σ α s) (calls : List Call) :
    ReleasesOnce a.logs s calls := by
  obtain ⟨Open, Shut, h, hs⟩ := a.inCustody
  exact h.releasesOnce hs a.eq_nil_of_mem_logs calls

/-- Two cursors that both fail to be released, the second of them not reached. -/
theorem releases_once_chain :
    let first : Fin 2 → CursorSource (LoggedCursor (Double.ListCursor Nat)) := fun i =>
      .ofCursor { inner := { rows := #[i.val], failsToClose := true } }
    let start : Concat ((_ : Fin 2) × CursorSource (LoggedCursor (Double.ListCursor Nat))) :=
      .ofList ((List.finRange 2).map fun i => ⟨i, first i⟩)
    let pair : Assembly Resource _ Nat start := .concat fun _ => .leaf (.cursor _)
    let failure : Except Report Unit := .error (.text "cursor release failed")
    let u := (after [.advance] start).state
    pair.logs u = [[.hasNext true, .scan (.ok ())], []] ∧
      pair.logs (close u).2 = [[.hasNext true, .scan (.ok ()), .close failure], [.close failure]] ∧
      (close u).1 = failure.mapError Report.toStreamFault ∧ Call.close ∉ [Call.advance] ∧
      Releases (pair.logs u) (pair.logs (close u).2) (close u).1 := by
  intro first start pair failure u
  have hn : Call.close ∉ [Call.advance] := by decide
  exact ⟨rfl, rfl, rfl, hn, (pair.releases_once [.advance]).releases hn⟩

end Assembly
end PullStreams
