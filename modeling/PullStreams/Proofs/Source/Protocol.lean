import PullStreams.Double.Cursor
import PullStreams.Proofs.Answers
import PullStreams.Proofs.Source.Cursor
import PullStreams.Proofs.Source.Reading
import PullStreams.Proofs.Source.Received

namespace PullStreams
open Source

/-- After the calls the log is in order, and if one of them was a close nothing is added to it. -/
structure Source.KeepsOrder {σ : Type u} {α : Type v} [Source σ α] {τ : Type w} (log : σ → List τ)
    (InOrder : List τ → Prop) (s : σ) (calls : List Call) : Prop where
  inOrder : InOrder (log (run calls s).2)
  rests : .close ∈ calls → Rests log (run calls s).2

namespace CursorCall

def rows (n : Nat) : List CursorCall :=
  (List.replicate n [hasNext true, scan (.ok ())]).flatten

theorem rows_succ (n : Nat) : rows (n + 1) = rows n ++ [hasNext true, scan (.ok ())] := by
  rw [rows, List.replicate_succ', List.flatten_append, List.flatten_singleton]
  rfl

inductive InOrder : List CursorCall → Bool → Prop
  | reading (n : Nat) : InOrder (rows n) false
  | abandoned (n : Nat) (answer : Except Report Unit) : InOrder (rows n ++ [close answer]) true
  | unscanned (n : Nat) (e : Report) :
    InOrder (rows n ++ [hasNext true, scan (.error e)]) false
  | unscannedReleased (n : Nat) (e : Report) (answer : Except Report Unit) :
    InOrder (rows n ++ [hasNext true, scan (.error e), close answer]) true
  | ended (n : Nat) (answer : Except Report Unit) :
    InOrder (rows n ++ [hasNext false, close answer]) true

theorem closes_rows (n : Nat) : closes (rows n) = 0 := by
  induction n with
  | zero => rfl
  | succ n ih => rw [rows_succ, closes_append, ih]; rfl

theorem InOrder.closes_eq {log : List CursorCall} {released : Bool} (h : InOrder log released) :
    closes log = released.toNat := by
  cases h <;> simp [closes_rows]

end CursorCall

namespace CursorSource
variable {γ ρ : Type u} [Cursor γ ρ]

theorem isReleased_of_live {s : CursorSource γ} (h : s.isDone = false) : s.isReleased = false := by
  simp only [isDone, Bool.or_eq_false_iff] at h
  exact h.1.2

def logged (cursor : γ) : CursorSource (LoggedCursor γ) := ofCursor { inner := cursor }

/-- What the log of the cursor says of the state of the source. -/
inductive Told (s : CursorSource (LoggedCursor γ)) : Prop
  | reading (n : Nat) (h : s.isDone = false) (hl : s.cursor.log = CursorCall.rows n)
  | unscanned (n : Nat) (e : Report) (hs : s.stopped.isSome) (hr : s.isReleased = false)
    (hc : s.isClosed = false)
    (hl : s.cursor.log = CursorCall.rows n ++ [.hasNext true, .scan (.error e)])
  | released (hr : s.isReleased = true) (hl : CursorCall.InOrder s.cursor.log true)

variable {s : CursorSource (LoggedCursor γ)}

theorem Told.inOrder (h : Told s) : CursorCall.InOrder s.cursor.log s.isReleased := by
  cases h with
  | reading n h hl =>
    rw [hl, isReleased_of_live h]
    exact .reading n
  | unscanned n e hs hr hc hl =>
    rw [hl, hr]
    exact .unscanned n e
  | released hr hl =>
    rw [hr]
    exact hl

theorem Told.exists_rows (h : Told s) (hd : s.isDone = false) :
    ∃ n, s.cursor.log = CursorCall.rows n := by
  cases h with
  | reading n _ hl => exact ⟨n, hl⟩
  | unscanned n e hs => simp [isDone, hs] at hd
  | released hr => simp [isDone, hr] at hd

theorem Told.isReleased_of_closed (h : Told s) (hc : s.isClosed = true) : s.isReleased = true := by
  cases h with
  | reading n hd => simp [isDone, hc] at hd
  | unscanned n e hs hr hc' => simp [hc] at hc'
  | released hr => exact hr

/-- The log of a cursor that has not been released, with the release after it. -/
theorem Told.inOrder_close (h : Told s) (hr : s.isReleased = false) (answer : Except Report Unit) :
    CursorCall.InOrder (s.cursor.log ++ [.close answer]) true := by
  cases h with
  | reading n _ hl =>
    rw [hl]
    exact .abandoned n answer
  | unscanned n e _ _ _ hl =>
    rw [hl, List.append_assoc]
    exact .unscannedReleased n e answer
  | released hr' => simp [hr] at hr'

theorem Told.close (h : Told s) : Told s.close.2 := by
  have hs := closed_close s
  generalize s.close = r at hs ⊢
  cases hs with
  | again => exact h
  | released hc hr => exact .released hr (hr ▸ h.inOrder)
  | @release d answer hc hr hd =>
    refine .released rfl ?_
    show CursorCall.InOrder d.log true
    rw [(LoggedCursor.of_close hd).2]
    exact h.inOrder_close hr answer

variable [Inhabited ρ]

theorem Told.advance (h : Told s) : Told s.advance.2 := by
  have hs := advanced_advance s
  generalize s.advance = r at hs ⊢
  cases hs with
  | done =>
    cases h with
    | reading n h hl => exact .reading n h hl
    | unscanned n e hs hr hc hl => exact .unscanned n e hs hr hc hl
    | released hr hl => exact .released hr hl
  | @row c d row hd hn hs =>
    obtain ⟨n, hl⟩ := h.exists_rows hd
    refine .reading (n + 1) hd ?_
    show d.log = _
    rw [(LoggedCursor.of_scan hs).2, (LoggedCursor.of_hasNext hn).2, hl, CursorCall.rows_succ,
      List.append_assoc]
    rfl
  | @unscanned c d row e hd hn hs =>
    obtain ⟨n, hl⟩ := h.exists_rows hd
    have hc : s.isClosed = false := by
      simp only [isDone, Bool.or_eq_false_iff] at hd
      exact hd.1.1
    have hr : s.isReleased = false := isReleased_of_live hd
    refine .unscanned n e rfl hr hc ?_
    show d.log = _
    rw [(LoggedCursor.of_scan hs).2, (LoggedCursor.of_hasNext hn).2, hl, List.append_assoc]
    rfl
  | @released c d answer hd hn hc =>
    obtain ⟨n, hl⟩ := h.exists_rows hd
    refine .released rfl ?_
    show CursorCall.InOrder d.log true
    rw [(LoggedCursor.of_close hc).2, (LoggedCursor.of_hasNext hn).2, hl, List.append_assoc]
    exact .ended n answer

theorem told_run (c : γ) (calls : List Call) : Told (run calls (logged c)).2 :=
  run_induction Told Told.advance Told.close (.reading 0 rfl rfl) calls

/-- A source that is closed leaves its cursor alone. -/
theorem rests_run (s : CursorSource (LoggedCursor γ)) {calls : List Call} (h : .close ∈ calls) :
    (run calls s).2.isClosed = true ∧
      Rests (fun t : CursorSource (LoggedCursor γ) => t.cursor.log) (run calls s).2 := by
  refine rests_of_close (·.isClosed = true) (fun t ht => ?_) (fun t => ?_) h s
  · show t.advance.2.isClosed = true ∧ t.advance.2.cursor.log = _
    rw [advance_of_done (by simp [isDone, ht])]
    exact ⟨ht, rfl⟩
  · have hc := closed_close t
    show t.close.2.isClosed = true ∧ (_ → t.close.2.cursor.log = _)
    generalize t.close = r at hc ⊢
    cases hc with
    | again h => exact ⟨h, fun _ => rfl⟩
    | released h => exact ⟨rfl, fun _ => rfl⟩
    | release h => exact ⟨rfl, fun ht => by simp [h] at ht⟩

end CursorSource

structure LoggedSupply (ι : Type u) (α : Type v) where
  inner : ι
  log : List (Option α) := []

namespace LoggedSupply
variable {ι : Type u} {α : Type v} [Supply ι α]

instance : Supply (LoggedSupply ι α) α where
  next s :=
    let (answer, inner) := Supply.next s.inner
    (answer, { inner, log := s.log ++ [answer] })

theorem log_of_next {s t : LoggedSupply ι α} {answer : Option α}
    (h : Supply.next s = (answer, t)) : t.log = s.log ++ [answer] := by
  obtain ⟨rfl, rfl⟩ := Prod.mk.inj h
  rfl

end LoggedSupply

namespace SupplySource
variable {ι : Type u} {α : Type v} [Supply ι α]

def logged (supply : ι) : SupplySource (LoggedSupply ι α) α := ofSupply { inner := supply }

/-- Items, and then the end if it has come. -/
inductive InOrder : List (Option α) → Prop
  | items (xs : List α) : InOrder (xs.map some)
  | ended (xs : List α) : InOrder (xs.map some ++ [none])

structure Told (s : SupplySource (LoggedSupply ι α) α) : Prop where
  inOrder : InOrder s.supply.log
  live : s.isLive = true → ∃ xs : List α, s.supply.log = xs.map some

variable {s : SupplySource (LoggedSupply ι α) α}

theorem Told.advance (h : Told s) : Told s.advance.2 := by
  cases hl : s.isLive with
  | false =>
    rw [advance_of_over hl]
    exact ⟨h.inOrder, h.live⟩
  | true =>
    obtain ⟨xs, hx⟩ := h.live hl
    rw [SupplySource.advance, if_pos hl]
    rcases hn : Supply.next s.supply with ⟨_ | a, t⟩
    · have ht : t.log = xs.map some ++ [none] := by rw [LoggedSupply.log_of_next hn, hx]
      exact ⟨ht ▸ .ended xs, fun hl => absurd hl Bool.false_ne_true⟩
    · have ht : t.log = (xs ++ [a]).map some := by
        rw [LoggedSupply.log_of_next hn, hx, List.map_append, List.map_singleton]
      exact ⟨ht ▸ .items _, fun _ => ⟨_, ht⟩⟩

variable [Inhabited α]

theorem told_run (supply : ι) (calls : List Call) : Told (run calls (logged supply)).2 :=
  run_induction Told Told.advance
    (fun h => ⟨h.inOrder, fun hl => absurd hl Bool.false_ne_true⟩) ⟨.items [], fun _ => ⟨[], rfl⟩⟩
    calls

theorem rests_run (s : SupplySource (LoggedSupply ι α) α) {calls : List Call}
    (h : .close ∈ calls) :
    Rests (fun t : SupplySource (LoggedSupply ι α) α => t.supply.log) (run calls s).2 := by
  refine (rests_of_close (·.isLive = false) (fun t ht => ?_) (fun t => ⟨rfl, fun _ => rfl⟩) h s).2
  show t.advance.2.isLive = false ∧ t.advance.2.supply.log = _
  rw [advance_of_over ht]
  exact ⟨ht, rfl⟩

end SupplySource

namespace ChannelSource
variable {ι : Type u} {α : Type v} [Supply ι α]

def logged (receiver : ι) : ChannelSource (LoggedSupply ι α) α := ofReceiver { inner := receiver }

variable [Inhabited α]

/-- The log of a receiver is that of an iterator, whose source is asked the same. -/
theorem receiver_run (receiver : ι) (calls : List Call) :
    (run calls (logged receiver)).2.receiver =
      (run calls (SupplySource.logged receiver)).2.supply :=
  (run_ofReceiver _ calls).2.1

theorem keepsOrder (receiver : ι) (calls : List Call) :
    KeepsOrder (·.receiver.log) SupplySource.InOrder (logged receiver) calls where
  inOrder := by
    rw [receiver_run]
    exact (SupplySource.told_run receiver calls).inOrder
  rests h later := by
    have hrests := SupplySource.rests_run (SupplySource.logged receiver) h later
    have hlater : (run later (run calls (logged receiver)).2).2.receiver =
        (run later (run calls (SupplySource.logged receiver)).2).2.supply := by
      simpa only [run_append] using receiver_run receiver (calls ++ later)
    show (run later (run calls (logged receiver)).2).2.receiver.log =
      (run calls (logged receiver)).2.receiver.log
    rw [hlater, receiver_run]
    exact hrests

end ChannelSource

/-- The calls of a cursor, an iterator, a receiver and a reader that sources are made over, whatever
the sources are asked. A cursor has been released once when its source has been closed. -/
theorem sources_keep_order {γ ρ : Type u} [Cursor γ ρ] [Inhabited ρ] {ι κ : Type v} {α β : Type w}
    [Supply ι α] [Inhabited α] [Supply κ β] [Inhabited β] {τ : Type x} [ByteReader τ]
    [Line.FiniteLines τ] (cursor : γ) (supply : ι) (receiver : κ) (reader : τ)
    (calls : List Call) :
    (KeepsOrder (·.cursor.log) (fun log => ∃ released, CursorCall.InOrder log released)
        (CursorSource.logged cursor) calls ∧
      (.close ∈ calls →
        CursorCall.closes (run calls (CursorSource.logged cursor)).2.cursor.log = 1)) ∧
    KeepsOrder (·.supply.log) SupplySource.InOrder (SupplySource.logged supply) calls ∧
    KeepsOrder (·.receiver.log) SupplySource.InOrder (ChannelSource.logged receiver) calls ∧
    KeepsOrder (·.reader.log) Line.InOrder (LineSource.logged reader) calls := by
  refine ⟨⟨⟨⟨_, (CursorSource.told_run cursor calls).inOrder⟩,
      fun h => (CursorSource.rests_run _ h).2⟩, fun h => ?_⟩,
    ⟨(SupplySource.told_run supply calls).inOrder, fun h => SupplySource.rests_run _ h⟩,
    ChannelSource.keepsOrder receiver calls,
    ⟨(LineSource.told_run reader calls).inOrder, fun h => LineSource.rests_run _ h⟩⟩
  have ht := CursorSource.told_run cursor calls
  rw [ht.inOrder.closes_eq, ht.isReleased_of_closed (CursorSource.rests_run _ h).1]
  rfl

/-- A reader that hands out the same line without end. -/
structure Refrain

instance : ByteReader Refrain where
  read _ r := (.ok [104, 105, Line.lf], r)

instance : Line.FiniteLines Refrain where
  wf := ⟨fun s => .intro s fun t h => by
    obtain ⟨bs, hr, -, hlf⟩ | ⟨e, hr, -⟩ := h
    · obtain rfl := Except.ok.inj (Prod.mk.inj hr).1
      exact absurd hlf (by decide)
    · simp [ByteReader.read] at hr⟩

/-- A cursor that fails at its second row, and a reader that never comes to its end. -/
theorem sources_keep_order_failing :
    let cursor : Double.ListCursor Nat := { rows := #[1, 2], failingRow := some 1 }
    let calls : List Call := [.advance, .advance, .advance, .error, .close, .advance, .close]
    (KeepsOrder (·.cursor.log) (fun log => ∃ released, CursorCall.InOrder log released)
        (CursorSource.logged cursor) calls ∧
      (.close ∈ calls →
        CursorCall.closes (run calls (CursorSource.logged cursor)).2.cursor.log = 1)) ∧
    KeepsOrder (·.supply.log) SupplySource.InOrder (SupplySource.logged [3, 5]) calls ∧
    KeepsOrder (·.receiver.log) SupplySource.InOrder
      (ChannelSource.logged (⟨[7]⟩ : Channel Nat)) calls ∧
    KeepsOrder (·.reader.log) Line.InOrder (LineSource.logged ({} : Refrain)) calls :=
  sources_keep_order _ _ _ _ _

end PullStreams
