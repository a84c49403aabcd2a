import PullStreams.Double.Cursor
import PullStreams.Proofs.Outcome
import PullStreams.Proofs.Source.Received
import PullStreams.Source.Listed

namespace PullStreams
open Source

namespace ListSource
variable {α : Type u} [Inhabited α]

theorem reads (xs rest : List α) (slot : Option α) :
    ∃ t, Reads ({ items := xs ++ rest, slot } : ListSource α) xs t := by
  induction xs generalizing slot with
  | nil => exact ⟨_, .nil _⟩
  | cons a xs ih =>
    obtain ⟨t, ht⟩ := ih (some a)
    have ha : advance ({ items := a :: (xs ++ rest), slot } : ListSource α) =
        (true, { items := xs ++ rest, slot := some a }) := rfl
    exact ⟨t, .cons ha ht⟩

theorem denotes (items : List α) (ending : StreamFault) :
    Denotes (failing items ending) ⟨items, failure? (some ending)⟩ := by
  suffices hs : ∀ slot, Denotes ({ items, ending, slot } : ListSource α)
      ⟨items, failure? (some ending)⟩ from hs none
  induction items with
  | nil => exact fun slot => ⟨_, .stop rfl, rfl⟩
  | cons a rest ih =>
    intro slot
    obtain ⟨t, hd, he⟩ := ih (some a)
    have ha : advance { items := a :: rest, ending, slot } =
        (true, { items := rest, ending, slot := some a }) := rfl
    exact ⟨t, .item ha hd, he⟩

end ListSource

namespace Supply
variable {ι : Type u} {α : Type v} [Supply ι α]

structure Ahead (ι : Type u) where
  state : ι

instance [FiniteSupply ι] : WellFoundedRelation (Ahead ι) :=
  invImage Ahead.state ⟨_, FiniteSupply.wf⟩

def toList {ι : Type u} {α : Type v} [Supply ι α] [FiniteSupply ι] (s : ι) : List α :=
  match _h : next s with
  | (none, _) => []
  | (some a, t) => a :: toList t
termination_by Ahead.mk s
decreasing_by exact ⟨a, _h⟩

theorem toList_of_none [FiniteSupply ι] {s t : ι} (h : next s = (none, t)) : toList s = [] := by
  rw [toList]
  split <;> simp_all

theorem toList_of_some [FiniteSupply ι] {s t : ι} {a : α} (h : next s = (some a, t)) :
    toList s = a :: toList t := by
  rw [toList]
  split <;> simp_all

theorem toList_channel (queue : List α) : toList (⟨queue⟩ : Channel α) = queue := by
  induction queue with
  | nil => exact toList_of_none rfl
  | cons a rest ih =>
    rw [toList_of_some (t := (⟨rest⟩ : Channel α)) rfl, ih]

end Supply

namespace SupplySource
variable {ι : Type u} {α : Type v} [Supply ι α] {s : SupplySource ι α} {t : ι}

theorem advance_of_none (hl : s.isLive = true) (h : Supply.next s.supply = (none, t)) :
    s.advance = (false, { supply := t, isLive := false, stopped := some .ended }) := by
  simp [advance, hl, h]

theorem advance_of_some (hl : s.isLive = true) {a : α} (h : Supply.next s.supply = (some a, t)) :
    s.advance = (true, { s with supply := t, slot := some a }) := by
  simp [advance, hl, h]

theorem denotes [FiniteSupply ι] [Inhabited α] (supply : ι) :
    Denotes (ofSupply supply) ⟨Supply.toList supply, none⟩ := by
  suffices hs : ∀ slot, Denotes ({ supply, slot } : SupplySource ι α)
      ⟨Supply.toList supply, none⟩ from hs none
  induction supply using (FiniteSupply.wf (ι := ι)).induction with
  | _ s ih =>
    intro slot
    rcases h : Supply.next s with ⟨next, t⟩
    cases next with
    | none =>
      rw [Supply.toList_of_none h]
      exact ⟨_, .stop (advance_of_none rfl h), rfl⟩
    | some a =>
      obtain ⟨u, hd, he⟩ := ih t ⟨a, h⟩ (some a)
      rw [Supply.toList_of_some h]
      exact ⟨u, .item (advance_of_some rfl h) hd, he⟩

end SupplySource

theorem ChannelSource.denotes {ι : Type u} {α : Type v} [Supply ι α] [FiniteSupply ι] [Inhabited α]
    (receiver : ι) :
    Denotes (ofReceiver receiver : ChannelSource ι α) ⟨Supply.toList receiver, none⟩ := by
  obtain ⟨s, hd, he⟩ := SupplySource.denotes receiver
  obtain ⟨t, ht, halike⟩ := bisimulation.drains (alike_start receiver) hd
  exact ⟨t, ht, (congrArg failure? (bisimulation.error halike)).symm.trans he⟩

namespace Double.ListCursor
variable {ρ : Type u}

def scanFault (index : Nat) : StreamFault := (Report.text s!"cannot scan row {index}").toStreamFault

def closeFault : StreamFault := (Report.text "cursor release failed").toStreamFault

def failingAhead (c : ListCursor ρ) : Option Nat :=
  c.failingRow.filter fun index => c.position ≤ index ∧ index < c.rows.size

/-- The rows before one that fails, or all rows and what closing the cursor says. -/
def outcome (c : ListCursor ρ) : Outcome ρ :=
  match c.failingAhead with
  | some index => ⟨(c.rows.toList.take index).drop c.position, some (scanFault index)⟩
  | none =>
    ⟨c.rows.toList.drop c.position, if c.failsToClose then some closeFault else none⟩

theorem outcome_of_end {c : ListCursor ρ} (h : c.rows.size ≤ c.position) :
    c.outcome = ⟨[], if c.failsToClose then some closeFault else none⟩ := by
  have hf : c.failingAhead = none := by
    rw [failingAhead, Option.filter_eq_none_iff]
    intro index _
    simp only [decide_eq_true_eq]
    omega
  simp [outcome, hf, h]

theorem outcome_of_failing {c : ListCursor ρ} (h : c.position < c.rows.size)
    (hf : c.failingRow = some c.position) : c.outcome = ⟨[], some (scanFault c.position)⟩ := by
  have hf : c.failingAhead = some c.position := by simp [failingAhead, hf, h]
  simp [outcome, hf]

theorem outcome_of_row {c : ListCursor ρ} (h : c.position < c.rows.size)
    (hf : c.failingRow ≠ some c.position) :
    c.outcome =
      { outcome { c with position := c.position + 1 } with
        items := c.rows[c.position] :: (outcome { c with position := c.position + 1 }).items } := by
  have hnext : failingAhead { c with position := c.position + 1 } = c.failingAhead := by
    cases hr : c.failingRow with
    | none => simp [failingAhead, hr]
    | some index =>
      have hne : index ≠ c.position := by
        rintro rfl
        exact hf hr
      have hle : c.position + 1 ≤ index ↔ c.position ≤ index := by omega
      simp only [failingAhead, hr, Option.filter_some, hle]
  simp only [outcome, hnext]
  cases hc : c.failingAhead with
  | none => simp [List.drop_eq_getElem_cons, h]
  | some index =>
    obtain ⟨hr, hi⟩ := Option.filter_eq_some_iff.1 hc
    have hlt : c.position < index := by
      have hne : index ≠ c.position := by
        rintro rfl
        exact hf hr
      simp only [decide_eq_true_eq] at hi
      omega
    have hl : c.position < (c.rows.toList.take index).length := by
      simp only [List.length_take, Array.length_toList]
      omega
    simp [List.drop_eq_getElem_cons hl]

end Double.ListCursor

namespace CursorSource
variable {ρ : Type u} [Inhabited ρ]
open Double

theorem advance_of_end {c : ListCursor ρ} (h : c.rows.size ≤ c.position) (slot : Option ρ) :
    advance { cursor := c, slot } =
      (false,
        { cursor := { c with closes := c.closes + 1 },
          stopped := some (if c.failsToClose then ListCursor.closeFault else .ended),
          isReleased := true }) := by
  have hn : Cursor.hasNext c = (false, c) := by
    simp [Cursor.hasNext, ListCursor.hasNext, h]
  cases hf : c.failsToClose <;>
    simp [advance, hn, release, Cursor.close, ListCursor.close, hf, ListCursor.closeFault]

theorem advance_of_failing {c : ListCursor ρ} (h : c.position < c.rows.size)
    (hf : c.failingRow = some c.position) (slot : Option ρ) :
    advance { cursor := c, slot } =
      (false,
        { cursor := { c with position := c.position + 1 },
          stopped := some (ListCursor.scanFault c.position) }) := by
  simp [advance, Cursor.hasNext, ListCursor.hasNext, h, Cursor.scan, ListCursor.scan, hf,
    ListCursor.scanFault]

theorem advance_of_row {c : ListCursor ρ} (h : c.position < c.rows.size)
    (hf : c.failingRow ≠ some c.position) (slot : Option ρ) :
    advance { cursor := c, slot } =
      (true,
        { cursor := { c with position := c.position + 1 }, slot := some c.rows[c.position] }) := by
  simp [advance, Cursor.hasNext, ListCursor.hasNext, h, Cursor.scan, ListCursor.scan, hf]

theorem denotes (c : ListCursor ρ) : Denotes (ofCursor c) c.outcome := by
  suffices hs : ∀ slot, Denotes ({ cursor := c, slot } : CursorSource (ListCursor ρ)) c.outcome from
    hs none
  -- The induction is on the rows ahead of the cursor.
  induction hn : c.rows.size - c.position generalizing c with
  | zero =>
    intro slot
    have h : c.rows.size ≤ c.position := by omega
    rw [ListCursor.outcome_of_end h]
    refine ⟨_, .stop (advance_of_end h slot), ?_⟩
    cases c.failsToClose <;> rfl
  | succ n ih =>
    intro slot
    have h : c.position < c.rows.size := by omega
    by_cases hf : c.failingRow = some c.position
    · rw [ListCursor.outcome_of_failing h hf]
      exact ⟨_, .stop (advance_of_failing h hf slot), rfl⟩
    · obtain ⟨t, hd, he⟩ := ih { c with position := c.position + 1 }
        (by simp only; omega) (some c.rows[c.position])
      rw [ListCursor.outcome_of_row h hf]
      exact ⟨t, .item (advance_of_row h hf slot) hd, he⟩

end CursorSource
end PullStreams
