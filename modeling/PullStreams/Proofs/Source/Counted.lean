import Mathlib
import PullStreams.Double.Reader
import PullStreams.Proofs.Answers
import PullStreams.Source.Lines

namespace PullStreams.LineSource
open Source

section Count
variable {ρ : Type u} [ByteReader ρ]

/-- The source has yielded `n` lines. If it stopped at one that is not text, that one is counted. -/
inductive Counted (n : Nat) (s : LineSource ρ) : Prop
  | yielded (hn : s.linesRead = n) (hs : ∀ k e, s.stopped ≠ some (.decode k e))
  | refused (e : Utf8Fault) (hn : s.linesRead = n + 1)
    (hs : s.stopped = some (.decode (n + 1) e))

variable {n : Nat} {s t : LineSource ρ}

omit [ByteReader ρ] in
theorem Counted.of_eq (h : Counted n s) (hn : t.linesRead = s.linesRead)
    (hs : t.stopped = s.stopped) : Counted n t := by
  cases h with
  | yielded hn' hs' => exact .yielded (hn.trans hn') (hs ▸ hs')
  | refused e hn' hs' => exact .refused e (hn.trans hn') (hs.trans hs')

omit [ByteReader ρ] in
theorem Counted.eq_of_live (h : Counted n s) (hs : s.stopped = none) : s.linesRead = n := by
  cases h with
  | yielded hn => exact hn
  | refused e _ he => simp [hs] at he

omit [ByteReader ρ] in
theorem Counted.eq_iff (h : Counted n s) :
    s.linesRead = n ↔ ∀ k e, s.stopped ≠ some (.decode k e) := by
  cases h with
  | yielded hn hs => exact iff_of_true hn hs
  | refused e hn hs => exact iff_of_false (by omega) fun hne => hne _ _ hs

omit [ByteReader ρ] in
theorem Counted.of_decode (h : Counted n s) {k : Nat} {e : Utf8Fault}
    (he : s.stopped = some (.decode k e)) : k = n + 1 ∧ s.linesRead = k := by
  cases h with
  | yielded _ hs => exact absurd he (hs k e)
  | refused e' hn hs =>
    obtain ⟨rfl, -⟩ := by simpa using hs.symm.trans he
    exact ⟨rfl, hn⟩

variable [Line.FiniteLines ρ]

theorem Counted.advance (h : Counted n s) : Counted (n + s.advance.1.toNat) s.advance.2 := by
  have ha := advanced_advance s
  generalize s.advance = r at ha ⊢
  cases ha with
  | done => exact h.of_eq rfl rfl
  | ended _ hs => exact .yielded (h.eq_of_live hs) (by simp)
  | item _ hs => exact .yielded (congrArg (· + 1) (h.eq_of_live hs)) (by simp [hs])
  | @refused _ _ _ e _ hs =>
    have hn := h.eq_of_live hs
    exact .refused e (congrArg (· + 1) hn) (by simp [hn])
  | failed _ hs => exact .yielded (h.eq_of_live hs) (by simp)

theorem Counted.close (h : Counted n s) : Counted n (Source.close s).2 := by
  show Counted n (if s.isOpen then { s with isOpen := false, slot := none } else s)
  split
  · exact h.of_eq rfl rfl
  · exact h

theorem counted_run (reader : ρ) (calls : List Call) :
    Counted (yields (run calls (ofReader reader)).1) (run calls (ofReader reader)).2 := by
  have h := run_counts Counted Counted.advance Counted.close
    (.yielded rfl fun _ _ => by simp [ofReader] : Counted 0 (ofReader reader)) calls
  rwa [Nat.zero_add] at h

/-- After any calls the count is that of the lines yielded unless a line has been refused. The line
that is refused is counted too, and the fault tells its number. -/
theorem linesRead_run (reader : ρ) (calls : List Call) :
    let (answers, t) := run calls (ofReader reader)
    (t.linesRead = yields answers ↔ ∀ k e, error t ≠ some (.decode k e)) ∧
      ∀ k e, error t = some (.decode k e) → k = yields answers + 1 ∧ t.linesRead = k :=
  have h := counted_run reader calls
  ⟨h.eq_iff, fun _ _ => h.of_decode⟩

end Count

/-- The reader is interrupted, and breaks off within the line that is refused. -/
theorem linesRead_run_refused :
    let r : Double.PieceReader :=
      { feed := .ofBytes [0x6F, 0x6B, 0x0A, 0xC3, 0x28, 0x0A, 0x6E] none, piece := some 2,
        interrupts := true }
    let calls : List Call := [.advance, .current, .advance, .error, .advance, .close, .advance]
    let (answers, t) := run calls (ofReader r)
    error t = some (.decode 2 (.invalid 0 1)) ∧ yields answers = 1 ∧ t.linesRead = 2 := by
  intro r calls
  have he : error (run calls (ofReader r)).2 = some (.decode 2 (.invalid 0 1)) := by cbv
  obtain ⟨hk, hn⟩ := (linesRead_run r calls).2 _ _ he
  exact ⟨he, (Nat.succ.inj hk).symm, hn⟩

/-- Of two lines the second is not text: one is yielded, and two are counted. -/
theorem linesRead_exceeds_yields :
    let r : Feed := .ofBytes [0x6F, 0x6B, 0x0A, 0xFF, 0xFE, 0x0A] none
    let (answers, t) := run [.advance, .advance] (ofReader r)
    yields answers = 1 ∧ t.linesRead = 2 := by
  intro r
  have hyields : yields (run [.advance, .advance] (ofReader r)).1 = 1 := by cbv
  have hcount : (run [.advance, .advance] (ofReader r)).2.linesRead = 2 := by cbv
  exact ⟨hyields, hcount⟩

end PullStreams.LineSource
