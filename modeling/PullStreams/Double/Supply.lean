import PullStreams.Source.Supplied
import PullStreams.Value

namespace PullStreams.Double

structure CountedSupply (ι : Type u) where
  inner : ι
  calls : Nat := 0

instance {ι : Type u} {α : Type v} [Supply ι α] : Supply (CountedSupply ι) α where
  next s := (Supply.next s.inner).map id (⟨·, s.calls + 1⟩)

instance {ι : Type u} {α : Type v} [Supply ι α] [FiniteSupply ι] :
    FiniteSupply (CountedSupply ι) where
  wf := Subrelation.wf
    (fun {t s} ⟨a, h⟩ => by
      simp only [Supply.next, Prod.ext_iff, Prod.map_fst, Prod.map_snd, id] at h
      exact ⟨a, Prod.ext h.1 (by rw [← h.2])⟩)
    (InvImage.wf CountedSupply.inner FiniteSupply.wf)

structure Counter where
  next : Int
  step : Int
  left : Nat

instance : Supply Counter Value where
  next c :=
    match c.left with
    | 0 => (none, c)
    | left + 1 => (some (.int c.next), { c with next := c.next + c.step, left })

instance : FiniteSupply Counter :=
  .of_size Counter.left fun ⟨next, step, left⟩ ⟨_, _, _⟩ a h => by
    cases left <;> simp_all [Supply.next]

end PullStreams.Double
