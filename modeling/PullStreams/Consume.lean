import PullStreams.Source

namespace PullStreams.Source
variable {σ : Type u} {α : Type v} [Source σ α] {β : Type w}

/-- Reads on to the end, and gives the tally unless the source failed. -/
def fold (f : β → α → β) (tally : β) (s : σ) [Ends s] : Except StreamFault β × σ :=
  match sweep (fun tally t => (.ok (f tally (current t)) : Except Empty β)) tally s with
  | (.error e, _) => nomatch e
  | (.ok tally, t) =>
    match failure? (error t) with
    | some e => (.error e, t)
    | none => (.ok tally, t)

/-- The items in order, whatever ends them. -/
def drain (s : σ) [Ends s] : List α × σ :=
  match sweep (fun items t => (.ok (current t :: items) : Except Empty (List α))) [] s with
  | (.error e, _) => nomatch e
  | (.ok items, t) => (items.reverse, t)

/-- The items in order, unless the source failed. -/
def collect (s : σ) [Ends s] : Except StreamFault (List α) × σ :=
  let (items, t) := drain s
  match failure? (error t) with
  | some e => (.error e, t)
  | none => (.ok items, t)

/-- The items at which the error slot is empty. -/
def collectUnflagged (s : σ) [Ends s] : List α × σ :=
  let visit (items : List α) (t : σ) : Except Empty (List α) :=
    .ok (if (error t).isNone then current t :: items else items)
  match sweep visit [] s with
  | (.error e, _) => nomatch e
  | (.ok items, t) => (items.reverse, t)

end PullStreams.Source
