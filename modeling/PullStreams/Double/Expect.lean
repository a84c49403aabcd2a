import PullStreams.Consume

namespace PullStreams.Double

inductive Unmet (α : Type u) where
  | length (expected actual : List α)
  | item (index : Nat) (wanted found : α) (expected actual : List α)
  | failed (e : StreamFault)
  | notClosed (e : StreamFault)
  | endedWell (items : List α)

namespace Unmet
variable {α : Type u}

def showList (item : α → String) (items : List α) : String :=
  "[" ++ ", ".intercalate (items.map item) ++ "]"

def unequal (explanation left right : String) : String :=
  s!"assertion \x60left == right\x60 failed: {explanation}\n  left: {left}\n right: {right}"

def message (item : α → String) : Unmet α → String
  | .length expected actual =>
    unequal
      (s!"Collection length mismatch:\n  Expected length: {expected.length}\n" ++
        s!"  Actual length: {actual.length}\n  Expected: {showList item expected}\n" ++
        s!"  Actual: {showList item actual}")
      s!"{actual.length}" s!"{expected.length}"
  | .item index wanted found expected actual =>
    unequal
      (s!"Collection mismatch at index {index}:\n  Expected: {item wanted}\n" ++
        s!"  Actual: {item found}\n  Full expected: {showList item expected}\n" ++
        s!"  Full actual: {showList item actual}")
      (item found) (item wanted)
  | .failed e => s!"Stream failed: {e.message}"
  | .notClosed e => s!"Stream failed to close: {e.message}"
  | .endedWell items =>
    s!"Expected stream to fail, but it ended cleanly after {showList item items}"

end Unmet

variable {α : Type u}

/-- Lengths are compared first, then items up to the first that differs. -/
def expectEqual [BEq α] (actual expected : List α) : Except (Unmet α) Unit :=
  if actual.length ≠ expected.length then .error (.length expected actual)
  else
    match ((actual.zip expected).zipIdx).find? fun ((a, e), _) => !(a == e) with
    | some ((a, e), index) => .error (.item index e a expected actual)
    | none => .ok ()

def expectItems {σ : Type v} [Source σ α] [FiniteSource σ] [BEq α] (s : σ) (expected : List α) :
    Except (Unmet α) Unit :=
  match Source.collect s with
  | (.error e, _) => .error (.failed e)
  | (.ok actual, s) =>
    match expectEqual actual expected with
    | .error unmet => .error unmet
    | .ok () => (Source.close s).1.mapError .notClosed

def expectFailure {σ : Type v} [Source σ α] [FiniteSource σ] (s : σ) :
    Except (Unmet α) (List α × StreamFault) :=
  let (items, s) := Source.drain s
  match failure? (Source.error s) with
  | some e => .ok (items, e)
  | none => .error (.endedWell items)

end PullStreams.Double
