import PullStreams.ByteReader
import PullStreams.Codec.Zstd.Header

namespace PullStreams.Zstd

/-- A run ends when a reader's demand is met, when a piece of the data is used up, or with a frame.
A run that meets a fault hands out nothing. -/
structure Flow where
  /-- What is left to read. -/
  pieces : List Bytes
  demand : Demand
  /-- What was handed out, the last first. -/
  runs : List Bytes := []
  /-- What was made by the run that goes on. -/
  made : Bytes := []

structure Stop where
  fault : Fault
  /-- What was handed out before, the last first. -/
  runs : List Bytes

namespace Flow

def left (f : Flow) : Nat := f.pieces.flatten.length

/-- A run that made nothing goes on. -/
def endRun (f : Flow) : Flow :=
  if f.made.isEmpty then f
  else { f with runs := f.made :: f.runs, made := [], demand := f.demand.after f.made.length }

def stop {α : Type} (fault : Fault) (f : Flow) : Except Stop α := .error ⟨fault, f.runs⟩

def incomplete {α : Type} (f : Flow) : Except Stop α := f.endRun.stop .incomplete

def handOut (bs : Bytes) (f : Flow) : Flow :=
  if _h : bs = [] then f
  else
    let size := max 1 f.demand.size
    handOut (bs.drop size) { f with made := bs.take size }.endRun
termination_by bs.length
decreasing_by
  have := List.length_pos_iff.2 _h
  simp only [List.length_drop]
  omega

/-- Adds to what the run made. What the demand leaves no room for is handed out at once. -/
def make (bs : Bytes) (f : Flow) : Flow :=
  let room := f.demand.size - f.made.length
  if bs.length ≤ room then { f with made := f.made ++ bs }
  else { f with made := f.made ++ bs.take room }.endRun.handOut (bs.drop room)

def take (n : Nat) (f : Flow) : Except Stop (Bytes × Flow) :=
  match _h : f.pieces with
  | [] => if n = 0 then .ok ([], f) else f.incomplete
  | piece :: rest =>
    let part := piece.take n
    if part.length = n then .ok (part, { f with pieces := piece.drop n :: rest })
    else (take (n - part.length) { f.endRun with pieces := rest }).map (·.map (part ++ ·) id)
termination_by f.pieces.length
decreasing_by simp [_h]

def nextPiece (f : Flow) : Flow :=
  if (f.pieces.headD []).isEmpty then
    { f.endRun with pieces := f.pieces.dropWhile (·.isEmpty) }
  else f

def isDone (f : Flow) : Bool := f.pieces.all (·.isEmpty)

@[simp] theorem pieces_endRun (f : Flow) : f.endRun.pieces = f.pieces := by
  unfold endRun
  split <;> rfl

@[simp] theorem left_endRun (f : Flow) : f.endRun.left = f.left := by
  simp [left]

@[simp] theorem pieces_handOut (bs : Bytes) (f : Flow) : (f.handOut bs).pieces = f.pieces := by
  fun_induction handOut bs f with
  | case1 => rfl
  | case2 _ _ _ _ ih => simpa using ih

@[simp] theorem pieces_make (bs : Bytes) (f : Flow) : (f.make bs).pieces = f.pieces := by
  simp only [make]
  split <;> simp

@[simp] theorem left_make (bs : Bytes) (f : Flow) : (f.make bs).left = f.left := by
  simp [left]

theorem left_of_take {n : Nat} {f g : Flow} {bs : Bytes} (h : f.take n = .ok (bs, g)) :
    g.left + n = f.left := by
  fun_induction take n f generalizing bs g with
  | case1 f hf =>
    simp only [Except.ok.injEq, Prod.mk.injEq] at h
    simp [← h.2]
  | case2 => simp [incomplete, stop] at h
  | case3 n f piece rest hp part =>
    rename_i hn
    simp only [Except.ok.injEq, Prod.mk.injEq] at h
    have : (piece.take n).length = n := hn
    simp only [List.length_take] at this
    simp only [← h.2, left, hp, List.flatten_cons, List.length_append, List.length_drop]
    omega
  | case4 n f piece rest hp part hn =>
    rename_i ih
    cases ht : take (n - part.length) { f.endRun with pieces := rest } with
    | error e => simp [ht, Except.map] at h
    | ok p =>
      have := ih ht
      have hn : ¬(piece.take n).length = n := hn
      have hl : part.length = (piece.take n).length := rfl
      simp only [ht, Except.map, Except.ok.injEq, Prod.ext_iff, Prod.map_snd, id] at h
      simp only [left, hp, h.2, List.length_take, List.flatten_cons, List.length_append] at *
      omega

theorem left_nextPiece (f : Flow) : f.nextPiece.left = f.left := by
  have h (pieces : List Bytes) : (pieces.dropWhile (·.isEmpty)).flatten = pieces.flatten := by
    induction pieces with
    | nil => rfl
    | cons piece rest ih => cases piece <;> simp [ih]
  unfold nextPiece
  split <;> simp [left, h]

end Flow
end PullStreams.Zstd
