import PullStreams.Codec.Deflate.Bits

namespace PullStreams.Deflate

inductive Tree where
  | unused
  | leaf (symbol : Nat)
  | node (zero one : Tree)

namespace Tree

def decode : Tree → BitReader → Except Fault (Nat × BitReader)
  | .unused, r => r.refuse
  | .leaf symbol, r => .ok (symbol, r)
  | .node zero one, r =>
    match r.next with
    | .error e => .error e
    | .ok (false, r) => zero.decode r
    | .ok (true, r) => one.decode r

theorem left_of_decode {t : Tree} {r s : BitReader} {symbol : Nat}
    (h : t.decode r = .ok (symbol, s)) : s.left ≤ r.left := by
  fun_induction decode t r with
  | case1 => simp at h
  | case2 => simp_all
  | case3 => simp at h
  | case4 _ _ r u hu ih =>
    have := BitReader.left_of_next hu
    have := ih h
    omega
  | case5 _ _ r u hu ih =>
    have := BitReader.left_of_next hu
    have := ih h
    omega

/-- Hangs symbols, sorted by the lengths of their words, into a tree that starts at `depth`, and
gives back those for which there is no room. No word is longer than `depth + room`. -/
def build (depth : Nat) : Nat → List (Nat × Nat) → Tree × List (Nat × Nat)
  | _, [] => (.unused, [])
  | 0, (_, symbol) :: rest => (.leaf symbol, rest)
  | room + 1, (length, symbol) :: rest =>
    if length ≤ depth then (.leaf symbol, rest)
    else
      let (zero, rest) := build (depth + 1) room ((length, symbol) :: rest)
      let (one, rest) := build (depth + 1) room rest
      (.node zero one, rest)

end Tree

/-- A code has words of at least one bit. -/
structure Code where
  zero : Tree
  one : Tree

namespace Code

def longest : Nat := 15

def sorted (lengths : List Nat) : List (Nat × Nat) :=
  (List.range longest).flatMap fun n => lengths.zipIdx.filter (·.1 = n + 1)

/-- How much of all words the code takes up, a whole being `1 <<< longest`. -/
def weight (words : List (Nat × Nat)) : Nat :=
  words.foldl (fun taken (length, _) => taken + 1 <<< (longest - length)) 0

/-- The words need all the room there is and no more. -/
def IsComplete (words : List (Nat × Nat)) : Prop := weight words = 1 <<< longest

instance (words : List (Nat × Nat)) : Decidable (IsComplete words) :=
  inferInstanceAs (Decidable (_ = _))

def ofWords (words : List (Nat × Nat)) : Code :=
  let (zero, rest) := Tree.build 1 (longest - 1) words
  ⟨zero, (Tree.build 1 (longest - 1) rest).1⟩

def complete? (lengths : List Nat) : Option Code :=
  let words := sorted lengths
  if IsComplete words then some (ofWords words) else none

/-- A code is complete, except that there may be no symbol, or one with a word of one bit. -/
def ofLengths? (lengths : List Nat) : Option Code :=
  let words := sorted lengths
  if IsComplete words ∨ words.map (·.1) ∈ [[], [1]] then some (ofWords words) else none

def decode (c : Code) (r : BitReader) : Except Fault (Nat × BitReader) :=
  (Tree.node c.zero c.one).decode r

theorem left_of_decode {c : Code} {r s : BitReader} {symbol : Nat}
    (h : c.decode r = .ok (symbol, s)) : s.left < r.left := by
  simp only [decode, Tree.decode] at h
  split at h
  · simp at h
  · rename_i hu
    have := BitReader.left_of_next hu
    have := Tree.left_of_decode h
    omega
  · rename_i hu
    have := BitReader.left_of_next hu
    have := Tree.left_of_decode h
    omega

end Code
end PullStreams.Deflate
