import PullStreams.Operator.Batch
import PullStreams.Operator.Group

namespace PullStreams

namespace Callback
variable {α : Type u} {κ : Type v} {β : Type w}

def mapList (f : Callback α κ β) : κ → List α → List β
  | _, [] => []
  | memory, a :: rest => (f a memory).1 :: mapList f (f a memory).2 rest

def after (f : Callback α κ β) (memory : κ) (xs : List α) : κ :=
  xs.foldl (fun memory a => (f a memory).2) memory

def filterList (p : Callback α κ Bool) : κ → List α → List α
  | _, [] => []
  | memory, a :: rest =>
    match p a memory with
    | (true, memory) => a :: filterList p memory rest
    | (false, memory) => filterList p memory rest

def filterMapList (f : Callback α κ (Option β)) : κ → List α → List β
  | _, [] => []
  | memory, a :: rest =>
    match f a memory with
    | (some b, memory) => b :: filterMapList f memory rest
    | (none, memory) => filterMapList f memory rest

/-- The results before the first failure, and that failure. -/
def attemptList (f : Callback α κ (Except Report β)) : κ → List α → List β × Option Report
  | _, [] => ([], none)
  | memory, a :: rest =>
    match f a memory with
    | (.ok b, memory) => (attemptList f memory rest).map (b :: ·) id
    | (.error e, _) => ([], some e)

def keyed {ξ : Type x} (key : Callback α κ ξ) : Callback α κ (ξ × α) :=
  fun a memory => (key a memory).map (·, a) id

@[simp] theorem after_nil (f : Callback α κ β) (memory : κ) : f.after memory [] = memory := rfl

@[simp] theorem after_cons (f : Callback α κ β) (memory : κ) (a : α) (xs : List α) :
    f.after memory (a :: xs) = f.after (f a memory).2 xs := rfl

theorem mapList_append (f : Callback α κ β) (memory : κ) (xs ys : List α) :
    f.mapList memory (xs ++ ys) = f.mapList memory xs ++ f.mapList (f.after memory xs) ys := by
  induction xs generalizing memory with
  | nil => rfl
  | cons a xs ih => simp [mapList, ih]

theorem length_mapList (f : Callback α κ β) (memory : κ) (xs : List α) :
    (f.mapList memory xs).length = xs.length := by
  induction xs generalizing memory with
  | nil => rfl
  | cons a xs ih => rw [mapList, List.length_cons, List.length_cons, ih]

theorem after_keyed {ξ : Type x} (key : Callback α κ ξ) (memory : κ) (xs : List α) :
    key.keyed.after memory xs = key.after memory xs := rfl

theorem after_append (f : Callback α κ β) (memory : κ) (xs ys : List α) :
    f.after memory (xs ++ ys) = f.after (f.after memory xs) ys :=
  List.foldl_append

theorem mapList_keyed_append {ξ : Type x} {key : Callback α κ ξ} {memory memory' : κ}
    {xs : List α} {k : ξ} {a : α} (hk : key a (key.after memory xs) = (k, memory'))
    (ys : List α) :
    key.keyed.mapList memory (xs ++ [a] ++ ys) =
      key.keyed.mapList memory xs ++ (k, a) :: key.keyed.mapList memory' ys := by
  rw [List.append_assoc, mapList_append, after_keyed]
  simp [mapList, keyed, hk]

theorem map_snd_keyed {ξ : Type x} (key : Callback α κ ξ) (memory : κ) (xs : List α) :
    (key.keyed.mapList memory xs).map (·.2) = xs := by
  induction xs generalizing memory with
  | nil => rfl
  | cons a xs ih => simp [mapList, keyed, ih]

end Callback

namespace Batch
variable {α : Type u}

/-- The list in pieces of `size`, the last maybe shorter; a size of zero counts as one. -/
def chunks (size : Nat) : List α → List (List α)
  | [] => []
  | a :: rest => (a :: rest.take (size - 1)) :: chunks size (rest.drop (size - 1))
termination_by xs => xs.length
decreasing_by simp only [List.length_drop, List.length_cons]; omega

theorem chunks_append {size : Nat} {xs : List α} (h : xs.length = max size 1) (ys : List α) :
    chunks size (xs ++ ys) = xs :: chunks size ys := by
  cases xs with
  | nil => simp at h; omega
  | cons a xs =>
    have hl : xs.length = size - 1 := by simp only [List.length_cons] at h; omega
    rw [List.cons_append, chunks]
    simp [← hl]

theorem chunks_of_length_le {size : Nat} {xs : List α} (hne : xs ≠ [])
    (h : xs.length ≤ max size 1) : chunks size xs = [xs] := by
  cases xs with
  | nil => exact absurd rfl hne
  | cons a xs =>
    have hl : xs.length ≤ size - 1 := by simp only [List.length_cons] at h; omega
    rw [chunks, List.take_of_length_le hl, List.drop_of_length_le hl, chunks]

example : chunks 2 [1, 2, 3, 4, 5] = [[1, 2], [3, 4], [5]] := by cbv

end Batch

namespace Group
variable {α : Type u} {ξ : Type v} [BEq ξ]

def runs : List (ξ × α) → List (List α)
  | [] => []
  | (k, a) :: rest =>
    (a :: (rest.takeWhile (·.1 == k)).map (·.2)) :: runs (rest.dropWhile (·.1 == k))
termination_by xs => xs.length
decreasing_by
  have := (List.dropWhile_suffix (l := rest) (·.1 == k)).length_le
  simp only [List.length_cons]
  omega

/-- A run goes on for as long as the keys are that of its first item. -/
theorem runs_append {k : ξ} (a : α) {xs : List (ξ × α)} (h : ∀ x ∈ xs, (x.1 == k) = true)
    (rest : List (ξ × α)) (hr : ∀ next ∈ rest.head?, (next.1 == k) = false) :
    runs ((k, a) :: (xs ++ rest)) = (a :: xs.map (·.2)) :: runs rest := by
  have ht : rest.takeWhile (·.1 == k) = [] ∧ rest.dropWhile (·.1 == k) = rest := by
    cases rest with
    | nil => exact ⟨rfl, rfl⟩
    | cons next rest =>
      have hn := hr next rfl
      exact ⟨List.takeWhile_cons_of_neg (by simp [hn]), List.dropWhile_cons_of_neg (by simp [hn])⟩
  rw [runs, List.takeWhile_append_of_pos h, List.dropWhile_append_of_pos h, ht.1, ht.2,
    List.append_nil]

example : runs [(1, 'a'), (1, 'b'), (2, 'c'), (1, 'd')] = [['a', 'b'], ['c'], ['d']] := by
  cbv

end Group
end PullStreams
