namespace PullStreams

structure Deque (α : Type u) where
  front : List α
  /-- The last first. -/
  back : List α
  size : Nat
  size_eq : size = front.length + back.length

namespace Deque
variable {α : Type u}

instance : EmptyCollection (Deque α) := ⟨⟨[], [], 0, rfl⟩⟩

def toList (d : Deque α) : List α := d.front ++ d.back.reverse

def ofList (as : List α) : Deque α := ⟨as, [], as.length, rfl⟩

def push (a : α) (d : Deque α) : Deque α where
  front := d.front
  back := a :: d.back
  size := d.size + 1
  size_eq := by simp [d.size_eq, Nat.add_assoc]

def pushFront (a : α) (d : Deque α) : Deque α where
  front := a :: d.front
  back := d.back
  size := d.size + 1
  size_eq := by simp [d.size_eq, Nat.add_right_comm]

def append (as : List α) (d : Deque α) : Deque α where
  front := d.front
  back := as.reverseAux d.back
  size := d.size + as.length
  size_eq := by simp [d.size_eq, List.reverseAux_eq]; omega

def last? (d : Deque α) : Option α := d.back.head?.or d.front.getLast?

@[simp] theorem toList_empty : (∅ : Deque α).toList = [] := rfl

@[simp] theorem ofList_nil : ofList ([] : List α) = ∅ := rfl

@[simp] theorem toList_ofList (as : List α) : (ofList as).toList = as := by
  simp [ofList, toList]

@[simp] theorem toList_push (a : α) (d : Deque α) : (d.push a).toList = d.toList ++ [a] := by
  simp [push, toList]

@[simp] theorem toList_pushFront (a : α) (d : Deque α) :
    (d.pushFront a).toList = a :: d.toList := by
  simp [pushFront, toList]

@[simp] theorem toList_append (as : List α) (d : Deque α) :
    (d.append as).toList = d.toList ++ as := by
  simp [append, toList, List.reverseAux_eq]

@[simp] theorem length_toList (d : Deque α) : d.toList.length = d.size := by
  simp [toList, d.size_eq]

theorem eq_empty_of_size {d : Deque α} (h : d.size = 0) : d = {} := by
  obtain ⟨front, back, size, hs⟩ := d
  have hs := hs
  simp only at h
  have hf : front = [] := List.length_eq_zero_iff.1 (by omega)
  have hb : back = [] := List.length_eq_zero_iff.1 (by omega)
  subst hf hb h
  rfl

theorem last?_eq (d : Deque α) : d.last? = d.toList.getLast? := by
  simp [last?, toList, List.getLast?_append]

end Deque
end PullStreams
