import PullStreams.ByteReader

namespace PullStreams

inductive Entry where
  | file (contents : Bytes)
  | directory (entries : List (String × Entry))

abbrev Place := List String

namespace Entry

def isDirectory : Entry → Bool
  | .directory _ => true
  | .file _ => false

def entries : Entry → List (String × Entry)
  | .directory entries => entries
  | .file _ => []

def child? (e : Entry) (name : String) : Option Entry := e.entries.lookup name

def eraseChild (e : Entry) (name : String) : Entry :=
  .directory (e.entries.filter (·.1 ≠ name))

def putChild (e : Entry) (name : String) (child : Entry) : Entry :=
  .directory ((name, child) :: (e.eraseChild name).entries)

def get? : Entry → Place → Option Entry
  | e, [] => some e
  | e, name :: place => (e.child? name).bind (·.get? place)

def put : Entry → Place → Entry → Entry
  | _, [], new => new
  | e, name :: place, new =>
    e.putChild name (((e.child? name).getD (.directory [])).put place new)

def erase : Entry → Place → Entry
  | e, [] => e
  | e, [name] => e.eraseChild name
  | e, name :: place => (e.child? name).elim e fun child => e.putChild name (child.erase place)

@[simp] theorem entries_directory (es : List (String × Entry)) : (directory es).entries = es := rfl

@[simp] theorem child?_eraseChild_self (e : Entry) (name : String) :
    (e.eraseChild name).child? name = none := by
  rw [child?, eraseChild, entries_directory, List.lookup_eq_none_iff]
  intro p hp
  have hn : p.1 ≠ name := by simpa using (List.mem_filter.1 hp).2
  simpa using hn.symm

theorem child?_eraseChild (e : Entry) {name other : String} (h : other ≠ name) :
    (e.eraseChild name).child? other = e.child? other := by
  rw [child?, child?, eraseChild, entries_directory]
  induction e.entries with
  | nil => rfl
  | cons p es ih =>
    by_cases hp : p.1 = name
    · have hb : (other == p.1) = false := by simpa [hp] using h
      rw [List.filter_cons_of_neg (by simpa using hp), List.lookup_cons, hb, ih]
    · rw [List.filter_cons_of_pos (by simpa using hp), List.lookup_cons, List.lookup_cons, ih]

@[simp] theorem child?_putChild_self (e : Entry) (name : String) (child : Entry) :
    (e.putChild name child).child? name = some child := by
  simp [child?, putChild]

theorem child?_putChild (e : Entry) {name other : String} (h : other ≠ name) (child : Entry) :
    (e.putChild name child).child? other = e.child? other := by
  have hb : (other == name) = false := by simpa using h
  rw [← child?_eraseChild e h]
  simp [child?, putChild, List.lookup_cons, hb]

@[simp] theorem get?_put (e : Entry) (place : Place) (new : Entry) :
    (e.put place new).get? place = some new := by
  induction place generalizing e with
  | nil => rfl
  | cons name place ih => simp [put, get?, ih]

end Entry
end PullStreams
