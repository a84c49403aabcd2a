namespace PullStreams

structure Path where
  /-- The path starts at the root, with a slash. -/
  isAbsolute : Bool
  /-- What is between the slashes; some may be empty or dots. -/
  parts : List String

namespace Path

def ofText (text : String) : Path :=
  match text.splitOn "/" with
  | "" :: part :: parts => ⟨true, part :: parts⟩
  | parts => ⟨false, parts⟩

def textIn (directory : String) (p : Path) : String :=
  "/".intercalate ((if p.isAbsolute then "" else directory) :: p.parts)

def names (p : Path) : List String := p.parts.filter (· ≠ "")

def endsWithSlash (p : Path) : Bool := p.parts.getLast? = some ""

def trimmed (parts : List String) : List String :=
  (parts.reverse.dropWhile fun s => s = "" || s = ".").reverse

def parent? (p : Path) : Option Path :=
  match trimmed p.parts with
  | [] => none
  | part :: parts => some { p with parts := trimmed (part :: parts).dropLast }

theorem length_trimmed (parts : List String) : (trimmed parts).length ≤ parts.length := by
  have := (List.dropWhile_sublist (l := parts.reverse) fun s => s = "" || s = ".").length_le
  simpa [trimmed] using this

theorem length_of_parent? {p q : Path} (h : p.parent? = some q) :
    q.parts.length < p.parts.length := by
  unfold parent? at h
  split at h
  · simp at h
  · rename_i part parts hp
    simp only [Option.some.injEq] at h
    have h₁ := length_trimmed p.parts
    have h₂ := length_trimmed (part :: parts).dropLast
    simp only [hp, ← h, List.length_cons, List.length_dropLast] at *
    omega

end Path
end PullStreams
