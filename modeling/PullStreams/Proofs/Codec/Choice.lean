import Mathlib.Data.List.Find
import PullStreams.Proofs.Codec.Lossless

namespace PullStreams.Codec
open ByteReader
variable {codecs : List Codec} {path : String} {c : Codec} {data : Bytes} {fault : Option IoFault}

/-- The name ends as those of the codec's files do; upper and lower case are the same. -/
def Fits (path : String) (c : Codec) : Prop :=
  ∃ e ∈ c.extensions, e.toList <:+ (Text.lowerCase path).toList

def StartsLike (data : Bytes) (c : Codec) : Prop :=
  ∃ magic, c.magic = some magic ∧ magic <+: data

def IsFirst (p : Codec → Prop) (codecs : List Codec) (c : Codec) : Prop :=
  p c ∧ ∃ before after, codecs = before ++ c :: after ∧ ∀ b ∈ before, ¬p b

/-- The answer is what the codec makes of all of the data and the fault after them, which it gets in
some pieces. Where it refuses them, the report names it. -/
def Opens (c : Codec) (demand : Demand) (data : Bytes) (fault : Option IoFault)
    (answer : Except Report Feed) : Prop :=
  ∃ f : Feed, f.Holds data fault ∧
    answer = (c.decode demand f).mapError fun e =>
      .context s!"wrap reader with {c.name} codec" (.io e)

theorem IsFirst.find?_eq {p : Codec → Prop} {q : Codec → Bool} (hp : ∀ c, q c = true ↔ p c)
    (h : IsFirst p codecs c) : codecs.find? q = some c := by
  obtain ⟨hc, before, after, heq, hb⟩ := h
  exact List.find?_eq_some_iff_append.2
    ⟨(hp c).2 hc, before, after, heq, fun b hmem => by simpa [← hp] using hb b hmem⟩

theorem fits_iff (path : String) (c : Codec) :
    (c.extensions.any fun e => e.toList.isSuffixOf (Text.lowerCase path).toList) = true ↔
      Fits path c := by
  simp [Fits]

theorem ofExtension?_eq_some (h : IsFirst (Fits path) codecs c) :
    ofExtension? codecs path = some c :=
  h.find?_eq (fits_iff path)

theorem ofExtension?_eq_none_iff :
    ofExtension? codecs path = none ↔ ∀ c ∈ codecs, ¬Fits path c := by
  unfold ofExtension?
  simp only [List.find?_eq_none, fits_iff]

def marks (data : Bytes) (c : Codec) : Bool := c.magic.any fun magic => magic.isPrefixOf data

theorem marks_iff {data : Bytes} {c : Codec} : c.marks data = true ↔ StartsLike data c := by
  simp [marks, StartsLike, Option.any_eq_true]

theorem magicLength_le_iff {n : Nat} :
    magicLength codecs ≤ n ↔ ∀ c ∈ codecs, ∀ magic, c.magic = some magic → magic.length ≤ n := by
  induction codecs with
  | nil => simp [magicLength]
  | cons c codecs ih =>
    have hmax : magicLength (c :: codecs) =
        max ((c.magic.map List.length).getD 0) (magicLength codecs) := rfl
    rw [hmax, Nat.max_le, ih, List.forall_mem_cons]
    cases c.magic <;> simp

/-- As many bytes as the longest magic has tell as much as all of them. -/
theorem marks_take (hc : c ∈ codecs) (data : Bytes) :
    c.marks (data.take (magicLength codecs)) = c.marks data := by
  rw [Bool.eq_iff_iff, marks_iff, marks_iff]
  constructor
  · rintro ⟨magic, hm, hp⟩
    exact ⟨magic, hm, (List.prefix_take_iff.1 hp).1⟩
  · rintro ⟨magic, hm, hp⟩
    have hl := magicLength_le_iff.1 le_rfl c hc magic hm
    exact ⟨magic, hm, List.prefix_take_iff.2 ⟨hp, hl⟩⟩

/-- Bytes after those that the longest magic reaches to make no difference. -/
theorem marks_append (hc : c ∈ codecs) (hl : magicLength codecs ≤ data.length) (more : Bytes) :
    c.marks (data ++ more) = c.marks data := by
  rw [← marks_take hc (data ++ more), List.take_append_of_le_length hl, marks_take hc]

theorem find?_marks_append {more : Bytes} (hl : magicLength codecs ≤ data.length ∨ more = []) :
    codecs.find? (marks (data ++ more)) = codecs.find? (marks data) := by
  rcases hl with hl | rfl
  · exact List.find?_congr fun c hc => marks_append hc hl more
  · rw [List.append_nil]

theorem find?_marks_eq_none (h : ∀ c ∈ codecs, ¬StartsLike data c) :
    codecs.find? (marks data) = none :=
  List.find?_eq_none.2 fun c hc => mt marks_iff.1 (h c hc)

theorem ofMagic?_take (hm : ∀ c ∈ codecs, c.magic ≠ some []) (data : Bytes) :
    ofMagic? codecs (data.take (magicLength codecs)) = codecs.find? (marks data) := by
  have hfind : codecs.find? (marks (data.take (magicLength codecs))) =
      codecs.find? (marks data) := List.find?_congr fun c hc => marks_take hc data
  unfold ofMagic?
  split
  · rename_i hempty
    refine (find?_marks_eq_none fun c hc hlike => ?_).symm
    rw [← marks_iff, ← marks_take hc, marks_iff] at hlike
    obtain ⟨magic, hmagic, hp⟩ := hlike
    rw [List.isEmpty_iff.1 hempty, List.prefix_nil] at hp
    exact hm c hc (hp ▸ hmagic)
  · exact hfind

section Readers
variable {ρ : Type u} [ByteReader ρ] [FiniteReader ρ] {r : ρ}

theorem reader_of_extension (hx : ofExtension? codecs path = some c) (demand : Demand) :
    reader codecs path demand r = c.openReader demand (contents c.readSize r) := by
  simp only [reader, hx]

/-- Where the name tells nothing, the first codec whose magic the data start with is given all of
the data, or they are read as they are. -/
theorem reader_of_magic (hx : ofExtension? codecs path = none)
    (hm : ∀ c ∈ codecs, c.magic ≠ some []) (hsize : ∀ c ∈ codecs, 0 < c.readSize)
    (h : HandsOut fault r data) (hl : magicLength codecs ≤ data.length ∨ fault = none)
    (demand : Demand) :
    ∃ f : Feed, f.Holds data fault ∧ reader codecs path demand r =
      ((codecs.find? (marks data)).getD plain).openReader demand f := by
  obtain ⟨t, ht, hrest⟩ := h.takeHead hl
  generalize hc : (codecs.find? (marks data)).getD plain = c
  have hsize : 0 < c.readSize := by
    subst hc
    cases hfind : codecs.find? (marks data) with
    | none => exact lossless_plain.readSize_pos
    | some c => exact hsize c (List.mem_of_find?_eq_some hfind)
  have hcontents := hrest.holds_contents hsize
  let rest := contents c.readSize t
  let head := data.take (magicLength codecs)
  have heq : reader codecs path demand r =
      c.openReader demand (if head.isEmpty then rest else rest.prepend head) := by
    simp only [reader, hx, ht, ofMagic?_take hm, hc, head, rest]
  refine ⟨_, ?_, heq⟩
  rw [← List.take_append_drop (magicLength codecs) data]
  by_cases hempty : head = []
  · rw [if_pos (by simp [hempty])]
    simpa [head, hempty] using hcontents
  · rw [if_neg (by simpa using hempty)]
    exact hcontents.prepend hempty

theorem reader_of_fault {e : IoFault} (hx : ofExtension? codecs path = none)
    (h : HandsOut (some e) r data) (hl : data.length < magicLength codecs) (demand : Demand) :
    reader codecs path demand r = .error (.context "read stream header" (.io e)) := by
  obtain ⟨t, ht⟩ := h.takeHead_of_fault hl
  simp only [reader, hx, ht]

end Readers
end PullStreams.Codec
