import PullStreams.Csv.Row

namespace PullStreams.Csv

@[simp] theorem Separator.byte_ne_quoteByte (sep : Separator) : sep.byte ≠ quoteByte := by
  cases sep <;> decide

@[simp] theorem Separator.isLineEnd_byte (sep : Separator) : isLineEnd sep.byte = false := by
  cases sep <;> decide

def line (sep : Separator) (fields : List Bytes) : Bytes :=
  [sep.byte].intercalate (fields.map (encodeField sep))

theorem encodeRow_eq_line (sep : Separator) (fields : List Bytes) :
    encodeRow sep fields =
      (if (line sep fields).isEmpty then [quoteByte, quoteByte] else line sep fields) ++ [lf] := rfl

theorem line_singleton (sep : Separator) (field : Bytes) :
    line sep [field] = encodeField sep field := by
  simp [line]

theorem line_cons_cons (sep : Separator) (field next : Bytes) (fields : List Bytes) :
    line sep (field :: next :: fields) =
      encodeField sep field ++ sep.byte :: line sep (next :: fields) := by
  simp [line, List.intercalate_cons_cons]

theorem eq_nil_of_line_eq_nil {sep : Separator} {field : Bytes} {fields : List Bytes}
    (h : line sep (field :: fields) = []) : field = [] ∧ fields = [] := by
  cases fields with
  | nil =>
    rw [line_singleton, encodeField] at h
    split at h
    · simp at h
    · exact ⟨h, rfl⟩
  | cons next fields => simp [line_cons_cons] at h

/-- The first byte of a row is that of its first field, or a quote before it. -/
theorem exists_encodeRow_eq_cons (sep : Separator) (b : UInt8) (field : Bytes)
    (fields : List Bytes) :
    ∃ c tail, encodeRow sep ((b :: field) :: fields) = c :: tail ∧ (c = b ∨ c = quoteByte) := by
  have hfield : ∃ c tail, encodeField sep (b :: field) = c :: tail ∧ (c = b ∨ c = quoteByte) := by
    unfold encodeField
    split
    · exact ⟨quoteByte, _, rfl, .inr rfl⟩
    · exact ⟨b, field, rfl, .inl rfl⟩
  obtain ⟨c, tail, hc, hb⟩ := hfield
  cases fields with
  | nil => exact ⟨c, tail ++ [lf], by rw [encodeRow_eq_line, line_singleton, hc]; rfl, hb⟩
  | cons next fields =>
    refine ⟨c, tail ++ sep.byte :: line sep (next :: fields) ++ [lf], ?_, hb⟩
    rw [encodeRow_eq_line, line_cons_cons, hc]
    rfl

namespace Scanner
variable {sep : Separator} {s t : Scanner} {field : Bytes} {b : UInt8}

theorem run_append (xs ys : Bytes) : run sep s (xs ++ ys) = (run sep s xs).bind (run sep · ys) :=
  List.foldlM_append

/-- Nothing has been read of the field that comes next. -/
structure AtStart (s : Scanner) : Prop where
  mode : s.mode = .startRow ∨ s.mode = .startField
  field : s.field = []

def IsPlain (sep : Separator) (b : UInt8) : Prop :=
  b ≠ sep.byte ∧ b ≠ quoteByte ∧ isLineEnd b = false

theorem isPlain_of_not_needsQuotes (h : needsQuotes sep field = false) :
    ∀ b ∈ field, IsPlain sep b := by
  intro b hb
  simp only [needsQuotes, List.any_eq_false, Bool.or_eq_true, decide_eq_true_eq, not_or] at h
  exact ⟨(h b hb).1.1, (h b hb).1.2, by simpa using (h b hb).2⟩

theorem stepPlain_of_isPlain (h : IsPlain sep b) : stepPlain sep s b = some (s.add b .inField) := by
  simp [stepPlain, h.1, h.2.2]

theorem AtStart.step_quote (hs : s.AtStart) :
    step sep s quoteByte = some { s with mode := .inQuotes } := by
  have hq : isLineEnd quoteByte = false := by decide
  rcases hs.mode with h | h <;> simp [step, h, hq]

theorem AtStart.step_plain (hs : s.AtStart) (h : IsPlain sep b) :
    step sep s b = some (s.add b .inField) := by
  rcases hs.mode with hm | hm <;> simp [step, hm, h.2.1, h.2.2, stepPlain_of_isPlain h]

theorem run_inField (hm : s.mode = .inField) (h : ∀ b ∈ field, IsPlain sep b) :
    run sep s field = some { s with field := field.reverse ++ s.field } := by
  induction field generalizing s with
  | nil => rfl
  | cons b field ih =>
    obtain ⟨hb, hrest⟩ := List.forall_mem_cons.1 h
    have hstep : step sep s b = some (s.add b .inField) := by
      rw [step, hm]
      exact stepPlain_of_isPlain hb
    rw [run_cons hstep, ih rfl hrest]
    simp [add, hm]

/-- Within quotes each byte of a field is read back, a quote from a pair of quotes. -/
theorem run_inQuotes (hm : s.mode = .inQuotes) (field : Bytes) :
    run sep s (field.flatMap fun b => if b = quoteByte then [b, b] else [b]) =
      some { s with field := field.reverse ++ s.field } := by
  induction field generalizing s with
  | nil => rfl
  | cons b field ih =>
    have hadd : run sep s (if b = quoteByte then [b, b] else [b]) = some (s.add b .inQuotes) := by
      split <;> rename_i hb <;> simp [run, step, hm, hb, add]
    rw [List.flatMap_cons, run_append, hadd]
    show run sep (s.add b .inQuotes) _ = _
    rw [ih rfl]
    simp [add, hm]

/-- A field is read back from how it is written, and nothing is read for one that is written as
nothing. -/
theorem AtStart.exists_run_encodeField (hs : s.AtStart) (sep : Separator) (field : Bytes) :
    ∃ t, run sep s (encodeField sep field) = some t ∧ t.field = field.reverse ∧
      t.fields = s.fields ∧ (t.mode = .inField ∨ t.mode = .afterQuote ∨
        t.mode = s.mode ∧ encodeField sep field = []) := by
  cases hq : needsQuotes sep field with
  | true =>
    refine ⟨⟨.afterQuote, field.reverse, s.fields⟩, ?_, rfl, rfl, .inr (.inl rfl)⟩
    have hclose : step sep ⟨.inQuotes, field.reverse, s.fields⟩ quoteByte =
        some ⟨.afterQuote, field.reverse, s.fields⟩ := rfl
    rw [encodeField, if_pos hq, List.cons_append, run_cons hs.step_quote, run_append,
      run_inQuotes rfl, hs.field, List.append_nil]
    exact run_cons hclose []
  | false =>
    rw [encodeField, hq, if_neg Bool.false_ne_true]
    cases field with
    | nil => exact ⟨s, rfl, hs.field, rfl, .inr (.inr ⟨rfl, rfl⟩)⟩
    | cons b field =>
      obtain ⟨hb, hrest⟩ := List.forall_mem_cons.1 (isPlain_of_not_needsQuotes hq)
      have hrun := (run_cons (hs.step_plain hb) field).trans (run_inField rfl hrest)
      refine ⟨_, hrun, ?_, rfl, .inl rfl⟩
      simp [add, hs.field]

theorem step_separator (h : s.mode ≠ .inQuotes) :
    step sep s sep.byte = some (s.endField .startField) := by
  cases hm : s.mode <;> simp_all [step, stepPlain]

theorem step_lf (h : s.mode = .inField ∨ s.mode = .afterQuote ∨ s.mode = .startField) :
    step sep s lf = none := by
  have hsep : lf ≠ sep.byte := by cases sep <;> decide
  have hq : lf ≠ quoteByte := by decide
  have hend : isLineEnd lf = true := by decide
  rcases h with h | h | h <;> simp [step, stepPlain, h, hsep, hq, hend]

/-- A row is read back up to its line feed. A row that is written as nothing would be passed over
at the start of a row. -/
theorem AtStart.exists_run_line (hs : s.AtStart) (field : Bytes) (fields : List Bytes)
    (hne : s.mode = .startField ∨ line sep (field :: fields) ≠ []) :
    ∃ t, run sep s (line sep (field :: fields)) = some t ∧ step sep t lf = none ∧
      t.row = s.fields.reverse ++ field :: fields := by
  induction fields generalizing s field with
  | nil =>
    obtain ⟨t, hrun, hfield, hfields, hmode⟩ := hs.exists_run_encodeField sep field
    rw [line_singleton] at hne ⊢
    refine ⟨t, hrun, step_lf ?_, by simp [row, hfield, hfields]⟩
    rcases hmode with h | h | ⟨h, hempty⟩
    · exact .inl h
    · exact .inr (.inl h)
    · exact .inr (.inr (h.trans (hne.resolve_right (absurd hempty))))
  | cons next fields ih =>
    obtain ⟨t, hrun, hfield, hfields, hmode⟩ := hs.exists_run_encodeField sep field
    -- Within quotes the separator would be taken for a byte of the field.
    have hquotes : t.mode ≠ .inQuotes := by
      rcases hmode with h | h | ⟨h, -⟩ <;> rw [h]
      · decide
      · decide
      · rcases hs.mode with hm | hm <;> rw [hm] <;> decide
    have hstart : (t.endField .startField).AtStart := ⟨.inr rfl, rfl⟩
    obtain ⟨u, hu, hlf, hrow⟩ := ih hstart next (.inl rfl)
    refine ⟨u, ?_, hlf, ?_⟩
    · rw [line_cons_cons, run_append, hrun]
      exact (run_cons (step_separator hquotes) _).trans hu
    · rw [hrow]
      simp [endField, hfield, hfields]

/-- The scanner finds a row in the bytes that it is written as. -/
theorem exists_run_encodeRow (sep : Separator) {fields : List Bytes} (hne : fields ≠ []) :
    ∃ bs t, encodeRow sep fields = bs ++ [lf] ∧ run sep {} bs = some t ∧ step sep t lf = none ∧
      t.row = fields := by
  have hs : ({} : Scanner).AtStart := ⟨.inl rfl, rfl⟩
  obtain ⟨field, rest, rfl⟩ := List.exists_cons_of_ne_nil hne
  by_cases hline : line sep (field :: rest) = []
  · -- Only an empty field by itself is written as nothing, and then quotes stand for it.
    obtain ⟨rfl, rfl⟩ := eq_nil_of_line_eq_nil hline
    exact ⟨[quoteByte, quoteByte], ⟨.afterQuote, [], []⟩, rfl, rfl, step_lf (.inr (.inl rfl)), rfl⟩
  · obtain ⟨t, hrun, hlf, hrow⟩ := hs.exists_run_line field rest (.inr hline)
    have hrow' : encodeRow sep (field :: rest) = line sep (field :: rest) ++ [lf] := by
      rw [encodeRow_eq_line, if_neg (by simpa using hline)]
    exact ⟨_, t, hrow', hrun, hlf, hrow⟩

end Scanner
end PullStreams.Csv
