import Mathlib
import PullStreams.Csv.Decode
import PullStreams.Csv.Source
import PullStreams.Proofs.Csv.Scanner
import PullStreams.Proofs.Formats
import PullStreams.Proofs.Transport

namespace PullStreams.Csv
open Source WriterEvent

def rowsFrom (sep : Separator) (s : Scanner) : Bytes → List (List Bytes)
  | [] => s.atEnd.toList
  | b :: bs =>
    match s.step sep b with
    | some t => rowsFrom sep t bs
    | none => s.row :: rowsFrom sep {} bs

def rowsIn (sep : Separator) (bytes : Bytes) : List (List Bytes) := rowsFrom sep {} bytes

/-- A row of no fields is written as one empty field. -/
def shown (fields : List Bytes) : List Bytes := if fields.isEmpty then [[]] else fields

def Rectangular (rows : List (List Bytes)) : Prop :=
  ∀ row ∈ rows, ∀ other ∈ rows, row.length = other.length

instance (rows : List (List Bytes)) : Decidable (Rectangular rows) :=
  inferInstanceAs (Decidable (∀ row ∈ rows, ∀ other ∈ rows, row.length = other.length))

/-- The names that stand above the rows of values, of which the first is asked for them. -/
def namesAbove (options : Options) : List Value → Except Fault (List String)
  | v :: _ => if options.hasHeaders then headerOf v else .ok []
  | [] => .ok []

def namesRow (names : List String) : List (List Bytes) :=
  if names.isEmpty then [] else [names.map Utf8.bytesOf]

section Rows
variable {sep : Separator} {s t : Scanner} {bs : Bytes} {fields : List Bytes}

theorem shown_of_ne_nil (h : fields ≠ []) : shown fields = fields := by
  simp [shown, h]

theorem rowsFrom_of_run (h : s.run sep bs = some t) (more : Bytes) :
    rowsFrom sep s (bs ++ more) = rowsFrom sep t more := by
  induction bs generalizing s with
  | nil =>
    obtain rfl := Option.some.inj h
    rfl
  | cons b bs ih =>
    cases hb : s.step sep b with
    | none => simp [Scanner.run, hb] at h
    | some u =>
      rw [Scanner.run_cons hb] at h
      rw [List.cons_append, rowsFrom, hb]
      exact ih h

theorem encodeRow_shown (sep : Separator) (fields : List Bytes) :
    encodeRow sep (shown fields) = encodeRow sep fields := by
  cases fields <;> rfl

theorem rowsIn_encodeRow (sep : Separator) (fields : List Bytes) (more : Bytes) :
    rowsIn sep (encodeRow sep fields ++ more) = shown fields :: rowsIn sep more := by
  have hne : shown fields ≠ [] := by
    cases fields <;> simp [shown]
  obtain ⟨bs, t, hrow, hrun, hlf, ht⟩ := Scanner.exists_run_encodeRow sep hne
  rw [← encodeRow_shown, hrow, List.append_assoc, rowsIn, rowsFrom_of_run hrun]
  rw [List.singleton_append, rowsFrom, hlf, ht, rowsIn]

theorem rowsIn_flatMap_encodeRow (sep : Separator) (table : List (List Bytes)) :
    rowsIn sep (table.flatMap (encodeRow sep)) = table.map shown := by
  induction table with
  | nil => rfl
  | cons fields table ih =>
    rw [List.flatMap_cons, rowsIn_encodeRow, ih, List.map_cons]

theorem rowsIn_headerRow (sep : Separator) (names : List String) (more : Bytes) :
    rowsIn sep (headerRow sep names ++ more) = namesRow names ++ rowsIn sep more := by
  unfold headerRow namesRow
  split
  · rfl
  · rename_i h
    have hne : names.map Utf8.bytesOf ≠ [] := by simpa using h
    rw [rowsIn_encodeRow, shown_of_ne_nil hne, List.singleton_append]

end Rows

/-- What is written of a value: its row, below the names that it was asked for. -/
theorem exists_of_encode {sep : Separator} {wantsHeader : Bool} {v : Value} {bs : Bytes}
    (h : encode sep wantsHeader v = .ok bs) :
    ∃ names fields, (if wantsHeader then headerOf v else .ok []) = .ok names ∧
      fieldsOf v = .ok fields ∧ (names = [] ∨ fields.length = names.length) ∧
      bs = headerRow sep names ++ encodeRow sep fields := by
  cases wantsHeader with
  | true =>
    obtain ⟨names, fields, hnames, hfields, -, hlen, hbs⟩ := encode_true h
    exact ⟨names, fields, hnames, hfields, hlen, hbs⟩
  | false =>
    cases hfields : fieldsOf v with
    | error e => simp [encode, hfields, bind, Except.bind, pure, Except.pure] at h
    | ok fields =>
      have hrow : encode sep false v = .ok (encodeRow sep fields) := by
        simp [encode, hfields, bind, Except.bind, pure, Except.pure]
      exact ⟨[], fields, rfl, rfl, .inl rfl, (Except.ok.inj (hrow.symm.trans h)).symm⟩

theorem eq_ok_of_mapError {α : Type u} {ε : Type v} {ε' : Type w} {x : Except ε α} {f : ε → ε'}
    {a : α} (h : x.mapError f = .ok a) : x = .ok a := by
  cases x with
  | ok b => exact congrArg Except.ok (Except.ok.inj h)
  | error e => cases h

/-- The rows of values, below the names of the first. -/
structure Tabulates (options : Options) (xs : List Value) (names : List String)
    (table : List (List Bytes)) : Prop where
  above : namesAbove options xs = .ok names
  rows : List.Forall₂ (fieldsOf · = .ok ·) xs table
  agree : names = [] ∨ ∃ first rest, table = first :: rest ∧ first.length = names.length

theorem exists_tabulates {options : Options} {xs : List Value} {records : List Bytes}
    (h : (rowsLayout options encode).Encodes xs records) :
    ∃ names table, Tabulates options xs names table ∧ records.flatten =
      headerRow options.separator names ++ table.flatMap (encodeRow options.separator) := by
  -- Rows are added at the end, so that the first row and the names above it stay.
  induction h with
  | nil => exact ⟨[], [], ⟨rfl, .nil, .inl rfl⟩, rfl⟩
  | @snoc xs records a bs _ ha ih =>
    obtain ⟨names, table, ⟨hnames, hrows, hagree⟩, hbytes⟩ := ih
    obtain ⟨own, fields, hown, hfields, hlen, rfl⟩ := exists_of_encode (eq_ok_of_mapError ha)
    have hnext := List.rel_append hrows (.cons hfields .nil)
    cases xs with
    | nil =>
      cases hrows
      obtain rfl : [] = names := Except.ok.inj hnames
      have habove : namesAbove options [a] = .ok own := by simpa [namesAbove] using hown
      refine ⟨own, [fields], ⟨habove, hnext, hlen.imp_right fun h => ⟨fields, [], rfl, h⟩⟩, ?_⟩
      rw [List.flatten_append, hbytes]
      simp [headerRow]
    | cons first later =>
      obtain rfl : [] = own := by simpa using hown
      refine ⟨names, table ++ [fields], ⟨hnames, hnext, ?_⟩, ?_⟩
      · refine hagree.imp_right ?_
        rintro ⟨row, rest, rfl, hlen⟩
        exact ⟨row, rest ++ [fields], List.cons_append, hlen⟩
      · rw [List.flatten_append, hbytes]
        simp [headerRow]

theorem Rectangular.mono {rows rows' : List (List Bytes)} (h : Rectangular rows')
    (hsub : rows ⊆ rows') : Rectangular rows :=
  fun row hrow other hother => h row (hsub hrow) other (hsub hother)

theorem rectangular_cons_iff {row first : List Bytes} {rows : List (List Bytes)}
    (hmem : first ∈ rows) (hlen : row.length = first.length) :
    Rectangular (row :: rows) ↔ Rectangular rows := by
  refine ⟨fun h => h.mono (List.subset_cons_self row rows), fun h => ?_⟩
  have hrow (other : List Bytes) (hother : other ∈ row :: rows) :
      other.length = first.length := by
    rcases List.mem_cons.1 hother with rfl | hother
    · exact hlen
    · exact h other hother first hmem
  intro a ha b hb
  rw [hrow a ha, hrow b hb]

/-- The names never make a difference. -/
theorem Tabulates.rectangular_iff {options : Options} {xs : List Value} {names : List String}
    {table : List (List Bytes)} (h : Tabulates options xs names table) :
    Rectangular (namesRow names ++ table.map shown) ↔ Rectangular (table.map shown) := by
  by_cases hnames : names = []
  · rw [hnames, namesRow, List.isEmpty_nil, if_pos rfl, List.nil_append]
  · obtain ⟨first, rest, rfl, hlen⟩ := h.agree.resolve_left hnames
    have hfirst : first ≠ [] := by
      rintro rfl
      exact hnames (List.length_eq_zero_iff.1 hlen.symm)
    have hrow : namesRow names = [names.map Utf8.bytesOf] := by simp [namesRow, hnames]
    rw [hrow, List.singleton_append]
    have hmem : first ∈ (first :: rest).map shown := by
      rw [List.map_cons, shown_of_ne_nil hfirst]
      exact List.mem_cons_self
    refine rectangular_cons_iff hmem ?_
    rw [List.length_map, hlen]

def sparsePairs : List Value :=
  [.record [("id", .int 1), ("pair", .null)],
    .record [("id", .int 2), ("pair", .list [.int 3, .int 4])]]

theorem exists_render_sparsePairs :
    ∃ s, (rowsFormat {} encode).render (ListSource.ofList sparsePairs) ({} : Buffer) =
      (.ok 2, s, ⟨Utf8.bytesOf "id,pair\n1,\n2,3,4\n"⟩) := by
  have hr : (rowsFormat {} encode).Records 0 sparsePairs
      (Utf8.bytesOf "id,pair\n1,\n" ++ (Utf8.bytesOf "2,3,4\n" ++ [])) :=
    .cons (by cbv) (.cons (by cbv) (.nil _))
  have hbytes : Utf8.bytesOf "id,pair\n1,\n" ++ (Utf8.bytesOf "2,3,4\n" ++ []) =
      Utf8.bytesOf "id,pair\n1,\n2,3,4\n" := by cbv
  exact Format.render_list (hbytes ▸ hr) rfl rfl

section Render
variable {σ : Type u} [Source σ Value] [FiniteSource σ] {ω : Type v} [ByteWriter ω]
  [PatientWriter ω]

/-- What a writer has received when all went well are the rows of the items, below the names of the
first. They have the same number of fields if the rows of the items have, and only then: rendering
does not see to it. -/
theorem rectangular_iff_of_render (options : Options) (source : σ) (w : ω) {n : Nat} {s : σ}
    {w' : ω} (h : (rowsFormat options encode).render source w = (.ok n, s, w')) :
    ∃ v xs t names table,
      (rowsFormat options encode).render source ({ inner := w } : LoggedWriter ω) = (.ok n, s, v) ∧
        v.inner = w' ∧ Drains source xs t ∧ n = xs.length ∧ Tabulates options xs names table ∧
        rowsIn options.separator (received v.log) = namesRow names ++ table.map shown ∧
        (Rectangular (rowsIn options.separator (received v.log)) ↔
          Rectangular (table.map shown)) := by
  obtain ⟨_, _, result, t, v, hlogged, hplain, ha⟩ :=
    (follows_rowsFormat options encode).accounts source w
  obtain ⟨rfl, rfl, rfl⟩ : result = .ok n ∧ t = s ∧ v.inner = w' := by
    simpa [hplain] using h
  generalize hlog : v.log = log at ha
  cases ha with
  | @whole xs records _ log hd _ he _ hr =>
    obtain ⟨names, table, htable, hbytes⟩ := exists_tabulates he
    have hreceived : received v.log = headerRow options.separator names ++
        table.flatMap (encodeRow options.separator) := by
      rw [hlog, received_append, hr, ← hbytes]
      simp [rowsLayout, received, WriterEvent.taken]
    have hrows : rowsIn options.separator (received v.log) = namesRow names ++ table.map shown := by
      rw [hreceived, rowsIn_headerRow, rowsIn_flatMap_encodeRow]
    refine ⟨v, xs, t, names, table, hlogged, rfl, hd, rfl, htable, hrows, ?_⟩
    rw [hrows]
    exact htable.rectangular_iff

end Render

/-- The rows of the two records differ in length. -/
theorem rectangular_iff_of_render_sparsePairs :
    FiniteSource (ListSource Value) ∧ PatientWriter Buffer ∧
      ∃ s w, (rowsFormat {} encode).render (ListSource.ofList sparsePairs) ({} : Buffer) =
          (.ok 2, s, w) ∧
        ∃ v : LoggedWriter Buffer, v.inner = w ∧
          ¬ Rectangular (rowsIn .comma (received v.log)) := by
  obtain ⟨s, hs⟩ := exists_render_sparsePairs
  obtain ⟨v, xs, t, names, table, -, hv, hd, -, htable, -, hiff⟩ :=
    rectangular_iff_of_render {} _ _ hs
  obtain ⟨u, hlist, -⟩ := ListSource.denotes sparsePairs .ended
  obtain ⟨rfl, -⟩ := hlist.unique hd
  refine ⟨inferInstance, inferInstance, s, _, hs, v, hv, fun h => ?_⟩
  have hfirst : fieldsOf (.record [("id", .int 1), ("pair", .null)]) = .ok [[0x31], []] := by cbv
  have hsecond : fieldsOf (.record [("id", .int 2), ("pair", .list [.int 3, .int 4])]) =
      .ok [[0x32], [0x33], [0x34]] := by cbv
  obtain _ | ⟨ha, _ | ⟨hb, ⟨⟩⟩⟩ := htable.rows
  obtain rfl := Except.ok.inj (hfirst.symm.trans ha)
  obtain rfl := Except.ok.inj (hsecond.symm.trans hb)
  exact absurd (hiff.1 h) (by decide)

/-- The third row is longer than the two before it, and rendering goes well. Whoever reads the rows
back is stopped there. -/
theorem render_ragged :
    ∃ s w, (rowsFormat {} encode).render (ListSource.ofList sparsePairs) ({} : Buffer) =
        (.ok 2, s, w) ∧ ¬ Rectangular (rowsIn .comma w.bytes) ∧
      ∃ u, Drains (RowsSource.ofReader true (Feed.ofBytes w.bytes none) :
          RowsSource Feed .comma (decode (.list .text))) [.list [.text "1", .text ""]] u ∧
        error u = some (.csv (.unequal (some ⟨2, 3, 11⟩) 3 2)) := by
  obtain ⟨s, hs⟩ := exists_render_sparsePairs
  have hrows : rowsIn .comma (Utf8.bytesOf "id,pair\n1,\n2,3,4\n") =
      [[[0x69, 0x64], [0x70, 0x61, 0x69, 0x72]], [[0x31], []], [[0x32], [0x33], [0x34]]] := by cbv
  refine ⟨s, _, hs, by rw [hrows]; decide, ?_⟩
  generalize hsource : (RowsSource.ofReader true (Feed.ofBytes
    (Utf8.bytesOf "id,pair\n1,\n2,3,4\n") none) :
    RowsSource Feed .comma (decode (.list .text))) = source
  have hfirst : (advance source).1 = true := by subst hsource; cbv
  have hitem : current (advance source).2 = .list [.text "1", .text ""] := by subst hsource; cbv
  have hstop : (advance (advance source).2).1 = false := by subst hsource; cbv
  have herror : error (advance (advance source).2).2 =
      some (.csv (.unequal (some ⟨2, 3, 11⟩) 3 2)) := by subst hsource; cbv
  have hd : Drains source [current (advance source).2] (advance (advance source).2).2 :=
    .item (Prod.ext hfirst rfl) (.stop (Prod.ext hstop rfl))
  exact ⟨_, hitem ▸ hd, herror⟩

end PullStreams.Csv
