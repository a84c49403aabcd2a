import PullStreams.Text.Integer
import PullStreams.Text.Utf8

namespace PullStreams

namespace Utf8

theorem toList_loop (bs : ByteArray) (i : Nat) (r : List UInt8) :
    ByteArray.toList.loop bs i r = r.reverse ++ bs.data.toList.drop i := by
  fun_induction ByteArray.toList.loop bs i r with
  | case1 i r hi ih =>
    have hl : i < bs.data.toList.length := hi
    have hget : bs.get! i = bs.data.toList[i] := getElem!_pos bs.data i hi
    rw [ih, List.drop_eq_getElem_cons hl, hget]
    simp
  | case2 i r hi =>
    have hl : bs.data.toList.length ≤ i := Nat.le_of_not_lt hi
    rw [List.drop_eq_nil_of_le hl, List.append_nil]

theorem toArray_bytesOf (s : String) : (⟨(bytesOf s).toArray⟩ : ByteArray) = s.toByteArray := by
  have h : bytesOf s = s.toByteArray.data.toList := toList_loop _ 0 []
  rw [h, Array.toArray_toList]

@[simp] theorem decode_bytesOf (s : String) : decode (bytesOf s) = .ok s := by
  rw [decode, toArray_bytesOf, String.fromUTF8?, dif_pos s.isValidUTF8]
  rfl

theorem bytesOf_eq_flatMap (s : String) : bytesOf s = s.toList.flatMap String.utf8EncodeChar := by
  have h : bytesOf s = s.toByteArray.data.toList := toList_loop _ 0 []
  rw [h, ← String.utf8Encode_toList, List.utf8Encode, List.toList_data_toByteArray]

theorem eq_of_utf8EncodeChar_append {c d : Char} {xs ys : Bytes}
    (h : String.utf8EncodeChar c ++ xs = String.utf8EncodeChar d ++ ys) : c = d := by
  have hc := ByteArray.utf8DecodeChar?_utf8EncodeChar_append (b := xs.toByteArray) (c := c)
  have hd := ByteArray.utf8DecodeChar?_utf8EncodeChar_append (b := ys.toByteArray) (c := d)
  rw [← List.toByteArray_append, h, List.toByteArray_append, hd] at hc
  exact (Option.some.inj hc).symm

end Utf8

namespace Text

def unmarked (s : String) : String :=
  if s.toList.head? = some '\uFEFF' then .ofList s.toList.tail else s

theorem exists_toList_of_mark {s : String} {bs : Bytes}
    (h : Utf8.bytesOf s = [0xEF, 0xBB, 0xBF] ++ bs) : ∃ cs, s.toList = '\uFEFF' :: cs := by
  rw [Utf8.bytesOf_eq_flatMap] at h
  cases hs : s.toList with
  | nil => simp [hs] at h
  | cons c cs =>
    have hmark : String.utf8EncodeChar '\uFEFF' = [0xEF, 0xBB, 0xBF] := by decide
    rw [hs, List.flatMap_cons, ← hmark] at h
    rw [Utf8.eq_of_utf8EncodeChar_append h]
    exact ⟨cs, rfl⟩

/-- The mark is written as its own bytes, and what is left as its own. -/
theorem unmarked_of_mark {s : String} {bs : Bytes} (h : Utf8.bytesOf s = [0xEF, 0xBB, 0xBF] ++ bs) :
    unmarked s ≠ s ∧ Utf8.bytesOf (unmarked s) = bs := by
  obtain ⟨cs, hs⟩ := exists_toList_of_mark h
  have hrest : unmarked s = .ofList cs := by simp [unmarked, hs]
  have hmark : String.utf8EncodeChar '\uFEFF' = [0xEF, 0xBB, 0xBF] := by decide
  constructor
  · intro he
    have hlen := congrArg (·.toList.length) he
    simp [hrest, hs] at hlen
  · rw [Utf8.bytesOf_eq_flatMap, hs, List.flatMap_cons, hmark] at h
    rw [hrest, Utf8.bytesOf_eq_flatMap, String.toList_ofList]
    exact List.append_cancel_left h

theorem digit?_of_isDigit {c : Char} (h : c.isDigit = true) :
    digit? 10 c = some (c.toNat - '0'.toNat) := by
  obtain ⟨hlow, hhigh⟩ := Char.isDigit_iff_toNat.1 h
  have hvalue : c.toNat - '0'.toNat < 10 := by
    have h9 : '9'.toNat = '0'.toNat + 9 := rfl
    omega
  have hrange : '0' ≤ c ∧ c ≤ '9' := ⟨hlow, hhigh⟩
  simp only [digit?, if_pos hrange, if_pos hvalue]

/-- More digits make a number no smaller. -/
theorem le_ofDigitChars (cs : List Char) (v : Nat) : v ≤ Nat.ofDigitChars 10 cs v := by
  induction cs generalizing v with
  | nil => exact Nat.le_refl v
  | cons c cs ih =>
    rw [Nat.ofDigitChars_cons]
    exact Nat.le_trans (by omega) (ih _)

def signed (negative : Bool) (n : Nat) : Int := if negative then -n else n

theorem readDigits_signed {range : IntegerRange} (hzero : range.contains 0 = true)
    {negative : Bool} {cs : List Char} (hcs : ∀ c ∈ cs, c.isDigit = true) {v : Nat}
    (hn : range.contains (signed negative (Nat.ofDigitChars 10 cs v)) = true) :
    readDigits range 10 negative (signed negative v) cs =
      .ok (signed negative (Nat.ofDigitChars 10 cs v)) := by
  induction cs generalizing v with
  | nil => rfl
  | cons c cs ih =>
    rw [Nat.ofDigitChars_cons] at hn ⊢
    have hc := digit?_of_isDigit (hcs c List.mem_cons_self)
    have hvalue : (if negative then signed negative v * (10 : Nat) - (c.toNat - '0'.toNat : Nat)
        else signed negative v * (10 : Nat) + (c.toNat - '0'.toNat : Nat)) =
        signed negative (10 * v + (c.toNat - '0'.toNat)) := by
      cases negative <;> simp only [signed, if_true, if_false, Bool.false_eq_true] <;> omega
    have hcontains : range.contains (signed negative (10 * v + (c.toNat - '0'.toNat))) = true := by
      have hle := le_ofDigitChars cs (10 * v + (c.toNat - '0'.toNat))
      simp only [IntegerRange.contains, Bool.and_eq_true, decide_eq_true_eq] at hzero hn ⊢
      cases negative <;> simp only [signed, if_true, if_false, Bool.false_eq_true] at hn ⊢ <;> omega
    simp only [readDigits, hc, hvalue, hcontains, if_true]
    exact ih (fun d hd => hcs d (List.mem_cons_of_mem c hd)) hn

/-- The first character of the digits of a number is a digit, and so are the others. -/
theorem exists_toList_toString (n : Nat) :
    ∃ c cs, (toString n).toList = c :: cs ∧ ∀ d ∈ c :: cs, d.isDigit = true := by
  have hdigits : (toString n).toList = Nat.toDigits 10 n := by
    rw [Nat.toString_eq_ofList_toDigits, String.toList_ofList]
  match hd : Nat.toDigits 10 n with
  | [] => exact absurd hd Nat.toDigits_ne_nil
  | c :: cs =>
    refine ⟨c, cs, hdigits.trans hd, fun d hm => ?_⟩
    rw [← hd] at hm
    exact Nat.isDigit_of_mem_toDigits (by decide) (by decide) hm

theorem ofDigitChars_toString (n : Nat) : Nat.ofDigitChars 10 (toString n).toList 0 = n := by
  rw [Nat.toString_eq_ofList_toDigits, String.toList_ofList, Nat.ofDigitChars_ten_toDigits]

/-- Digits, which are those of the number, after a minus if there is one. -/
theorem exists_toList_toString_int (n : Int) :
    ∃ c cs, (toString n).toList = (if n < 0 then ['-'] else []) ++ c :: cs ∧
      (∀ d ∈ c :: cs, d.isDigit = true) ∧
      signed (decide (n < 0)) (Nat.ofDigitChars 10 (c :: cs) 0) = n := by
  obtain ⟨c, cs, hcs, hdigit⟩ := exists_toList_toString n.natAbs
  refine ⟨c, cs, ?_, hdigit, ?_⟩
  · rw [← hcs]
    cases n with
    | ofNat k => rfl
    | negSucc k =>
      have hn : toString (Int.negSucc k) = "-" ++ toString (k + 1) := rfl
      rw [hn, if_pos (Int.negSucc_lt_zero k), String.toList_append]
      rfl
  · rw [← hcs, ofDigitChars_toString, signed]
    split <;> rename_i h <;> simp only [decide_eq_true_eq] at h <;> omega

theorem readInteger_toString {range : IntegerRange} (hzero : range.contains 0 = true) {n : Int}
    (hn : range.contains n = true) : readInteger range 10 (toString n) = .ok n := by
  obtain ⟨c, cs, hcs, hdigit, hvalue⟩ := exists_toList_toString_int n
  -- No sign stands before the digits but the one minus.
  have hsign : c ≠ '+' ∧ c ≠ '-' := by
    have hc := hdigit c List.mem_cons_self
    constructor <;> rintro rfl <;> simp [Char.isDigit] at hc
  rw [← hvalue] at hn
  have hread := readDigits_signed hzero hdigit (v := 0) hn
  rw [hvalue] at hread
  unfold readInteger
  rw [hcs]
  by_cases h : n < 0
  · have hmin : range.min < 0 := by
      rw [hvalue] at hn
      simp only [IntegerRange.contains, Bool.and_eq_true, decide_eq_true_eq] at hn
      omega
    simp only [decide_eq_true h] at hread
    simpa [h, hmin, signed] using hread
  · simp only [decide_eq_false h] at hread
    rw [if_neg h, List.nil_append]
    split <;> simp_all [signed]

/-- The first byte of the digits of a number is one of a digit. -/
theorem exists_bytesOf_toString (n : Nat) :
    ∃ b bs, Utf8.bytesOf (toString n) = b :: bs ∧ b ≤ 0x39 := by
  obtain ⟨c, cs, hcs, hdigit⟩ := exists_toList_toString n
  obtain ⟨-, hhigh⟩ := Char.isDigit_iff_toNat.1 (hdigit c List.mem_cons_self)
  have hc : c.toNat ≤ 0x39 := hhigh
  have hsize : c.utf8Size = 1 := by
    rw [Char.utf8Size_eq_one_iff, UInt32.le_iff_toNat_le]
    exact Nat.le_trans hc (by decide)
  refine ⟨c.val.toUInt8, cs.flatMap String.utf8EncodeChar, ?_, ?_⟩
  · rw [Utf8.bytesOf_eq_flatMap, hcs, List.flatMap_cons, String.utf8EncodeChar_eq_singleton hsize]
    rfl
  · rw [UInt8.le_iff_toNat_le, UInt32.toNat_toUInt8]
    exact Nat.le_trans (Nat.mod_le _ _) hc

end Text
end PullStreams
