/-
# Integer literals read back

Java reads an integer in decimal digits as a run of them, perhaps with underscores between two, that
begins with a zero only if it is zero; whatever else begins with a zero is octal, binary or hexadecimal.
The suffix L makes it one of 64 bits, and without a suffix it has 32. A minus sign before it is an
operator, but the greatest magnitude of each type is allowed behind one only, so sign and literal are
read together here. A literal that is out of the range of its type stands for no number: it is an error.

An integer that is written as a literal is read back as the same integer, in 32 bits where it fits there
(`readInteger?_integerLiteral`). Where it does not fit in 64 bits either, the literal stands for no
number (`number?_written`): for such an integer there is no literal at all, and none is refused.

Key definitions: `Java.IntegerLiteral`, `Java.IntegerLiteral.number?`, `Java.readInteger?`.
Key theorems: `Java.readInteger?_integerLiteral`, `Java.IntegerLiteral.number?_written`,
`Java.translate_integerLiteral`.
-/
import Intertype.Proofs.Decimal.RoundTrip
import Intertype.Proofs.Java.StringReading

namespace Intertype

/-! ### Digits -/

namespace Decimal

theorem ofInt_toList (i : Int) : (ofInt i).toList =
    if i < 0 then '-' :: digits i.natAbs else digits i.natAbs :=
  String.toList_ofList

/-- A number other than zero is written without a zero before it. -/
theorem head_digitsWithin {fuel n : Nat} (h : n < fuel) (hn : n ≠ 0) :
    (digitsWithin fuel n).head? ≠ some '0' := by
  induction fuel generalizing n with
  | zero => omega
  | succ fuel ih =>
    unfold digitsWithin
    by_cases hsmall : n < 10
    · have hall : ∀ m < 10, m ≠ 0 → digit m ≠ '0' := by decide
      rw [if_pos hsmall]
      exact fun hzero => hall n hsmall hn (Option.some.inj hzero)
    · have hrest : (digitsWithin fuel (n / 10)).head? ≠ some '0' := ih (by omega) (by omega)
      rw [if_neg hsmall, List.head?_append]
      cases hhead : (digitsWithin fuel (n / 10)).head? with
      | some c =>
        rw [hhead] at hrest
        exact hrest
      | none =>
        have hzero : digitsWithin fuel (n / 10) = [] := List.head?_eq_none_iff.mp hhead
        have hvalue := value_digitsWithin fuel (n / 10) (by omega)
        rw [hzero] at hvalue
        have hpositive : 0 < n / 10 := by omega
        exact absurd hvalue (Nat.ne_of_lt hpositive)

end Decimal

namespace Java

open Decimal (digits isDigit of_isDigit)

/-! ### Reading an integer -/

/-- An integer literal, with the minus sign before it. -/
structure IntegerLiteral where
  /-- Whether there is a minus sign. -/
  negative : Bool
  /-- What the digits stand for. -/
  magnitude : Nat
  /-- Whether it has the suffix of a long one. -/
  isLong : Bool
  deriving DecidableEq, Repr

namespace IntegerLiteral

/-- The literal with its sign, whatever the range of its type. -/
def value (l : IntegerLiteral) : Int :=
  if l.negative then -(l.magnitude : Int) else l.magnitude

/-- The number of bits of its type. -/
def bits (l : IntegerLiteral) : Nat :=
  if l.isLong then 64 else 32

/-- Whether its type has the value, in two's complement. -/
def InRange (l : IntegerLiteral) : Prop :=
  -(2 ^ (l.bits - 1) : Int) ≤ l.value ∧ l.value < 2 ^ (l.bits - 1)

instance (l : IntegerLiteral) : Decidable l.InRange :=
  inferInstanceAs (Decidable (_ ∧ _))

/-- The number that the literal stands for, if it is not out of range. -/
def number? (l : IntegerLiteral) : Option Int :=
  if l.InRange then some l.value else none

end IntegerLiteral

/-- Whether the text is an integer in decimal digits. -/
def isDecimal (cs : List Char) : Bool :=
  if cs.head? = some '0' then cs = ['0'] else isDigitRun Char.isDigit cs

/-- Reads a minus sign, if there is one, and an integer in decimal digits: the literal and the text left.
All that may belong to a number is taken along. -/
def readInteger? (cs : List Char) : Option (IntegerLiteral × List Char) :=
  let negative := cs.head? = some '-'
  let (word, rest) := cutNumber ' ' (if negative then cs.tail else cs)
  let ds := withoutLong word
  if isDecimal ds then some (⟨negative, Decimal.value (ds.filter (· ≠ '_')), word ≠ ds⟩, rest) else none

example : readInteger? "-12_0l, 1".toList = some (⟨true, 120, true⟩, ", 1".toList) := by decide
example : readInteger? "017)".toList = none := by decide
example : readInteger? "1.5)".toList = none := by decide
example : (readInteger? "-2147483648)".toList).map (·.1.number?) = some (some (-2147483648)) := by
  decide
example : (readInteger? "2147483648)".toList).map (·.1.number?) = some none := by decide

/-! ### The characters of a literal -/

/-- What stands behind the digits of an integer literal. -/
def longSuffix (i : Int) : List Char :=
  if fitsInt i then [] else ['L']

theorem integerLiteral_toList (i : Int) :
    (integerLiteral i).toList = (Decimal.ofInt i).toList ++ longSuffix i := by
  unfold integerLiteral longSuffix
  split
  · exact (List.append_nil _).symm
  · exact String.toList_append

/-- The characters of a literal behind its sign: digits, and the suffix. -/
theorem mem_word {i : Int} {c : Char} (h : c ∈ digits i.natAbs ++ longSuffix i) :
    isDigit c = true ∨ c = 'L' := by
  rcases List.mem_append.mp h with h | h
  · exact Or.inl (Decimal.isDigit_of_mem_digits c h)
  · unfold longSuffix at h
    split at h
    · cases h
    · exact Or.inr (List.mem_singleton.mp h)

/-- A literal is its sign, if it has one, and the digits with the suffix. -/
theorem integerLiteral_eq (i : Int) : (integerLiteral i).toList =
    if i < 0 then '-' :: (digits i.natAbs ++ longSuffix i) else digits i.natAbs ++ longSuffix i := by
  rw [integerLiteral_toList, Decimal.ofInt_toList]
  split <;> rfl

/-- The first pass leaves a literal as it is. -/
theorem translate_integerLiteral (i : Int) (r : List Char) :
    translate ((integerLiteral i).toList ++ r) =
      (integerLiteral i).toList.map .plain ++ translate r := by
  have hword : ∀ c ∈ digits i.natAbs ++ longSuffix i, c ≠ '\\' := by
    intro c hc
    rcases mem_word hc with hdigit | rfl
    · exact of_isDigit (p := (· ≠ '\\')) (by decide) hdigit
    · decide
  refine translate_plain (fun c hc => ?_) r
  rw [integerLiteral_eq] at hc
  split at hc
  · rcases List.mem_cons.mp hc with rfl | hc
    · decide
    · exact hword c hc
  · exact hword c hc

/-! ### A literal is read back -/

/-- Whether the character goes on with no number. -/
def endsNumber (c : Char) : Bool :=
  !(c.isAlphanum || c ∈ ['_', '.', '+', '-'])

/-- A run of letters and digits is cut off as a number, up to a character that goes on with none. -/
theorem cutNumber_append {w : List Char} (hw : ∀ c ∈ w, c.isAlphanum = true) {c : Char}
    (hc : endsNumber c = true) (rest : List Char) (previous : Char) :
    cutNumber previous (w ++ c :: rest) = (w, c :: rest) := by
  induction w generalizing previous with
  | nil =>
    have hstop : ¬ (c.isAlphanum ∨ c = '_' ∨ c = '.' ∨
        ((c = '+' ∨ c = '-') ∧ (previous = 'e' ∨ previous = 'E'))) := by
      simp only [endsNumber, Bool.not_eq_true', Bool.or_eq_false_iff, decide_eq_false_iff_not,
        List.mem_cons, List.not_mem_nil, or_false, not_or] at hc
      obtain ⟨hletter, hunderscore, hpoint, hplus, hminus⟩ := hc
      simp [hletter, hunderscore, hpoint, hplus, hminus]
    rw [List.nil_append, cutNumber, if_neg hstop]
  | cons d more ih =>
    rw [List.cons_append, cutNumber, if_pos (Or.inl (hw d List.mem_cons_self)),
      ih fun x hx => hw x (List.mem_cons_of_mem d hx)]

theorem head_digits (n : Nat) : ∃ c rest, digits n = c :: rest ∧ isDigit c = true := by
  obtain ⟨c, rest, hds⟩ := List.exists_cons_of_ne_nil (Decimal.digits_ne_nil n)
  exact ⟨c, rest, hds, Decimal.isDigit_of_mem_digits c (hds ▸ List.mem_cons_self)⟩

theorem isDigitRun_digits (n : Nat) : isDigitRun Char.isDigit (digits n) = true := by
  have hdigit : ∀ c ∈ digits n, c.isDigit = true := fun c hc =>
    of_isDigit (p := fun c => c.isDigit = true) (by decide) (Decimal.isDigit_of_mem_digits c hc)
  have hne := Decimal.digits_ne_nil n
  have hfirst := hdigit _ (List.head_mem hne)
  have hlast := hdigit _ (List.getLast_mem hne)
  rw [isDigitRun, List.head?_eq_some_head hne, List.getLast?_eq_some_getLast hne]
  simp only [hfirst, hlast, Bool.true_and, List.all_eq_true, Bool.or_eq_true]
  exact fun c hc => Or.inl (hdigit c hc)

theorem isDecimal_digits (n : Nat) : isDecimal (digits n) = true := by
  unfold isDecimal
  by_cases hn : n = 0
  · rw [hn]
    decide
  · have hhead : (digits n).head? ≠ some '0' := Decimal.head_digitsWithin (Nat.lt_succ_self n) hn
    rw [if_neg hhead]
    exact isDigitRun_digits n

/-- The suffix is told from the digits. -/
theorem withoutLong_word (i : Int) : withoutLong (digits i.natAbs ++ longSuffix i) = digits i.natAbs := by
  have hne := Decimal.digits_ne_nil i.natAbs
  have hlast := Decimal.isDigit_of_mem_digits _ (List.getLast_mem hne)
  have hletter : ¬ ((digits i.natAbs).getLast hne = 'l' ∨ (digits i.natAbs).getLast hne = 'L') :=
    of_isDigit (p := fun c => ¬ (c = 'l' ∨ c = 'L')) (by decide) hlast
  cases hfits : fitsInt i with
  | true =>
    have hsuffix : longSuffix i = [] := if_pos hfits
    rw [hsuffix, List.append_nil, withoutLong, List.getLast?_eq_some_getLast hne]
    exact if_neg hletter
  | false =>
    have hsuffix : longSuffix i = ['L'] := if_neg (Bool.eq_false_iff.mp hfits)
    rw [hsuffix, withoutLong, List.getLast?_concat]
    exact List.dropLast_concat

theorem filter_digits (n : Nat) : (digits n).filter (· ≠ '_') = digits n := by
  refine List.filter_eq_self.mpr fun c hc => ?_
  have hne : c ≠ '_' :=
    of_isDigit (p := (· ≠ '_')) (by decide) (Decimal.isDigit_of_mem_digits c hc)
  exact decide_eq_true hne

/-- The literal that an integer is written as. -/
def IntegerLiteral.written (i : Int) : IntegerLiteral :=
  ⟨i < 0, i.natAbs, !fitsInt i⟩

/-- **An integer literal is read back**, up to a character that goes on with no number. -/
theorem readInteger?_integerLiteral (i : Int) {c : Char} (hc : endsNumber c = true) (rest : List Char) :
    readInteger? ((integerLiteral i).toList ++ c :: rest) =
      some (.written i, c :: rest) := by
  -- the sign is told by the first character, and what is left is the digits with the suffix
  have hsign : ((integerLiteral i).toList ++ c :: rest).head? = some '-' ↔ i < 0 := by
    rw [integerLiteral_eq]
    by_cases hi : i < 0
    · rw [if_pos hi]
      exact ⟨fun _ => hi, fun _ => rfl⟩
    · obtain ⟨d, more, hds, hd⟩ := head_digits i.natAbs
      rw [if_neg hi, hds]
      refine ⟨fun h => ?_, fun h => absurd h hi⟩
      exact absurd (Option.some.inj h) (of_isDigit (p := (· ≠ '-')) (by decide) hd)
  have hbody : (if i < 0 then ((integerLiteral i).toList ++ c :: rest).tail
      else (integerLiteral i).toList ++ c :: rest) =
      (digits i.natAbs ++ longSuffix i) ++ c :: rest := by
    rw [integerLiteral_eq]
    split <;> rfl
  have hword : ∀ d ∈ digits i.natAbs ++ longSuffix i, d.isAlphanum = true := by
    intro d hd
    rcases mem_word hd with hdigit | rfl
    · exact of_isDigit (p := fun c => c.isAlphanum = true) (by decide) hdigit
    · decide
  have hsuffix : decide (digits i.natAbs ++ longSuffix i ≠ digits i.natAbs) = !fitsInt i := by
    unfold longSuffix
    cases fitsInt i <;> simp
  unfold readInteger?
  simp only [hsign, hbody]
  rw [cutNumber_append hword hc]
  simp only [withoutLong_word, isDecimal_digits, if_true, filter_digits, Decimal.value_digits, hsuffix]
  rfl

namespace IntegerLiteral

theorem value_written (i : Int) : (written i).value = i := by
  unfold written value
  by_cases hi : i < 0
  · rw [if_pos (by simpa using hi)]
    show -(i.natAbs : Int) = i
    omega
  · rw [if_neg (by simpa using hi)]
    show (i.natAbs : Int) = i
    omega

theorem isLong_written (i : Int) : (written i).isLong = true ↔ ¬ (-2 ^ 31 ≤ i ∧ i < 2 ^ 31) := by
  show (!fitsInt i) = true ↔ _
  have hpow : Int.pow 2 31 = 2 ^ 31 := rfl
  rw [Bool.not_eq_true', fitsInt, hpow, Bool.and_eq_false_iff, decide_eq_false_iff_not,
    decide_eq_false_iff_not, not_and_or]

/-- **A literal is in range exactly if there is one for the integer**: the integer fits in 64 bits. -/
theorem number?_written (i : Int) :
    (written i).number? = if -2 ^ 63 ≤ i ∧ i < 2 ^ 63 then some i else none := by
  have hrange : (written i).InRange ↔ (-2 ^ 63 ≤ i ∧ i < 2 ^ 63) := by
    have hlong := isLong_written i
    unfold InRange bits
    rw [value_written]
    by_cases hi : (written i).isLong = true
    · rw [if_pos hi]
    · rw [if_neg hi]
      have hshort : -2 ^ 31 ≤ i ∧ i < 2 ^ 31 := by
        by_contra hfits
        exact hi (hlong.mpr hfits)
      have hwide : -(2 : Int) ^ 63 ≤ -2 ^ 31 ∧ (2 : Int) ^ 31 ≤ 2 ^ 63 := by decide
      exact ⟨fun _ => ⟨hwide.1.trans hshort.1, hshort.2.trans_le hwide.2⟩, fun _ => hshort⟩
  rw [number?, value_written]
  simp only [hrange]

end IntegerLiteral

end Java
end Intertype
