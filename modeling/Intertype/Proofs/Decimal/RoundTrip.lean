/-
# Doubles read back

The text of a finite double is read as that double (`read?_text`), so that no two of them have the same
text (`text_injective`).

The decimal that is written stands for a number that is read as the double: either it was chosen for
that, or it is the exact magnitude (`ofScaled_shortest`). Cutting off the zeros at the end does not
change the number, and neither does the form in which it is written: digits, perhaps a point and more
digits, and perhaps an exponent (`decimalText_numeral`).

Key definitions: `Binary64.IsNumeral`, `Binary64.SpellsDigits`.
Key theorems: `Binary64.ofScaled_shortest`, `Binary64.decimalText_numeral`, `Binary64.read?_text`,
`Binary64.text_injective`.
-/
import Intertype.Decimal.Reading
import Intertype.Proofs.Decimal.Rounding

namespace Intertype

/-! ### Digits -/

namespace Decimal

theorem foldl_digits (ds : List Char) (n : Nat) :
    ds.foldl (fun n c => 10 * n + digitValue c) n = n * 10 ^ ds.length + value ds := by
  induction ds generalizing n with
  | nil => simp [value]
  | cons c rest ih =>
    rw [value, List.foldl_cons, List.foldl_cons, ih, ih (10 * 0 + digitValue c), List.length_cons,
      Nat.pow_succ]
    ring

theorem value_append (a b : List Char) : value (a ++ b) = value a * 10 ^ b.length + value b := by
  rw [value, List.foldl_append, foldl_digits]
  rfl

theorem isDigit_of_mem_digits {n : Nat} : ∀ c ∈ digits n, isDigit c = true :=
  fun _ h => isDigit_of_mem_digitsWithin _ n h

/-- A digit is written for a number below ten. -/
theorem exists_of_isDigit {c : Char} (h : isDigit c = true) : ∃ n < 10, c = digit n := by
  have h : 48 ≤ c.toNat ∧ c.toNat ≤ 57 := by simpa [isDigit] using h
  refine ⟨c.toNat - 48, by omega, ?_⟩
  rw [digit, Nat.add_sub_cancel' h.1, Char.ofNat_toNat]

/-- What holds of the ten digits holds of every digit. -/
theorem of_isDigit {p : Char → Prop} (h : ∀ n < 10, p (digit n)) {c : Char} (hc : isDigit c = true) :
    p c := by
  obtain ⟨n, hn, rfl⟩ := exists_of_isDigit hc
  exact h n hn

end Decimal

namespace Binary64

open Decimal

theorem isDigit_of_mem_zeros {n : Nat} : ∀ c ∈ zeros n, isDigit c = true := by
  intro c hc
  rw [(List.mem_replicate.mp hc).2]
  rfl

theorem isDigit_of_mem_zero {c : Char} (h : c ∈ ['0']) : isDigit c = true := by
  rw [List.mem_singleton.mp h]
  decide

theorem length_zeros (n : Nat) : (zeros n).length = n := List.length_replicate

theorem value_zeros (n : Nat) : value (zeros n) = 0 := by
  induction n with
  | zero => rfl
  | succ n ih =>
    have hzeros : zeros (n + 1) = ['0'] ++ zeros n := rfl
    rw [hzeros, value_append, ih]
    simp [value, digitValue]

/-! ### The decimal that is written -/

theorem significand_ofFields_zero (negative : Bool) : (ofFields negative 0).significand = 0 := by
  cases negative <;> decide

/-- A double without a significand is the zero of its sign. -/
theorem ofFields_zero {x : Binary64} (hs : x.significand = 0) : ofFields x.negative 0 = x := by
  have he : x.exponent.val = 0 := by
    by_contra he
    rw [significand, if_neg he] at hs
    exact absurd (Nat.le_of_add_right_le hs.le) (by decide)
  have hf : x.fraction.val = 0 := by rwa [significand, if_pos he] at hs
  have hx : x = ⟨x.negative, ⟨0, by decide⟩, ⟨0, by decide⟩⟩ := by
    obtain ⟨negative, exponent, fraction⟩ := x
    congr
    · exact Fin.ext he
    · exact Fin.ext hf
  rw [hx]
  cases x.negative <;> decide

theorem number_exactDecimal (x : Binary64) : x.exactDecimal.number = x.magnitude := by
  unfold exactDecimal Scaled.number magnitude
  split
  · rename_i h
    obtain ⟨n, hn⟩ := Int.eq_ofNat_of_zero_le h
    rw [hn]
    simp
  · rename_i h
    obtain ⟨n, hn⟩ : ∃ n : Nat, x.scale = -(n : Int) := ⟨(-x.scale).toNat, by omega⟩
    have hten : (10 : ℚ) ^ n = 5 ^ n * 2 ^ n := by rw [← mul_pow]; norm_num
    rw [hn, neg_neg, Int.toNat_natCast, zpow_neg, zpow_neg, zpow_natCast, zpow_natCast, hten]
    simp only [Nat.pow_eq, Nat.cast_mul, Nat.cast_pow]
    field_simp
    norm_num

/-- The shortest decimal is read as the double. -/
theorem ofScaled_shortest {x : Binary64} (hx : x.isFinite = true) (hs : x.significand ≠ 0) :
    ofScaled x.negative x.shortest = x := by
  unfold shortest
  split
  · rename_i d hd
    simpa using List.find?_some hd
  · have hnumber := x.number_exactDecimal
    have hdigits : x.exactDecimal.digits ≠ 0 := by
      intro h
      have hpos := magnitude_pos hs
      rw [← hnumber, Scaled.number, h, Nat.cast_zero, zero_mul] at hpos
      exact lt_irrefl 0 hpos
    exact ofScaled_exact hx hs hdigits hnumber

theorem shortest_digits {x : Binary64} (hx : x.isFinite = true) (hs : x.significand ≠ 0) :
    x.shortest.digits ≠ 0 := by
  intro h
  have hzero := ofScaled_shortest hx hs
  rw [ofScaled, ofDecimal, if_pos h] at hzero
  rw [← hzero, significand_ofFields_zero] at hs
  exact hs rfl

/-- Zeros at the end do not matter to the number. -/
theorem trimmed_spec (fuel : Nat) {d : Scaled} (h : d.digits ≠ 0) :
    (trimmed fuel d).digits ≠ 0 ∧ (trimmed fuel d).number = d.number := by
  induction fuel generalizing d with
  | zero => exact ⟨h, rfl⟩
  | succ fuel ih =>
    unfold trimmed
    split
    · rename_i hmod
      have hten : d.digits = 10 * (d.digits / 10) := by omega
      obtain ⟨hdigits, hnumber⟩ := ih (d := ⟨d.digits / 10, d.exponent + 1⟩) (by show d.digits / 10 ≠ 0; omega)
      refine ⟨hdigits, hnumber.trans ?_⟩
      have hcast : (d.digits : ℚ) = 10 * (d.digits / 10 : Nat) := by exact_mod_cast hten
      rw [Scaled.number, Scaled.number, hcast, zpow_add₀ (by norm_num), zpow_one]
      ring
    · exact ⟨h, rfl⟩

/-! ### The form in which it is written -/

/-- The exponent of a numeral, if it has one. -/
def exponentPart : Option Int → List Char
  | none => []
  | some p => 'e' :: exponentText p

/-- The digits of a numeral behind its point, and the point, if there are any. -/
def fractionPart (fraction : List Char) : List Char :=
  if fraction = [] then [] else '.' :: fraction

/-- The text is a numeral for the decimal: digits, more of them behind a point if there are any, and an
exponent if there is one. It has a point or an exponent. -/
structure IsNumeral (cs : List Char) (d : Scaled) (whole fraction : List Char) (e : Option Int) : Prop where
  text : cs = whole ++ (fractionPart fraction ++ exponentPart e)
  whole_ne_nil : whole ≠ []
  whole_digits : ∀ c ∈ whole, isDigit c = true
  fraction_digits : ∀ c ∈ fraction, isDigit c = true
  marked : fraction ≠ [] ∨ e.isSome = true
  number : (Scaled.mk (value (whole ++ fraction)) (e.getD 0 - fraction.length)).number = d.number

/-- Whether the character may stand in a numeral. -/
def isNumeralChar (c : Char) : Bool :=
  isDigit c || c ∈ ['.', 'e', '+', '-']

theorem isNumeralChar_of_isDigit {c : Char} (h : isDigit c = true) : isNumeralChar c = true := by
  rw [isNumeralChar, h, Bool.true_or]

theorem isNumeralChar_of_mem_exponentPart {e : Option Int} :
    ∀ c ∈ exponentPart e, isNumeralChar c = true := by
  intro c hc
  cases e with
  | none => cases hc
  | some p =>
    rw [exponentPart, exponentText, List.mem_cons, List.mem_cons, List.mem_append] at hc
    rcases hc with rfl | hc | hc | hc
    · decide
    · split at hc <;> (rw [hc]; decide)
    · exact isNumeralChar_of_isDigit (isDigit_of_mem_zeros c hc)
    · exact isNumeralChar_of_isDigit (isDigit_of_mem_digits c hc)

theorem IsNumeral.chars {cs whole fraction : List Char} {d : Scaled} {e : Option Int}
    (h : IsNumeral cs d whole fraction e) : ∀ c ∈ cs, isNumeralChar c = true := by
  intro c hc
  rw [h.text, List.mem_append, List.mem_append] at hc
  rcases hc with hc | hc | hc
  · exact isNumeralChar_of_isDigit (h.whole_digits c hc)
  · unfold fractionPart at hc
    split at hc
    · cases hc
    · rcases List.mem_cons.mp hc with rfl | hc
      · decide
      · exact isNumeralChar_of_isDigit (h.fraction_digits c hc)
  · exact isNumeralChar_of_mem_exponentPart c hc

/-- The text is the digits of the decimal, its exponent left out. -/
structure SpellsDigits (ds : List Char) (d : Scaled) : Prop where
  value : value ds = d.digits
  digits : ∀ c ∈ ds, isDigit c = true
  ne_nil : ds ≠ []

theorem spellsDigits (d : Scaled) : SpellsDigits (digits d.digits) d :=
  ⟨value_digits d.digits, isDigit_of_mem_digits, digits_ne_nil d.digits⟩

namespace SpellsDigits

variable {ds : List Char} {d : Scaled}

/-- The number of a decimal with some of its digits behind the point. -/
theorem number {whole fraction : List Char} {e : Option Int}
    (hv : Decimal.value (whole ++ fraction) = d.digits) (he : e.getD 0 - fraction.length = d.exponent) :
    (Scaled.mk (Decimal.value (whole ++ fraction)) (e.getD 0 - fraction.length)).number = d.number := by
  rw [hv, he]

/-- The digits, zeros up to the point, and one zero behind it. -/
theorem numeral_whole (h : SpellsDigits ds d) (he : 0 ≤ d.exponent) :
    IsNumeral (ds ++ zeros d.exponent.toNat ++ ['.', '0']) d (ds ++ zeros d.exponent.toNat) ['0'] none where
  text := by simp [fractionPart, exponentPart]
  whole_ne_nil := List.append_ne_nil_of_left_ne_nil h.ne_nil _
  whole_digits c hc := (List.mem_append.mp hc).elim (h.digits c) (isDigit_of_mem_zeros c)
  fraction_digits c hc := isDigit_of_mem_zero hc
  marked := Or.inl (List.cons_ne_nil _ _)
  number := by
    obtain ⟨n, hn⟩ := Int.eq_ofNat_of_zero_le he
    have hzero : Decimal.value ['0'] = 0 := by decide
    rw [hn, Int.toNat_natCast, value_append, value_append, value_zeros, length_zeros, h.value, hzero]
    simp only [Scaled.number, hn, Option.getD_none, List.length_singleton]
    rw [zpow_natCast]
    push_cast
    rw [zpow_neg_one]
    ring

/-- The digits with the point among them. -/
theorem numeral_pointed (h : SpellsDigits ds d) (he : ¬ 0 ≤ d.exponent) {k : Nat}
    (hk : d.exponent + ds.length - 1 = k) :
    IsNumeral (ds.take (k + 1) ++ '.' :: ds.drop (k + 1)) d (ds.take (k + 1)) (ds.drop (k + 1)) none := by
  have hlength : k + 1 < ds.length := by omega
  have hdrop : ds.drop (k + 1) ≠ [] := by
    intro h
    have := List.drop_eq_nil_iff.mp h
    omega
  refine ⟨?_, ?_, fun c hc => h.digits c (List.mem_of_mem_take hc),
    fun c hc => h.digits c (List.mem_of_mem_drop hc), Or.inl hdrop, number ?_ ?_⟩
  · rw [fractionPart, if_neg hdrop, exponentPart, List.append_nil]
  · intro htake
    rw [List.take_eq_nil_iff] at htake
    exact htake.elim (by omega) h.ne_nil
  · rw [List.take_append_drop, h.value]
  · rw [Option.getD_none, List.length_drop]
    omega

/-- Zeros behind the point, and the digits. -/
theorem numeral_small (h : SpellsDigits ds d) {k : Nat} (hk : -d.exponent = k + ds.length) :
    IsNumeral ('0' :: '.' :: (zeros k ++ ds)) d ['0'] (zeros k ++ ds) none := by
  have hne : zeros k ++ ds ≠ [] := List.append_ne_nil_of_right_ne_nil _ h.ne_nil
  refine ⟨?_, List.cons_ne_nil _ _, fun c hc => isDigit_of_mem_zero hc,
    fun c hc => (List.mem_append.mp hc).elim (isDigit_of_mem_zeros c) (h.digits c), Or.inl hne,
    number ?_ ?_⟩
  · rw [fractionPart, if_neg hne, exponentPart, List.append_nil]
    rfl
  · have hzero : Decimal.value ['0'] = 0 := by decide
    rw [value_append, value_append, value_zeros, h.value, hzero]
    omega
  · rw [Option.getD_none, List.length_append, length_zeros]
    omega

/-- One digit before the point, the others behind it if there are any, and an exponent. -/
theorem numeral_exponent {c : Char} {more : List Char} (h : SpellsDigits (c :: more) d) {power : Int}
    (hp : power = d.exponent + more.length) :
    IsNumeral (c :: (fractionPart more ++ 'e' :: exponentText power)) d [c] more (some power) where
  text := rfl
  whole_ne_nil := List.cons_ne_nil _ _
  whole_digits x hx := h.digits x (List.mem_append_left more hx)
  fraction_digits x hx := h.digits x (List.mem_cons_of_mem c hx)
  marked := Or.inr rfl
  number := number h.value (by rw [Option.getD_some]; omega)

end SpellsDigits

/-- **Every decimal is written as a numeral for it.** -/
theorem decimalText_numeral (d : Scaled) :
    ∃ whole fraction e, IsNumeral (decimalText d) d whole fraction e := by
  have h := spellsDigits d
  unfold decimalText
  simp only
  generalize digits d.digits = ds at h ⊢
  have hpos := List.length_pos_iff.mpr h.ne_nil
  split
  · split
    · rename_i he
      exact ⟨_, _, _, h.numeral_whole he⟩
    split
    · rename_i he hpower
      obtain ⟨k, hk⟩ := Int.eq_ofNat_of_zero_le hpower
      rw [hk, Int.toNat_natCast]
      exact ⟨_, _, _, h.numeral_pointed he hk⟩
    · exact ⟨_, _, _, h.numeral_small (by omega)⟩
  · match ds, h with
    | [], h => exact absurd rfl h.ne_nil
    | [c], h => exact ⟨_, _, _, h.numeral_exponent (by simp)⟩
    | c :: c' :: more, h =>
      exact ⟨_, _, _, h.numeral_exponent (by simp only [List.length_cons]; omega)⟩

/-! ### Reading a numeral -/

theorem spanDigits_append {ds rest : List Char} (hds : ∀ c ∈ ds, isDigit c = true)
    (hrest : ∀ c ∈ rest.head?, isDigit c = false) : spanDigits (ds ++ rest) = (ds, rest) := by
  have htake : rest.takeWhile isDigit = [] := by
    cases rest with
    | nil => rfl
    | cons c more => exact List.takeWhile_cons_of_neg (by simp [hrest c rfl])
  have hdrop : rest.dropWhile isDigit = rest := by
    cases rest with
    | nil => rfl
    | cons c more => exact List.dropWhile_cons_of_neg (by simp [hrest c rfl])
  rw [spanDigits, List.takeWhile_append_of_pos hds, List.dropWhile_append_of_pos hds, htake, hdrop,
    List.append_nil]

/-- An exponent is read back. -/
theorem readExponent?_exponentText (e : Int) : readExponent? (exponentText e) = some e := by
  have hne : zeros (2 - (digits e.natAbs).length) ++ digits e.natAbs ≠ [] :=
    List.append_ne_nil_of_right_ne_nil _ (digits_ne_nil _)
  have hall : (zeros (2 - (digits e.natAbs).length) ++ digits e.natAbs).all isDigit = true :=
    List.all_eq_true.mpr fun c hc =>
      (List.mem_append.mp hc).elim (isDigit_of_mem_zeros c) (isDigit_of_mem_digits c)
  have hvalue : value (zeros (2 - (digits e.natAbs).length) ++ digits e.natAbs) = e.natAbs := by
    rw [value_append, value_zeros, value_digits, Nat.zero_mul, Nat.zero_add]
  unfold exponentText
  simp only
  split
  · show (if _ then some (-(value _ : Int)) else none) = _
    rw [if_pos ⟨hne, hall⟩, hvalue]
    congr 1
    omega
  · show (if _ then some (value _ : Int) else none) = _
    rw [if_pos ⟨hne, hall⟩, hvalue]
    congr 1
    omega

/-- **A numeral is read as its number is.** -/
theorem readMagnitude?_numeral (negative : Bool) {cs whole fraction : List Char} {d : Scaled}
    {e : Option Int} (h : IsNumeral cs d whole fraction e) (hd : d.digits ≠ 0) :
    readMagnitude? negative cs = some (ofScaled negative d) := by
  have hread : ofScaled negative ⟨value (whole ++ fraction), e.getD 0 - fraction.length⟩ =
      ofScaled negative d := by
    apply ofScaled_congr negative ?_ hd h.number
    intro hzero
    have hpos := Scaled.number_pos hd
    have hzero : value (whole ++ fraction) = 0 := hzero
    rw [← h.number, Scaled.number, hzero, Nat.cast_zero, zero_mul] at hpos
    exact lt_irrefl 0 hpos
  have hne : whole ++ fraction ≠ [] := List.append_ne_nil_of_left_ne_nil h.whole_ne_nil _
  have hexponent : ∀ c ∈ (exponentPart e).head?, isDigit c = false := by
    intro c hc
    cases e with
    | none => cases hc
    | some p =>
      cases hc
      decide
  unfold readMagnitude?
  by_cases hf : fraction = []
  · -- an exponent comes right behind the digits
    obtain ⟨p, rfl⟩ := Option.isSome_iff_exists.mp (h.marked.resolve_left (not_not.mpr hf))
    have hspan : spanDigits cs = (whole, 'e' :: exponentText p) := by
      rw [h.text, fractionPart, if_pos hf]
      exact spanDigits_append h.whole_digits hexponent
    rw [hf] at hread hne
    simp only [hspan]
    show (if whole ++ [] = [] then none
      else if 'e' = 'e' ∨ 'e' = 'E' then (readExponent? (exponentText p)).map _ else none) = _
    rw [if_neg hne, if_pos (Or.inl rfl), readExponent?_exponentText, Option.map_some]
    exact congrArg some hread
  · -- a point comes right behind the digits
    have hpoint : isDigit '.' = false := by decide
    have hspan : spanDigits cs = (whole, '.' :: (fraction ++ exponentPart e)) := by
      rw [h.text, fractionPart, if_neg hf]
      exact spanDigits_append h.whole_digits fun c hc => Option.some.inj hc ▸ hpoint
    simp only [hspan, spanDigits_append h.fraction_digits hexponent]
    rw [if_neg hne]
    cases e with
    | none => exact congrArg some hread
    | some p =>
      show (if 'e' = 'e' ∨ 'e' = 'E' then (readExponent? (exponentText p)).map _ else none) = _
      rw [if_pos (Or.inl rfl), readExponent?_exponentText, Option.map_some]
      exact congrArg some hread

/-! ### Reading a double -/

/-- A text that begins with a digit is no name for a value that is not finite. -/
theorem readUnsigned?_of_isDigit (negative : Bool) {c : Char} (hc : isDigit c = true) (rest : List Char) :
    readUnsigned? negative (c :: rest) = readMagnitude? negative (c :: rest) := by
  have hletter : c.toLower ≠ 'i' ∧ c.toLower ≠ 'n' :=
    of_isDigit (p := fun c => c.toLower ≠ 'i' ∧ c.toLower ≠ 'n') (by decide) hc
  have hname : ∀ {d : Char} {ds : List Char}, c.toLower ≠ d →
      String.ofList ((c :: rest).map Char.toLower) ≠ String.ofList (d :: ds) := by
    intro d ds hd h
    exact hd (List.cons.inj (String.ofList_injective h)).1
  unfold readUnsigned?
  simp only
  rw [if_neg (not_or.mpr ⟨hname hletter.1, hname hletter.1⟩), if_neg (hname hletter.2)]

/-- The text of a finite double is a numeral, perhaps with a sign, that is read back. -/
theorem exists_magnitudeText {x : Binary64} (hx : x.isFinite = true) : ∃ c rest, isDigit c = true ∧
    x.text.toList = (if x.negative then '-' :: c :: rest else c :: rest) ∧
    ('.' ∈ rest ∨ 'e' ∈ rest) ∧ (∀ d ∈ rest, isNumeralChar d = true) ∧
    readMagnitude? x.negative (c :: rest) = some x := by
  have htext : x.text.toList = (if x.negative then '-' :: (if x.isZero then ['0', '.', '0']
      else decimalText (trimmed 400 x.shortest)) else (if x.isZero then ['0', '.', '0']
      else decimalText (trimmed 400 x.shortest))) := by
    rw [text, if_pos hx, finiteText, String.toList_ofList]
  rw [htext]
  by_cases hz : x.significand = 0
  · have hzero : x.isZero = true := decide_eq_true hz
    refine ⟨'0', ['.', '0'], by decide, by rw [if_pos hzero], Or.inl List.mem_cons_self,
      ?_, ?_⟩
    · intro d hd
      rcases List.mem_cons.mp hd with rfl | hd
      · decide
      · exact isNumeralChar_of_isDigit (isDigit_of_mem_zero hd)
    · have hread : readMagnitude? x.negative ['0', '.', '0'] = some (ofFields x.negative 0) := by
        cases x.negative <;> decide
      rw [hread, ofFields_zero hz]
  · have hzero : x.isZero = false := decide_eq_false hz
    obtain ⟨hdigits, hnumber⟩ := trimmed_spec 400 (shortest_digits hx hz)
    obtain ⟨whole, fraction, e, h⟩ := decimalText_numeral (trimmed 400 x.shortest)
    obtain ⟨c, rest, rfl⟩ := List.exists_cons_of_ne_nil h.whole_ne_nil
    refine ⟨c, rest ++ (fractionPart fraction ++ exponentPart e), h.whole_digits c List.mem_cons_self, ?_,
      ?_, ?_, ?_⟩
    · rw [hzero, if_neg Bool.false_ne_true, h.text]
      rfl
    · rcases h.marked with hf | he
      · left
        rw [fractionPart, if_neg hf]
        simp
      · right
        obtain ⟨p, rfl⟩ := Option.isSome_iff_exists.mp he
        simp [exponentPart]
    · exact fun d hd => h.chars d (h.text ▸ List.mem_cons_of_mem c hd)
    · have hcs : c :: (rest ++ (fractionPart fraction ++ exponentPart e)) =
          decimalText (trimmed 400 x.shortest) := h.text.symm
      rw [hcs, readMagnitude?_numeral x.negative h hdigits,
        ofScaled_congr x.negative hdigits (shortest_digits hx hz) hnumber, ofScaled_shortest hx hz]

/-- **A finite double is read back.** -/
theorem read?_text {x : Binary64} (hx : x.isFinite = true) : read? x.text = some x := by
  obtain ⟨c, rest, hc, htext, -, -, hread⟩ := exists_magnitudeText hx
  have hsign : c ≠ '-' ∧ c ≠ '+' := by
    obtain ⟨n, hn, rfl⟩ := exists_of_isDigit hc
    have hall : ∀ n < 10, digit n ≠ '-' ∧ digit n ≠ '+' := by decide
    exact hall n hn
  unfold read?
  rw [htext]
  cases hn : x.negative with
  | true =>
    rw [hn] at hread
    show readUnsigned? true (c :: rest) = _
    rw [readUnsigned?_of_isDigit true hc, hread]
  | false =>
    rw [hn] at hread
    have hunsigned : readUnsigned? false (c :: rest) = some x := by
      rw [readUnsigned?_of_isDigit false hc, hread]
    simp only [if_neg Bool.false_ne_true]
    split
    · rename_i h
      exact absurd (List.cons.inj h).1 hsign.1
    · rename_i h
      exact absurd (List.cons.inj h).1 hsign.2
    · exact hunsigned

/-- **No two finite doubles have the same text.** -/
theorem text_injective {x y : Binary64} (hx : x.isFinite = true) (hy : y.isFinite = true)
    (h : x.text = y.text) : x = y :=
  Option.some.inj ((read?_text hx).symm.trans (h ▸ read?_text hy))

/-- The text of a finite double begins with a digit or a minus sign and has a point or an exponent. -/
theorem text_chars {x : Binary64} (hx : x.isFinite = true) : ∃ c rest, x.text.toList = c :: rest ∧
    (isDigit c = true ∨ c = '-') ∧ ('.' ∈ rest ∨ 'e' ∈ rest) ∧ ∀ d ∈ rest, isNumeralChar d = true := by
  obtain ⟨c, rest, hc, htext, hmark, hchars, -⟩ := exists_magnitudeText hx
  cases hn : x.negative with
  | true =>
    rw [hn] at htext
    refine ⟨'-', c :: rest, htext, Or.inr rfl, hmark.imp (List.mem_cons_of_mem c) (List.mem_cons_of_mem c), ?_⟩
    intro d hd
    rcases List.mem_cons.mp hd with rfl | hd
    · exact isNumeralChar_of_isDigit hc
    · exact hchars d hd
  | false =>
    rw [hn] at htext
    exact ⟨c, rest, htext, Or.inl hc, hmark, hchars⟩

end Binary64
end Intertype
