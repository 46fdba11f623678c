/-
# Numbers in decimal digits

`Decimal.digits` writes a natural number without leading zeros, `Decimal.value` reads digits back, and
reading undoes writing (`value_digits`).

Key definitions: `Decimal.digits`, `Decimal.value`, `Decimal.ofInt`.
Key theorem: `Decimal.value_digits`.
-/

namespace Intertype
namespace Decimal

/-- The character of a number below ten. -/
def digit (n : Nat) : Char :=
  Char.ofNat (48 + n)

/-- The number that a digit stands for. -/
def digitValue (c : Char) : Nat :=
  c.toNat - 48

/-- Whether the character is a decimal digit. -/
def isDigit (c : Char) : Bool :=
  48 ≤ c.toNat && c.toNat ≤ 57

theorem toNat_digit {n : Nat} (h : n < 10) : (digit n).toNat = 48 + n := by
  have hv : (48 + n).isValidChar := Or.inl (by omega)
  rw [digit, Char.ofNat, dif_pos hv]
  rfl

theorem digitValue_digit {n : Nat} (h : n < 10) : digitValue (digit n) = n := by
  unfold digitValue
  rw [toNat_digit h]
  omega

theorem isDigit_digit {n : Nat} (h : n < 10) : isDigit (digit n) = true := by
  unfold isDigit
  rw [toNat_digit h]
  simp
  omega

/-- The digits of a number that has at most `fuel` of them. -/
def digitsWithin : Nat → Nat → List Char
  | 0, _ => []
  | fuel + 1, n => if n < 10 then [digit n] else digitsWithin fuel (n / 10) ++ [digit (n % 10)]

/-- The decimal digits of a number, the most significant first. -/
def digits (n : Nat) : List Char :=
  digitsWithin (n + 1) n

/-- The number that a run of digits stands for. -/
def value (ds : List Char) : Nat :=
  ds.foldl (fun n c => 10 * n + digitValue c) 0

theorem value_append_singleton (ds : List Char) (c : Char) :
    value (ds ++ [c]) = 10 * value ds + digitValue c := by
  simp [value, List.foldl_append]

theorem value_digitsWithin (fuel n : Nat) (h : n < fuel) : value (digitsWithin fuel n) = n := by
  induction fuel generalizing n with
  | zero => omega
  | succ fuel ih =>
    unfold digitsWithin
    by_cases hn : n < 10
    · rw [if_pos hn]
      simp [value, digitValue_digit hn]
    · rw [if_neg hn, value_append_singleton, ih (n / 10) (by omega),
        digitValue_digit (Nat.mod_lt n (by omega))]
      omega

/-- Reading the digits of a number gives the number. -/
theorem value_digits (n : Nat) : value (digits n) = n :=
  value_digitsWithin (n + 1) n (by omega)

theorem isDigit_of_mem_digitsWithin (fuel n : Nat) {c : Char} (h : c ∈ digitsWithin fuel n) :
    isDigit c = true := by
  induction fuel generalizing n with
  | zero => simp [digitsWithin] at h
  | succ fuel ih =>
    unfold digitsWithin at h
    split at h
    · rename_i hn
      rw [List.mem_singleton] at h
      rw [h]
      exact isDigit_digit hn
    · rcases List.mem_append.1 h with h | h
      · exact ih _ h
      · rw [List.mem_singleton] at h
        rw [h]
        exact isDigit_digit (Nat.mod_lt n (by omega))

theorem digits_ne_nil (n : Nat) : digits n ≠ [] := by
  unfold digits digitsWithin
  split <;> simp

/-- An integer in decimal digits, a negative one after a minus sign. -/
def ofInt (i : Int) : String :=
  String.ofList (if i < 0 then '-' :: digits i.natAbs else digits i.natAbs)

/-- A natural number in decimal digits. -/
def ofNat (n : Nat) : String :=
  String.ofList (digits n)

/-- Reads an integer, digits after a minus sign or without one. -/
def toInt? : List Char → Option Int
  | '-' :: ds => if ds ≠ [] ∧ ds.all isDigit then some (-(value ds : Int)) else none
  | ds => if ds ≠ [] ∧ ds.all isDigit then some (value ds : Int) else none

example : ofInt (-2147483649) = "-2147483649" := by decide
example : toInt? "-120".toList = some (-120) := by decide

end Decimal
end Intertype
