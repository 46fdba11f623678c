/-
# String literals read back

Java reads source text in two passes. The first puts one input character in the place of each Unicode
escape, which is a backslash, one or more times the letter u, and four hexadecimal digits. Only a
backslash that has an even number of backslashes right before it begins one, and what it begins has to
be whole. The second pass cuts the input characters into tokens; a string literal runs from a double
quote to the next one that no escape sequence holds, and stands for code units of 16 bits.

A string that is written as a literal is read back as the same string, whatever comes behind it
(`readString?_stringChars`). Every character is written by itself or behind a backslash of its own
(`escape_cases`). So the number of backslashes right before a written character is even, the first pass
finds nothing to replace (`translate_escape`), and the second takes the characters one by one
(`scanFrom_escape`).

Key definitions: `Java.InputChar`, `Java.translate`, `Java.readString?`, `Java.utf16`.
Key theorems: `Java.translate_stringChars`, `Java.readString?_stringChars`, `Java.translate_append`,
`Java.endsOdd_of_quote`.
-/
import Intertype.Java.Literal
import Intertype.Java.Token

namespace Intertype
namespace Java

/-! ### Code units -/

/-- The code units of 16 bits that stand for a character: one, or a pair of surrogates. -/
def utf16 (c : Char) : List Nat :=
  if c.toNat < 0x10000 then [c.toNat]
  else [0xD800 + (c.toNat - 0x10000) / 0x400, 0xDC00 + (c.toNat - 0x10000) % 0x400]

/-- The value of a hexadecimal digit. -/
def hexDigitValue (c : Char) : Nat :=
  if c.isDigit then c.toNat - 48 else c.toUpper.toNat - 55

/-- The number that hexadecimal digits stand for. -/
def hexValue (ds : List Char) : Nat :=
  ds.foldl (fun n c => 16 * n + hexDigitValue c) 0

/-! ### The first pass -/

/-- What the second pass sees of the source text at one place. -/
inductive InputChar
  /-- A character that stands there itself. -/
  | plain (c : Char)
  /-- A Unicode escape: its letters u and its digits. -/
  | escape (marks digits : List Char)
  /-- A backslash that begins an escape which is not whole. -/
  | malformed
  deriving DecidableEq, Repr

namespace InputChar

/-- The source text that it stands for. -/
def written : InputChar → List Char
  | plain c => [c]
  | escape marks digits => '\\' :: (marks ++ digits)
  | malformed => ['\\']

/-- The code units that it adds to the text; an escape that is not whole adds none. -/
def units : InputChar → List Nat
  | plain c => utf16 c
  | escape _ digits => [hexValue digits]
  | malformed => []

/-- Whether it is the character, of 16 bits, by itself or by an escape. -/
def is (c : Char) (i : InputChar) : Bool :=
  i.units = [c.toNat]

end InputChar

/-- What a backslash that may begin a Unicode escape is, before the rest of the text. -/
def eligible (rest : List Char) : InputChar :=
  let marks := rest.takeWhile (· = 'u')
  let digits := (rest.dropWhile (· = 'u')).take 4
  if marks = [] then .plain '\\'
  else if digits.length = 4 ∧ digits.all isHexDigit then .escape marks digits
  else .malformed

/-- The first pass over a text of which the first `skip` characters belong to an escape before it;
`odd` is whether an odd number of backslashes stands right before it. -/
def translateFrom : Nat → Bool → List Char → List InputChar
  | _, _, [] => []
  | skip + 1, _, _ :: rest => translateFrom skip false rest
  | 0, odd, c :: rest =>
    if c = '\\' then
      if odd then .plain c :: translateFrom 0 false rest
      else eligible rest :: translateFrom ((eligible rest).written.length - 1) true rest
    else .plain c :: translateFrom 0 false rest

/-- The first pass over source text. -/
def translate (cs : List Char) : List InputChar :=
  translateFrom 0 false cs

/-! ### The second pass -/

/-- The letters and marks that follow the backslash of an escape sequence, with the code units that
they stand for there. -/
def escapeTable : List (Char × Nat) :=
  [('b', 0x08), ('s', 0x20), ('t', 0x09), ('n', 0x0A), ('f', 0x0C), ('r', 0x0D), ('"', 0x22),
    ('\u0027', 0x27), ('\\', 0x5C)]

/-- The value of an octal digit. -/
def octalDigit? (i : InputChar) : Option Nat :=
  match i.units with
  | [n] => if 48 ≤ n ∧ n < 56 then some (n - 48) else none
  | _ => none

/-- Reads on an octal number of at most so many more digits that stays below 256: its value and the
number of digits read. -/
def octal : Nat → Nat → List InputChar → Nat × Nat
  | 0, value, _ => (value, 0)
  | _ + 1, value, [] => (value, 0)
  | more + 1, value, i :: rest =>
    match octalDigit? i with
    | none => (value, 0)
    | some d =>
      if 8 * value + d < 256 then
        let (total, width) := octal more (8 * value + d) rest
        (total, width + 1)
      else (value, 0)

/-- What an escape sequence stands for, and how many input characters it takes after its backslash. -/
def escapeSequence? : List InputChar → Option (Nat × Nat)
  | [] => none
  | i :: rest =>
    match escapeTable.find? fun e => i.is e.1 with
    | some e => some (e.2, 1)
    | none =>
      match octal 3 0 (i :: rest) with
      | (_, 0) => none
      | (value, width + 1) => some (value, width + 1)

/-- Reads the rest of a string literal, of which the first `skip` input characters belong to an escape
sequence before it: the code units and the input characters left. No line may end in it. -/
def scanFrom : Nat → List InputChar → Option (List Nat × List InputChar)
  | _, [] => none
  | skip + 1, _ :: rest => scanFrom skip rest
  | 0, i :: rest =>
    if i.is '"' then some ([], rest)
    else if i.is '\\' then
      match escapeSequence? rest with
      | none => none
      | some (unit, width) => (scanFrom width rest).map fun p => (unit :: p.1, p.2)
    else if i.is '\n' ∨ i.is '\r' ∨ i = .malformed then none
    else (scanFrom 0 rest).map fun p => (i.units ++ p.1, p.2)

/-- Reads a string literal: the code units that it stands for and the input characters left. Three
double quotes begin a text block, which is another token. -/
def readString? : List InputChar → Option (List Nat × List InputChar)
  | [] => none
  | i :: rest =>
    if i.is '"' then
      if (rest.take 2).length = 2 ∧ (rest.take 2).all (·.is '"') then none else scanFrom 0 rest
    else none

example : (readString? (translate "\"\\u0041\\\\u0041\\101\\u005c\\u0022\", b".toList)).map Prod.fst =
    some ("A\\u0041A\"".toList.flatMap utf16) := by decide
example : readString? (translate "\"\\\\\\u12\"".toList) = none := by decide
example : readString? (translate "\"\\u000a\"".toList) = none := by decide

/-! ### Code units tell the characters -/

theorem utf16_ne_nil (c : Char) : utf16 c ≠ [] := by
  unfold utf16
  split <;> exact List.cons_ne_nil _ _

/-- A character is no surrogate. -/
theorem toNat_lt_or_gt (c : Char) : c.toNat < 0xD800 ∨ (0xDFFF < c.toNat ∧ c.toNat < 0x110000) :=
  c.valid

/-- The first unit tells whether there is a second one. -/
theorem utf16_append_inj {c d : Char} {a b : List Nat} (h : utf16 c ++ a = utf16 d ++ b) :
    c = d ∧ a = b := by
  have hc := toNat_lt_or_gt c
  have hd := toNat_lt_or_gt d
  unfold utf16 at h
  split at h <;> split at h
  · obtain ⟨h, hab⟩ := List.cons.inj h
    exact ⟨Char.toNat_inj.mp h, hab⟩
  · have := (List.cons.inj h).1
    omega
  · have := (List.cons.inj h).1
    omega
  · obtain ⟨h₁, h⟩ := List.cons.inj h
    obtain ⟨h₂, hab⟩ := List.cons.inj h
    exact ⟨Char.toNat_inj.mp (by omega), hab⟩

/-- No two texts have the same code units. -/
theorem units_injective : ∀ {s t : List Char}, s.flatMap utf16 = t.flatMap utf16 → s = t
  | [], [], _ => rfl
  | [], d :: _, h => absurd (List.append_eq_nil_iff.mp h.symm).1 (utf16_ne_nil d)
  | c :: _, [], h => absurd (List.append_eq_nil_iff.mp h).1 (utf16_ne_nil c)
  | c :: rest, d :: more, h => by
    rw [List.flatMap_cons, List.flatMap_cons] at h
    obtain ⟨hcd, h⟩ := utf16_append_inj h
    rw [hcd, units_injective h]

/-- A character below 128 is its only code unit. -/
theorem is_plain {c d : Char} (hd : d.toNat < 0x80) : (InputChar.plain c).is d = decide (c = d) := by
  have hiff : utf16 c = [d.toNat] ↔ c = d := by
    have hunits : utf16 d = [d.toNat] := if_pos (by omega)
    constructor
    · intro h
      exact (utf16_append_inj (a := []) (b := []) (by rw [h, hunits])).1
    · rintro rfl
      exact hunits
  exact decide_eq_decide.mpr hiff

/-! ### The first pass loses nothing -/

theorem written_eligible (rest : List Char) :
    ∃ taken, (eligible rest).written = '\\' :: taken ∧ taken <+: rest := by
  unfold eligible
  simp only
  split
  · exact ⟨[], rfl, List.nil_prefix⟩
  split
  · refine ⟨_, rfl, (rest.dropWhile (· = 'u')).drop 4, ?_⟩
    rw [List.append_assoc, List.take_append_drop, List.takeWhile_append_dropWhile]
  · exact ⟨[], rfl, List.nil_prefix⟩

/-- The input characters stand for the source text, all of it. -/
theorem written_translateFrom (skip : Nat) (odd : Bool) (cs : List Char) :
    (translateFrom skip odd cs).flatMap InputChar.written = cs.drop skip := by
  induction cs generalizing skip odd with
  | nil => simp [translateFrom]
  | cons c rest ih =>
    cases skip with
    | succ skip => rw [translateFrom, ih, List.drop_succ_cons]
    | zero =>
      unfold translateFrom
      split
      · rename_i hc
        split
        · rw [List.flatMap_cons, ih]
          rfl
        · obtain ⟨taken, hw, more, rfl⟩ := written_eligible rest
          rw [List.flatMap_cons, ih, hw, hc]
          simp
      · rw [List.flatMap_cons, ih]
        rfl

theorem written_translate (cs : List Char) : (translate cs).flatMap InputChar.written = cs :=
  written_translateFrom 0 false cs

/-! ### The first pass where an escape cannot go on -/

/-- Whether the character belongs to no Unicode escape and begins none. -/
def isBoundary (c : Char) : Bool :=
  c ≠ '\\' && c ≠ 'u' && !isHexDigit c

theorem takeWhile_append_cons {p : Char → Bool} {c : Char} (hc : p c = false) (a x : List Char) :
    (a ++ c :: x).takeWhile p = a.takeWhile p := by
  induction a with
  | nil => exact List.takeWhile_cons_of_neg (by simp [hc])
  | cons d rest ih => rw [List.cons_append, List.takeWhile_cons, List.takeWhile_cons, ih]

theorem dropWhile_append_cons {p : Char → Bool} {c : Char} (hc : p c = false) (a x : List Char) :
    (a ++ c :: x).dropWhile p = a.dropWhile p ++ c :: x := by
  induction a with
  | nil => exact List.dropWhile_cons_of_neg (by simp [hc])
  | cons d rest ih =>
    rw [List.cons_append, List.dropWhile_cons, List.dropWhile_cons, ih]
    split <;> rfl

/-- What a backslash begins does not depend on what stands behind a boundary, and ends before it. -/
theorem eligible_append {c : Char} (hc : isBoundary c = true) (a x : List Char) :
    eligible (a ++ c :: x) = eligible a := by
  obtain ⟨hu, hhex⟩ : c ≠ 'u' ∧ isHexDigit c = false := by
    simp only [isBoundary, Bool.and_eq_true] at hc
    exact ⟨of_decide_eq_true hc.1.2, by simpa using hc.2⟩
  have hmarks := takeWhile_append_cons (p := (· = 'u')) (decide_eq_false hu) a x
  have hrest := dropWhile_append_cons (p := (· = 'u')) (decide_eq_false hu) a x
  unfold eligible
  simp only [hmarks, hrest]
  generalize a.dropWhile (· = 'u') = b
  by_cases hb : 4 ≤ b.length
  · rw [List.take_append_of_le_length hb]
  · -- a digit is missing on the left, and where it should stand on the right the boundary stands
    have hleft : ¬ ((b.take 4).length = 4 ∧ (b.take 4).all isHexDigit = true) := by
      rw [List.length_take]
      omega
    have hright : ¬ (((b ++ c :: x).take 4).length = 4 ∧
        ((b ++ c :: x).take 4).all isHexDigit = true) := by
      rintro ⟨-, hall⟩
      have hmem : c ∈ (b ++ c :: x).take 4 := by
        obtain ⟨n, hn⟩ : ∃ n, 4 - b.length = n + 1 := ⟨3 - b.length, by omega⟩
        rw [List.take_append, hn, List.take_succ_cons]
        simp
      rw [List.all_eq_true.mp hall c hmem] at hhex
      cases hhex
    rw [if_neg hleft, if_neg hright]

theorem translateFrom_append {c : Char} (hc : isBoundary c = true) {a : List Char} {skip : Nat}
    (h : skip ≤ a.length) (odd : Bool) (x : List Char) :
    translateFrom skip odd (a ++ c :: x) = translateFrom skip odd (a ++ [c]) ++ translate x := by
  induction a generalizing skip odd with
  | nil =>
    have hskip : skip = 0 := Nat.le_zero.mp h
    have hslash : c ≠ '\\' := by
      rintro rfl
      cases hc
    rw [hskip]
    simp [translateFrom, hslash, translate]
  | cons d rest ih =>
    rw [List.cons_append, List.cons_append]
    cases skip with
    | succ skip => exact ih (Nat.le_of_succ_le_succ h) false
    | zero =>
      unfold translateFrom
      rw [eligible_append hc, eligible_append hc]
      obtain ⟨taken, hw, htaken⟩ := written_eligible rest
      have hlength : (eligible rest).written.length - 1 ≤ rest.length := by
        rw [hw]
        exact htaken.length_le
      split
      · split
        · rw [ih (Nat.zero_le _), List.cons_append]
        · rw [ih hlength, List.cons_append]
      · rw [ih (Nat.zero_le _), List.cons_append]

/-- The first pass goes through a text that ends in a boundary as if nothing came behind it, and
through what comes behind it as if nothing stood before. -/
theorem translate_append {c : Char} (hc : isBoundary c = true) (a x : List Char) :
    translate (a ++ c :: x) = translate (a ++ [c]) ++ translate x :=
  translateFrom_append hc (Nat.zero_le _) false x

/-! ### The first pass over a literal -/

/-- The characters that are written behind a backslash. -/
def escaped : List Char := ['\\', '"', '\n', '\r', '\t', '\u0008', '\u000c']

/-- A character is written by itself, or behind a backslash as the escape table has it. -/
theorem escape_cases (c : Char) :
    (∃ d, escape c = ['\\', d] ∧ d ≠ 'u' ∧ (d, c.toNat) ∈ escapeTable) ∨
      (escape c = [c] ∧ c ∉ escaped) := by
  by_cases hc : c ∈ escaped
  · have hall : ∀ c ∈ escaped, escape c = ['\\', (escape c).getLastD c] ∧
        (escape c).getLastD c ≠ 'u' ∧ ((escape c).getLastD c, c.toNat) ∈ escapeTable :=
      Text.of_mem_all (by decide)
    exact Or.inl ⟨_, hall c hc⟩
  · simp only [escaped, List.mem_cons, List.not_mem_nil, or_false, not_or] at hc
    obtain ⟨h₁, h₂, h₃, h₄, h₅, h₆, h₇⟩ := hc
    have he : escape c = [c] := by
      rw [escape, if_neg h₁, if_neg h₂, if_neg h₃, if_neg h₄, if_neg h₅, if_neg h₆, if_neg h₇]
    exact Or.inr ⟨he, by simp [escaped, *]⟩

theorem ne_of_notMem_escaped {c d : Char} (hc : c ∉ escaped) (hd : d ∈ escaped) : c ≠ d :=
  fun h => hc (h ▸ hd)

theorem translate_cons {c : Char} (hc : c ≠ '\\') (x : List Char) :
    translate (c :: x) = .plain c :: translate x := by
  rw [translate, translateFrom, if_neg hc, translate]

/-- Text without backslashes is left as it is. -/
theorem translate_plain {cs : List Char} (h : ∀ c ∈ cs, c ≠ '\\') (x : List Char) :
    translate (cs ++ x) = cs.map .plain ++ translate x := by
  induction cs with
  | nil => rfl
  | cons c rest ih =>
    have hrest := ih fun d hd => h d (List.mem_cons_of_mem c hd)
    rw [List.cons_append, translate_cons (h c List.mem_cons_self), hrest]
    rfl

/-- A backslash that no u follows makes the next character stand for itself, a backslash too. -/
theorem translate_backslash {d : Char} (hd : d ≠ 'u') (x : List Char) :
    translate ('\\' :: d :: x) = .plain '\\' :: .plain d :: translate x := by
  have hplain : eligible (d :: x) = .plain '\\' := by
    have hmarks : (d :: x).takeWhile (· = 'u') = [] := List.takeWhile_cons_of_neg (by simpa using hd)
    unfold eligible
    rw [if_pos hmarks]
  have hodd : translateFrom 0 true (d :: x) = .plain d :: translate x := by
    unfold translateFrom
    split <;> rfl
  rw [translate, translateFrom, if_pos rfl, hplain, ← hodd]
  rfl

/-- The first pass finds nothing to replace in a written character, whatever comes behind it. -/
theorem translate_escape (c : Char) (x : List Char) :
    translate (escape c ++ x) = (escape c).map .plain ++ translate x := by
  rcases escape_cases c with ⟨d, he, hd, -⟩ | ⟨he, hc⟩
  · rw [he]
    exact translate_backslash hd x
  · rw [he]
    exact translate_cons (ne_of_notMem_escaped hc (by decide)) x

theorem translate_escapes (cs x : List Char) :
    translate (cs.flatMap escape ++ x) = (cs.flatMap escape).map .plain ++ translate x := by
  induction cs with
  | nil => rfl
  | cons c rest ih =>
    rw [List.flatMap_cons, List.append_assoc, translate_escape, ih, List.map_append, List.append_assoc]

/-- The first pass leaves a literal as it is, and the text behind it is gone through as if nothing
stood before. -/
theorem translate_stringChars (cs x : List Char) :
    translate (stringChars cs ++ x) = (stringChars cs).map .plain ++ translate x := by
  have hquote : ('"' : Char) ≠ '\\' := by decide
  calc translate (stringChars cs ++ x)
      = translate ('"' :: (cs.flatMap escape ++ '"' :: x)) := by simp [stringChars]
    _ = .plain '"' :: ((cs.flatMap escape).map .plain ++ .plain '"' :: translate x) := by
      rw [translate_cons hquote, translate_escapes, translate_cons hquote]
    _ = (stringChars cs).map .plain ++ translate x := by simp [stringChars]

/-! ### The second pass over a literal -/

/-- What the escape table has stands behind a backslash for its unit. -/
theorem escapeSequence?_plain {d : Char} {n : Nat} (h : (d, n) ∈ escapeTable) (x : List InputChar) :
    escapeSequence? (.plain d :: x) = some (n, 1) := by
  have hfind : ∀ p ∈ escapeTable,
      escapeTable.find? (fun e => (InputChar.plain p.1).is e.1) = some p := by decide
  rw [escapeSequence?, hfind (d, n) h]

/-- The second pass takes a written character in one step, for the units of the character. -/
theorem scanFrom_escape (c : Char) (x : List InputChar) :
    scanFrom 0 ((escape c).map .plain ++ x) =
      (scanFrom 0 x).map fun p => (utf16 c ++ p.1, p.2) := by
  rcases escape_cases c with ⟨d, he, -, hd⟩ | ⟨he, hc⟩
  · have hunit : utf16 c = [c.toNat] := by
      have hsmall : ∀ e ∈ escapeTable, e.2 < 0x10000 := by decide
      exact if_pos (hsmall (d, c.toNat) hd)
    rw [he, hunit]
    show scanFrom 0 (.plain '\\' :: .plain d :: x) = _
    rw [scanFrom, if_neg (by decide), if_pos (by decide), escapeSequence?_plain hd]
    rfl
  · have hquote : (InputChar.plain c).is '"' = false := by
      rw [is_plain (by decide)]
      exact decide_eq_false (ne_of_notMem_escaped hc (by decide))
    have hslash : (InputChar.plain c).is '\\' = false := by
      rw [is_plain (by decide)]
      exact decide_eq_false (ne_of_notMem_escaped hc (by decide))
    have hline : ¬ ((InputChar.plain c).is '\n' ∨ (InputChar.plain c).is '\r' ∨
        InputChar.plain c = .malformed) := by
      rw [is_plain (by decide), is_plain (by decide), decide_eq_true_eq, decide_eq_true_eq]
      rintro (h | h | h)
      · exact ne_of_notMem_escaped hc (by decide) h
      · exact ne_of_notMem_escaped hc (by decide) h
      · cases h
    rw [he]
    show scanFrom 0 (.plain c :: x) = _
    rw [scanFrom, hquote, hslash, if_neg Bool.false_ne_true, if_neg Bool.false_ne_true, if_neg hline]
    rfl

theorem scanFrom_escapes (cs : List Char) (x : List InputChar) :
    scanFrom 0 ((cs.flatMap escape).map .plain ++ .plain '"' :: x) = some (cs.flatMap utf16, x) := by
  induction cs with
  | nil => rfl
  | cons c rest ih =>
    rw [List.flatMap_cons, List.map_append, List.append_assoc, scanFrom_escape, ih, List.flatMap_cons]
    rfl

/-- What comes right behind an opening quote is no quote unless it closes the literal. -/
theorem head_escapes (cs : List Char) :
    cs = [] ∨ ∃ d rest, cs.flatMap escape = d :: rest ∧ d ≠ '"' := by
  cases cs with
  | nil => exact Or.inl rfl
  | cons c rest =>
    rw [List.flatMap_cons]
    rcases escape_cases c with ⟨d, he, -, -⟩ | ⟨he, hc⟩
    · exact Or.inr ⟨'\\', _, by rw [he]; rfl, by decide⟩
    · exact Or.inr ⟨c, _, by rw [he]; rfl, ne_of_notMem_escaped hc (by decide)⟩

/-- **A string literal is read back.** It stands for the code units of the string that it was written
for, and what is left is the text behind it, if no quote comes next there. -/
theorem readString?_stringChars (cs : List Char) {c : Char} (hc : c ≠ '"') (hs : c ≠ '\\')
    (r : List Char) :
    readString? (translate (stringChars cs ++ c :: r)) = some (cs.flatMap utf16, translate (c :: r)) := by
  have htext : translate (stringChars cs ++ c :: r) =
      .plain '"' :: ((cs.flatMap escape).map .plain ++ .plain '"' :: translate (c :: r)) := by
    rw [translate_stringChars]
    simp [stringChars]
  have hplain : ∀ {d : Char}, d ≠ '"' → (InputChar.plain d).is '"' = false := fun hd => by
    rw [is_plain (by decide)]
    exact decide_eq_false hd
  have hblock : ¬ ((((cs.flatMap escape).map InputChar.plain ++
      .plain '"' :: translate (c :: r)).take 2).length = 2 ∧
      (((cs.flatMap escape).map InputChar.plain ++
        .plain '"' :: translate (c :: r)).take 2).all (·.is '"')) := by
    rintro ⟨-, hall⟩
    rcases head_escapes cs with rfl | ⟨d, rest, he, hd⟩
    · rw [translate_cons hs] at hall
      have := List.all_eq_true.mp hall (.plain c) (by simp)
      rw [hplain hc] at this
      cases this
    · rw [he] at hall
      have := List.all_eq_true.mp hall (.plain d) (by simp)
      rw [hplain hd] at this
      cases this
  rw [htext, readString?, if_pos (by decide), if_neg hblock, scanFrom_escapes]

/-! ### Lines and quotes in a literal -/

/-- No line ends in a literal. -/
theorem lineEnd_notMem_stringChars (cs : List Char) :
    '\n' ∉ stringChars cs ∧ '\r' ∉ stringChars cs := by
  have hescape : ∀ c : Char, '\n' ∉ escape c ∧ '\r' ∉ escape c := by
    intro c
    rcases escape_cases c with ⟨d, he, -, hd⟩ | ⟨he, hc⟩
    · have hletter : ∀ e ∈ escapeTable, '\n' ∉ ['\\', e.1] ∧ '\r' ∉ ['\\', e.1] := by decide
      rw [he]
      exact hletter (d, c.toNat) hd
    · rw [he, List.mem_singleton, List.mem_singleton]
      exact ⟨(ne_of_notMem_escaped hc (by decide)).symm, (ne_of_notMem_escaped hc (by decide)).symm⟩
  have hquote : '\n' ≠ '"' ∧ '\r' ≠ '"' := by decide
  constructor
  · simp only [stringChars, List.mem_cons, List.mem_append, List.mem_flatMap, List.not_mem_nil,
      or_false, hquote.1, false_or]
    rintro ⟨c, -, h⟩
    exact (hescape c).1 h
  · simp only [stringChars, List.mem_cons, List.mem_append, List.mem_flatMap, List.not_mem_nil,
      or_false, hquote.2, false_or]
    rintro ⟨c, -, h⟩
    exact (hescape c).2 h

/-- Whether an odd number of backslashes stands at the end of the text. -/
def endsOdd (cs : List Char) : Bool :=
  (cs.reverse.takeWhile (· = '\\')).length % 2 = 1

theorem endsOdd_append_singleton (cs : List Char) (c : Char) :
    endsOdd (cs ++ [c]) = (decide (c = '\\') && !endsOdd cs) := by
  unfold endsOdd
  rw [List.reverse_append, List.reverse_singleton, List.singleton_append]
  by_cases hc : c = '\\'
  · rw [List.takeWhile_cons_of_pos (by simpa using hc), List.length_cons, decide_eq_true hc,
      Bool.true_and, ← decide_not]
    exact decide_eq_decide.mpr (by omega)
  · rw [List.takeWhile_cons_of_neg (by simpa using hc), decide_eq_false hc]
    rfl

/-- Behind text that ends in an even number of backslashes, every quote in the written characters has
an odd number of them before it. The characters are gone through one by one; each leaves an even number
again. -/
theorem endsOdd_of_quote_escapes {cs before a b : List Char} (hb : endsOdd before = false)
    (h : cs.flatMap escape = a ++ '"' :: b) : endsOdd (before ++ a) = true := by
  induction cs generalizing before a with
  | nil => exact absurd h.symm (List.append_ne_nil_of_right_ne_nil a (List.cons_ne_nil _ _))
  | cons c rest ih =>
    rw [List.flatMap_cons] at h
    rcases escape_cases c with ⟨d, he, -, -⟩ | ⟨he, hc⟩
    · have h : '\\' :: d :: rest.flatMap escape = a ++ '"' :: b := by rwa [he] at h
      have hslash : endsOdd (before ++ ['\\']) = true := by rw [endsOdd_append_singleton, hb]; rfl
      match a with
      | [] => exact absurd (List.cons.inj h).1 (by decide)
      | [x] =>
        rw [← (List.cons.inj h).1]
        exact hslash
      | x :: y :: more =>
        obtain ⟨hx, h⟩ := List.cons.inj h
        obtain ⟨hy, h⟩ := List.cons.inj h
        have heven : endsOdd ((before ++ ['\\']) ++ [d]) = false := by
          rw [endsOdd_append_singleton, hslash, Bool.not_true, Bool.and_false]
        have := ih heven h
        rwa [List.append_assoc, List.append_assoc, hx, hy] at this
    · have h : c :: rest.flatMap escape = a ++ '"' :: b := by rwa [he] at h
      match a with
      | [] => exact absurd (List.cons.inj h).1 (ne_of_notMem_escaped hc (by decide))
      | x :: more =>
        obtain ⟨hx, h⟩ := List.cons.inj h
        have heven : endsOdd (before ++ [c]) = false := by
          rw [endsOdd_append_singleton, decide_eq_false (ne_of_notMem_escaped hc (by decide)),
            Bool.false_and]
        have := ih heven h
        rwa [List.append_assoc, hx] at this

/-- Every quote in a literal but the first and the last has an odd number of backslashes before it. -/
theorem endsOdd_of_quote {cs a b : List Char} (ha : a ≠ []) (hb : b ≠ [])
    (h : stringChars cs = a ++ '"' :: b) : endsOdd a = true := by
  obtain ⟨x, a, rfl⟩ := List.exists_cons_of_ne_nil ha
  obtain ⟨hx, h⟩ := List.cons.inj h
  have hinner : cs.flatMap escape = a ++ '"' :: b.dropLast := by
    have h : cs.flatMap escape ++ ['"'] = a ++ '"' :: b := h
    have := congrArg List.dropLast h
    rwa [List.dropLast_concat, List.dropLast_append_of_ne_nil (List.cons_ne_nil _ _),
      List.dropLast_cons_of_ne_nil hb] at this
  rw [← hx]
  exact endsOdd_of_quote_escapes (show endsOdd ['"'] = false from rfl) hinner

end Java
end Intertype
