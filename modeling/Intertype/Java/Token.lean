/-
# Java tokens

Source text is cut into tokens: words, single marks, numbers, character and string literals, and
comments. A word is an identifier or a keyword; which it is depends on the place where it stands, and
is left to the grammar. A mark of several characters is a run of marks with nothing between them. A
token keeps the white space before it, and the place where it begins.

What is no token, such as a quote that is never closed, becomes a mark that no grammar asks for.

Key definitions: `Java.Token`, `Java.scan`.
Key theorems: `Java.cut_lossless`, `Java.exists_of_mem_scan`.
-/
import Intertype.Java.Identifier
import Intertype.Text.Blank

namespace Intertype
namespace Java

/-- What kind of token it is. -/
inductive TokenKind
  | word
  | mark
  | number
  | character
  | string
  | blockComment
  | lineComment
  deriving DecidableEq, Repr

/-- A token of source text. -/
structure Token where
  /-- The white space before it. -/
  before : List Char
  kind : TokenKind
  /-- The characters of the token itself. -/
  text : List Char
  /-- The place of its first byte in the source. -/
  start : Nat
  deriving DecidableEq, Repr

/-- The number of bytes that the text takes. -/
def bytes (cs : List Char) : Nat :=
  (cs.flatMap String.utf8EncodeChar).length

/-- The place behind the last byte of the token. -/
def Token.stop (t : Token) : Nat :=
  t.start + bytes t.text

/-- Whether the token is a comment. -/
def Token.isComment (t : Token) : Bool :=
  t.kind = .blockComment || t.kind = .lineComment

/-! ### Numbers -/

/-- Whether the text is a run of the given digits, with underscores only between two of them. -/
def isDigitRun (isDigit : Char → Bool) (cs : List Char) : Bool :=
  match cs.head?, cs.getLast? with
  | some a, some b => isDigit a && isDigit b && cs.all fun c => isDigit c || c = '_'
  | _, _ => false

/-- Whether the character is a hexadecimal digit. -/
def isHexDigit (c : Char) : Bool :=
  c.isDigit || ('a' ≤ c && c ≤ 'f') || ('A' ≤ c && c ≤ 'F')

/-- The text without the suffix of a long integer. -/
def withoutLong (cs : List Char) : List Char :=
  match cs.getLast? with
  | some c => if c = 'l' ∨ c = 'L' then cs.dropLast else cs
  | none => cs

/-- Whether the text is an integer in decimal or, after a zero, in octal digits. -/
def isInteger (cs : List Char) : Bool :=
  match cs with
  | ['0'] => true
  | '0' :: rest => isDigitRun (fun c => '0' ≤ c && c ≤ '7') (rest.dropWhile (· = '_'))
  | _ => isDigitRun Char.isDigit cs

/-- Whether the text is the exponent of a number, after its letter. -/
def isExponent : List Char → Bool
  | '+' :: cs => isDigitRun Char.isDigit cs
  | '-' :: cs => isDigitRun Char.isDigit cs
  | cs => isDigitRun Char.isDigit cs

/-- Whether the text is a number with a point, an exponent or the suffix of a floating type. -/
def isFloating (cs : List Char) : Bool :=
  let isSuffix := fun c : Char => c ∈ ['f', 'F', 'd', 'D']
  let body := if cs.getLast?.any isSuffix then cs.dropLast else cs
  let isLetter := fun c : Char => c ∈ ['e', 'E', 'p', 'P']
  let mantissa := body.takeWhile fun c => !isLetter c
  let exponent := body.dropWhile fun c => !isLetter c
  let whole := mantissa.takeWhile (· ≠ '.')
  let fraction := mantissa.dropWhile (· ≠ '.')
  let isRun := fun ds : List Char => ds = [] || isDigitRun Char.isDigit ds
  (isRun whole && isRun fraction.tail && mantissa ≠ [] && mantissa ≠ ['.']) &&
    (exponent = [] || isExponent exponent.tail) &&
    (body ≠ cs || fraction ≠ [] || exponent ≠ [])

/-- Whether the text is a number. -/
def isNumber (cs : List Char) : Bool :=
  match cs with
  | '0' :: 'x' :: rest => isDigitRun isHexDigit (withoutLong rest)
  | '0' :: 'X' :: rest => isDigitRun isHexDigit (withoutLong rest)
  | '0' :: 'b' :: rest => isDigitRun (fun c => c = '0' || c = '1') (withoutLong rest)
  | '0' :: 'B' :: rest => isDigitRun (fun c => c = '0' || c = '1') (withoutLong rest)
  | _ => isInteger (withoutLong cs) || isFloating cs

/-- Cuts off what may belong to a number: letters, digits, underscores, points, and a sign after the
letter of an exponent. -/
def cutNumber (previous : Char) : List Char → List Char × List Char
  | [] => ([], [])
  | c :: rest =>
    if c.isAlphanum ∨ c = '_' ∨ c = '.' ∨ ((c = '+' ∨ c = '-') ∧ (previous = 'e' ∨ previous = 'E'))
    then
      let p := cutNumber c rest
      (c :: p.1, p.2)
    else ([], c :: rest)

/-! ### Comments and quotations -/

/-- Cuts off the rest of a block comment. -/
def cutBlock? : List Char → Option (List Char × List Char)
  | [] => none
  | '*' :: '/' :: rest => some (['*', '/'], rest)
  | c :: rest => (cutBlock? rest).map fun p => (c :: p.1, p.2)

/-- Cuts off the rest of a literal up to the quote that closes it; a backslash takes the character
after it along. -/
def cutQuoted? (quote : Char) : List Char → Option (List Char × List Char)
  | [] => none
  | '\\' :: c :: rest => (cutQuoted? quote rest).map fun p => ('\\' :: c :: p.1, p.2)
  | c :: rest =>
    if c = quote then some ([c], rest)
    else if c = '\n' ∧ quote = '\'' then none
    else (cutQuoted? quote rest).map fun p => (c :: p.1, p.2)

/-- Cuts off the rest of a text block up to the three quotes that close it. -/
def cutTextBlock? : List Char → Option (List Char × List Char)
  | [] => none
  | '"' :: '"' :: '"' :: rest => some (['"', '"', '"'], rest)
  | '\\' :: c :: rest => (cutTextBlock? rest).map fun p => ('\\' :: c :: p.1, p.2)
  | c :: rest => (cutTextBlock? rest).map fun p => (c :: p.1, p.2)

/-- A token that was cut off, with what opens it, or the mark that the text starts with. -/
def orMark (kind : TokenKind) (opening : List Char) (c : Char) (rest : List Char) :
    Option (List Char × List Char) → TokenKind × List Char × List Char
  | some (body, after) => (kind, opening ++ body, after)
  | none => (.mark, [c], rest)

/-! ### Cutting text into tokens -/

/-- Cuts off the token that the text starts with; its kind, its text, and what is left. -/
def cut (c : Char) (rest : List Char) : TokenKind × List Char × List Char :=
  if isIdentifierStart c then
    (.word, c :: rest.takeWhile isIdentifierPart, rest.dropWhile isIdentifierPart)
  else if c.isDigit ∨ (c = '.' ∧ rest.head?.any Char.isDigit) then
    let p := cutNumber c rest
    (if isNumber (c :: p.1) then .number else .mark, c :: p.1, p.2)
  else if c = '"' then
    match rest with
    | '"' :: '"' :: more => orMark .string ['"', '"', '"'] c rest (cutTextBlock? more)
    | _ => orMark .string ['"'] c rest (cutQuoted? '"' rest)
  else if c = '\'' then
    match rest with
    | '\'' :: _ => (.mark, [c], rest)
    | _ => orMark .character ['\''] c rest (cutQuoted? '\'' rest)
  else if c = '/' then
    match rest with
    | '*' :: more => orMark .blockComment ['/', '*'] c rest (cutBlock? more)
    | '/' :: more =>
      (.lineComment, '/' :: '/' :: more.takeWhile (· ≠ '\n'), more.dropWhile (· ≠ '\n'))
    | _ => (.mark, [c], rest)
  else (.mark, [c], rest)

/-- The tokens of a text that has at most so many characters, from that place on. -/
def scanWithin : Nat → Nat → List Char → List Token
  | 0, _, _ => []
  | fuel + 1, place, cs =>
    match cs.dropWhile Text.isWhiteSpace with
    | [] => []
    | c :: rest =>
      let before := cs.takeWhile Text.isWhiteSpace
      let (kind, text, after) := cut c rest
      let start := place + bytes before
      ⟨before, kind, text, start⟩ :: scanWithin fuel (start + bytes text) after

/-- The tokens of a text; white space at its end belongs to none. -/
def scan (cs : List Char) : List Token :=
  scanWithin cs.length 0 cs

theorem cutNumber_lossless (previous : Char) (cs : List Char) :
    (cutNumber previous cs).1 ++ (cutNumber previous cs).2 = cs := by
  induction cs generalizing previous with
  | nil => rfl
  | cons c rest ih =>
    unfold cutNumber
    split
    · rw [List.cons_append, ih c]
    · rfl

theorem cutBlock?_lossless {cs : List Char} {p : List Char × List Char}
    (h : cutBlock? cs = some p) : p.1 ++ p.2 = cs := by
  fun_induction cutBlock? cs generalizing p with
  | case1 => cases h
  | case2 rest => rw [← Option.some.inj h]; rfl
  | case3 c rest _ ih =>
    obtain ⟨q, hq, rfl⟩ := Option.map_eq_some_iff.1 h
    simp [ih hq]

theorem cutQuoted?_lossless {quote : Char} {cs : List Char} {p : List Char × List Char}
    (h : cutQuoted? quote cs = some p) : p.1 ++ p.2 = cs := by
  fun_induction cutQuoted? quote cs generalizing p with
  | case1 => cases h
  | case2 c rest ih =>
    obtain ⟨q, hq, rfl⟩ := Option.map_eq_some_iff.1 h
    simp [ih hq]
  | case3 rest => rw [← Option.some.inj h]; rfl
  | case4 => cases h
  | case5 c rest _ _ _ ih =>
    obtain ⟨q, hq, rfl⟩ := Option.map_eq_some_iff.1 h
    simp [ih hq]

theorem cutTextBlock?_lossless {cs : List Char} {p : List Char × List Char}
    (h : cutTextBlock? cs = some p) : p.1 ++ p.2 = cs := by
  fun_induction cutTextBlock? cs generalizing p with
  | case1 => cases h
  | case2 rest => rw [← Option.some.inj h]; rfl
  | case3 c rest ih =>
    obtain ⟨q, hq, rfl⟩ := Option.map_eq_some_iff.1 h
    simp [ih hq]
  | case4 c rest _ _ ih =>
    obtain ⟨q, hq, rfl⟩ := Option.map_eq_some_iff.1 h
    simp [ih hq]

theorem orMark_lossless {kind : TokenKind} {opening : List Char} {c : Char} {rest more : List Char}
    {cutOff : Option (List Char × List Char)} (hopen : opening ++ more = c :: rest)
    (hcut : ∀ p, cutOff = some p → p.1 ++ p.2 = more) :
    (orMark kind opening c rest cutOff).2.1 ++ (orMark kind opening c rest cutOff).2.2 =
      c :: rest := by
  cases cutOff with
  | none => rfl
  | some p =>
    have h := hcut p rfl
    simp only [orMark, List.append_assoc, h, hopen]

/-- **Nothing is lost.** The token cut off and what is left are the text there was. -/
theorem cut_lossless (c : Char) (rest : List Char) :
    (cut c rest).2.1 ++ (cut c rest).2.2 = c :: rest := by
  unfold cut
  split
  · simp [List.takeWhile_append_dropWhile]
  split
  · simp [cutNumber_lossless]
  split
  · rename_i hq
    split
    · exact orMark_lossless (by simp [hq]) fun p => cutTextBlock?_lossless
    · exact orMark_lossless (by simp [hq]) fun p => cutQuoted?_lossless
  split
  · rename_i hq
    split
    · rfl
    · exact orMark_lossless (by simp [hq]) fun p => cutQuoted?_lossless
  split
  · rename_i hs
    split
    · exact orMark_lossless (by simp [hs]) fun p => cutBlock?_lossless
    · simp [hs, List.takeWhile_append_dropWhile]
    · rfl
  · rfl

theorem bytes_append (a b : List Char) : bytes (a ++ b) = bytes a + bytes b := by
  rw [bytes, List.flatMap_append, List.length_append]
  rfl

theorem exists_of_mem_scanWithin {fuel place : Nat} {cs : List Char} {t : Token}
    (h : t ∈ scanWithin fuel place cs) :
    ∃ a b, cs = a ++ (t.text ++ b) ∧ t.start = place + bytes a := by
  induction fuel generalizing place cs with
  | zero => cases h
  | succ fuel ih =>
    unfold scanWithin at h
    split at h
    · cases h
    · rename_i c rest hrest
      have hsplit : cs = cs.takeWhile Text.isWhiteSpace ++ ((cut c rest).2.1 ++ (cut c rest).2.2) := by
        rw [cut_lossless, ← hrest, List.takeWhile_append_dropWhile]
      rcases List.mem_cons.mp h with rfl | h
      · exact ⟨_, _, hsplit, rfl⟩
      · have h : t ∈ scanWithin fuel (place + bytes (cs.takeWhile Text.isWhiteSpace) +
            bytes (cut c rest).2.1) (cut c rest).2.2 := h
        obtain ⟨a, b, hafter, hstart⟩ := ih h
        refine ⟨cs.takeWhile Text.isWhiteSpace ++ (cut c rest).2.1 ++ a, b, ?_, ?_⟩
        · rw [List.append_assoc, List.append_assoc, ← hafter]
          exact hsplit
        · rw [hstart, bytes_append, bytes_append]
          omega

/-- **Tokens stand where they say.** The text of a token is in the source at its place. -/
theorem exists_of_mem_scan {cs : List Char} {t : Token} (h : t ∈ scan cs) :
    ∃ a b, cs = a ++ (t.text ++ b) ∧ t.start = bytes a := by
  obtain ⟨a, b, hsplit, hstart⟩ := exists_of_mem_scanWithin h
  exact ⟨a, b, hsplit, by rw [hstart, Nat.zero_add]⟩

example : (scan "a /*x*/ .b<?>".toList).map (fun t => String.ofList t.text) =
    ["a", "/*x*/", ".", "b", "<", "?", ">"] := by decide
example : (scan "1.5e-3f it's".toList).map Token.kind = [.number, .word, .mark, .word] := by
  decide

end Java
end Intertype
