/-
# Grammars over tokens

A grammar gives each of its symbols a rule, and a rule says which runs of tokens it derives: a word, a
mark, one rule after another, one of several, a rule again and again. `Derives` states this as a
relation between the tokens before a derivation and those left after it; `Rule.rests` computes the
possible rests. Comments may stand before any token.

A word is a keyword where the grammar can go on with it there, and an identifier otherwise, so a rule
for an identifier names the words that it must not be.

A derivation notes whether it went through a rule marked as worth noting.

Key definitions: `Grammar.Rule`, `Grammar.Derives`, `Grammar.Rule.rests`.
Key theorem: `Grammar.derives_of_mem_rests`.
-/
import Intertype.Java.Token

namespace Intertype
namespace Java
namespace Grammar

/-- What derives runs of tokens, in terms of the symbols of a grammar. -/
inductive Rule (S : Type)
  /-- This word. -/
  | word (w : String)
  /-- These characters, as tokens with nothing between them. -/
  | mark (m : String)
  /-- Any word but these. -/
  | name (reserved : List String)
  /-- A number, a character or a string. -/
  | literal
  /-- What the symbol derives. -/
  | symbol (s : S)
  /-- These, one after the other. -/
  | all (rules : List (Rule S))
  /-- One of these. -/
  | one (rules : List (Rule S))
  /-- This any number of times. -/
  | many (rule : Rule S)
  /-- This, and it is worth noting. -/
  | noted (rule : Rule S)

/-- The tokens from the first that is no comment. -/
def skipComments (ts : List Token) : List Token :=
  ts.dropWhile Token.isComment

/-- The tokens after those that spell the characters, with nothing between them. -/
def afterMark? : List Char → List Token → Option (List Token)
  | [], _ => none
  | _, [] => none
  | m, t :: rest =>
    match t.text.isPrefixOf? m with
    | none => none
    | some [] => if t.text = [] then none else some rest
    | some more =>
      match rest with
      | [] => none
      | next :: _ => if t.text ≠ [] ∧ next.before = [] then afterMark? more rest else none

/-- The tokens after the word. -/
def afterWord? (accepts : List Char → Bool) : List Token → Option (List Token)
  | [] => none
  | t :: rest => if t.kind = .word ∧ accepts t.text then some rest else none

/-- The tokens after a literal. -/
def afterLiteral? : List Token → Option (List Token)
  | [] => none
  | t :: rest =>
    if t.kind = .number ∨ t.kind = .character ∨ t.kind = .string then some rest else none

/-- Whether the word is none of these. -/
def isNot (reserved : List String) (w : List Char) : Bool :=
  reserved.all fun r => r.toList ≠ w

section

variable {S : Type} (productions : S → Rule S)

/-- `Derives rule ts noted rest`: the tokens up to `rest` are derived from the rule. -/
inductive Derives : Rule S → List Token → Bool → List Token → Prop
  | word {w ts rest} : afterWord? (· = w.toList) (skipComments ts) = some rest →
      Derives (.word w) ts false rest
  | mark {m ts rest} : afterMark? m.toList (skipComments ts) = some rest →
      Derives (.mark m) ts false rest
  | name {reserved ts rest} : afterWord? (isNot reserved) (skipComments ts) = some rest →
      Derives (.name reserved) ts false rest
  | literal {ts rest} : afterLiteral? (skipComments ts) = some rest → Derives .literal ts false rest
  | symbol {s ts b rest} : Derives (productions s) ts b rest → Derives (.symbol s) ts b rest
  | nothing {ts} : Derives (.all []) ts false ts
  | next {r rs ts b mid c rest} : Derives r ts b mid → Derives (.all rs) mid c rest →
      Derives (.all (r :: rs)) ts (b || c) rest
  | one {r rs ts b rest} : r ∈ rs → Derives r ts b rest → Derives (.one rs) ts b rest
  | stop {r ts} : Derives (.many r) ts false ts
  | again {r ts b mid c rest} : Derives r ts b mid → Derives (.many r) mid c rest →
      Derives (.many r) ts (b || c) rest
  | noted {r ts b rest} : Derives r ts b rest → Derives (.noted r) ts true rest

end

/-- A way on: whether something was noted, and the tokens left. -/
abbrev Rest := Bool × List Token

/-- The ways on without those that leave as many tokens as one before them and note the same. -/
def distinct : List Rest → List Rest
  | [] => []
  | p :: more =>
    p :: (distinct more).filter fun q => !(q.1 = p.1 && q.2.length = p.2.length)

theorem mem_of_mem_distinct {p : Rest} {ps : List Rest} (h : p ∈ distinct ps) : p ∈ ps := by
  induction ps with
  | nil => exact h
  | cons q more ih =>
    rcases List.mem_cons.1 h with rfl | h
    · exact List.mem_cons_self
    · exact List.mem_cons_of_mem _ (ih (List.mem_filter.1 h).1)

/-- The way on from a token read. -/
def restOf : Option (List Token) → List Rest
  | none => []
  | some rest => [(false, rest)]

theorem restOf_eq {o : Option (List Token)} {p : Rest} (h : p ∈ restOf o) :
    o = some p.2 ∧ p.1 = false := by
  cases o with
  | none => cases h
  | some rest =>
    rw [List.mem_singleton.1 h]
    exact ⟨rfl, rfl⟩

namespace Rule

variable {S : Type}

/-- The possible rests after a derivation of no more than so many steps in depth. -/
def rests (productions : S → Rule S) : Nat → Rule S → List Token → List Rest
  | 0, _, _ => []
  | fuel + 1, rule, ts =>
    match rule with
    | .word w => restOf (afterWord? (· = w.toList) (skipComments ts))
    | .mark m => restOf (afterMark? m.toList (skipComments ts))
    | .name reserved => restOf (afterWord? (isNot reserved) (skipComments ts))
    | .literal => restOf (afterLiteral? (skipComments ts))
    | .symbol s => distinct (rests productions fuel (productions s) ts)
    | .all [] => [(false, ts)]
    | .all (r :: rs) =>
      (rests productions fuel r ts).flatMap fun p =>
        (rests productions fuel (.all rs) p.2).map fun q => (p.1 || q.1, q.2)
    | .one rs => rs.flatMap fun r => rests productions fuel r ts
    | .many r =>
      distinct ((false, ts) ::
        ((rests productions fuel r ts).filter fun p => p.2.length < ts.length).flatMap fun p =>
          (rests productions fuel (.many r) p.2).map fun q => (p.1 || q.1, q.2))
    | .noted r => (rests productions fuel r ts).map fun p => (true, p.2)

/-- A rule or nothing. -/
def optional (r : Rule S) : Rule S :=
  .one [r, .all []]

/-- A rule once or more, with a separator between each two. -/
def separated (separator : String) (r : Rule S) : Rule S :=
  .all [r, .many (.all [.mark separator, r])]

end Rule

/-- **Every rest found is one.** What is left of the tokens is left by a derivation. -/
theorem derives_of_mem_rests {S : Type} {productions : S → Rule S} {fuel : Nat} {rule : Rule S}
    {ts : List Token} {p : Rest} (h : p ∈ rule.rests productions fuel ts) :
    Derives productions rule ts p.1 p.2 := by
  induction fuel generalizing rule ts p with
  | zero => cases h
  | succ fuel ih =>
    unfold Rule.rests at h
    split at h
    · have he := restOf_eq h
      rw [he.2]
      exact .word he.1
    · have he := restOf_eq h
      rw [he.2]
      exact .mark he.1
    · have he := restOf_eq h
      rw [he.2]
      exact .name he.1
    · have he := restOf_eq h
      rw [he.2]
      exact .literal he.1
    · exact .symbol (ih (mem_of_mem_distinct h))
    · rw [List.mem_singleton.1 h]
      exact .nothing
    · obtain ⟨q, hq, h⟩ := List.mem_flatMap.1 h
      obtain ⟨q', hq', rfl⟩ := List.mem_map.1 h
      exact .next (ih hq) (ih hq')
    · obtain ⟨r, hr, h⟩ := List.mem_flatMap.1 h
      exact .one hr (ih h)
    · rcases List.mem_cons.1 (mem_of_mem_distinct h) with rfl | h
      · exact .stop
      · obtain ⟨q, hq, h⟩ := List.mem_flatMap.1 h
        obtain ⟨q', hq', rfl⟩ := List.mem_map.1 h
        exact .again (ih (List.mem_filter.1 hq).1) (ih hq')
    · obtain ⟨q, hq, rfl⟩ := List.mem_map.1 h
      exact .noted (ih (p := q) hq)

end Grammar
end Java
end Intertype
