/-
# Bytes that are UTF-8

The bytes that are read as text are exactly those that are the UTF-8 form of a text, and the text is read
back (`decode_eq_ok_iff`). So the reader refuses nothing that is UTF-8 and lets nothing else pass.

The reader meets a character byte by byte. What it makes of a run of bytes that it takes for one character
is said by `IsRead`; that this is the character whose form the bytes are is arithmetic, for each of the
four lengths (`isRead_iff`).

Key definitions: `Text.Utf8.Unfinished.Finishes`, `Text.Utf8.IsRead`.
Key theorems: `Text.Utf8.isRead_iff`, `Text.Utf8.decode_eq_ok_iff`, `Text.Utf8.decode_eq_error_iff`,
`Text.Utf8.decodeReplacing_forms`.
-/
import Intertype.Text.Utf8

namespace Intertype
namespace Text
namespace Utf8

/-! ### Characters as they are met -/

namespace Unfinished

/-- The bits of the bytes met with those of one more. -/
def bitsWith (p : Unfinished) (b : UInt8) : Nat :=
  p.bits * 64 + b.toNat % 64

/-- With one more byte met, where further ones are to come. -/
def next (p : Unfinished) (b : UInt8) : Unfinished :=
  ⟨p.first, p.met + 1, p.owed - 1, 0x80, 0xBF, p.bitsWith b⟩

/-- The bytes are all that were to come, and make up the character. -/
def Finishes (c : Char) : List UInt8 → Unfinished → Prop
  | [], _ => False
  | b :: w, p => (p.low ≤ b.toNat ∧ b.toNat ≤ p.high) ∧
    if p.owed = 1 then w = [] ∧ c = Char.ofNat (p.bitsWith b) else Finishes c w (p.next b)

end Unfinished

/-- The bytes are met as the one character. -/
def IsRead (c : Char) : List UInt8 → Prop
  | [] => False
  | b :: w =>
    match begin? b with
    | none => False
    | some (.inl d) => w = [] ∧ c = d
    | some (.inr p) => p.Finishes c w

variable {c : Char} {cs : List Char} {b : UInt8} {bytes w : List UInt8} {p : Unfinished} {place : Nat}

theorem isRead_of_whole {d : Char} (h : begin? b = some (.inl d)) :
    IsRead c (b :: w) ↔ w = [] ∧ c = d := by
  simp only [IsRead, h]

theorem isRead_of_begun (h : begin? b = some (.inr p)) : IsRead c (b :: w) ↔ p.Finishes c w := by
  simp only [IsRead, h]

theorem add_length_cons : place + (b :: w).length = place + 1 + w.length := by
  rw [List.length_cons, Nat.add_comm w.length, Nat.add_assoc]

theorem exists_of_map_cons {outcome : Except Fault (List Char)} (h : outcome.map (c :: ·) = .ok cs) :
    ∃ more, cs = c :: more ∧ outcome = .ok more := by
  cases outcome with
  | error f => cases h
  | ok more => exact ⟨more, (Except.ok.inj h).symm, rfl⟩

/-- An unfinished character is finished before the next is begun. -/
theorem decodeFrom_finishes (h : p.Finishes c w) (place : Nat) (rest : List UInt8) :
    decodeFrom place (some p) (w ++ rest) =
      (decodeFrom (place + w.length) none rest).map (c :: ·) := by
  induction w generalizing p place with
  | nil => exact h.elim
  | cons b w ih =>
    obtain ⟨hrange, h⟩ := h
    rw [List.cons_append, decodeFrom, if_pos hrange]
    by_cases howed : p.owed = 1
    · rw [if_pos howed] at h
      obtain ⟨rfl, rfl⟩ := h
      rw [if_pos howed]
      rfl
    · rw [if_neg howed] at h
      rw [if_neg howed, add_length_cons]
      exact ih h (place + 1)

/-- Where the rest of an unfinished character is read, its bytes come first. -/
theorem exists_finishes (h : decodeFrom place (some p) bytes = .ok cs) :
    ∃ c w rest more, bytes = w ++ rest ∧ p.Finishes c w ∧ cs = c :: more ∧
      decodeFrom (place + w.length) none rest = .ok more := by
  induction bytes generalizing p place with
  | nil => cases h
  | cons b bytes ih =>
    rw [decodeFrom] at h
    by_cases hrange : p.low ≤ b.toNat ∧ b.toNat ≤ p.high
    · rw [if_pos hrange] at h
      by_cases howed : p.owed = 1
      · rw [if_pos howed] at h
        obtain ⟨more, rfl, hmore⟩ := exists_of_map_cons h
        have hlast : p.Finishes (Char.ofNat (p.bitsWith b)) [b] :=
          ⟨hrange, by rw [if_pos howed]; exact ⟨rfl, rfl⟩⟩
        exact ⟨_, [b], bytes, more, rfl, hlast, rfl, hmore⟩
      · rw [if_neg howed] at h
        obtain ⟨c, w, rest, more, rfl, hw, rfl, hmore⟩ := ih (p := p.next b) h
        rw [← add_length_cons (b := b)] at hmore
        exact ⟨c, b :: w, rest, more, rfl, ⟨hrange, by rwa [if_neg howed]⟩, rfl, hmore⟩
    · rw [if_neg hrange] at h
      cases h

/-- A character that is met stands before what is read next. -/
theorem decodeFrom_append (h : IsRead c w) (place : Nat) (rest : List UInt8) :
    decodeFrom place none (w ++ rest) =
      (decodeFrom (place + w.length) none rest).map (c :: ·) := by
  cases w with
  | nil => exact h.elim
  | cons b w =>
    rw [List.cons_append, decodeFrom]
    cases hb : begin? b with
    | none =>
      simp only [IsRead, hb] at h
    | some begun =>
      cases begun with
      | inl d =>
        obtain ⟨rfl, rfl⟩ := (isRead_of_whole hb).mp h
        rfl
      | inr p =>
        rw [add_length_cons]
        exact decodeFrom_finishes ((isRead_of_begun hb).mp h) (place + 1) rest

/-- What is read begins with a character that is met. -/
theorem exists_isRead (h : decodeFrom place none (b :: bytes) = .ok cs) :
    ∃ c w rest more, b :: bytes = w ++ rest ∧ IsRead c w ∧ cs = c :: more ∧
      decodeFrom (place + w.length) none rest = .ok more := by
  rw [decodeFrom] at h
  cases hb : begin? b with
  | none =>
    rw [hb] at h
    cases h
  | some begun =>
    rw [hb] at h
    cases begun with
    | inl d =>
      obtain ⟨more, rfl, hmore⟩ := exists_of_map_cons h
      exact ⟨d, [b], bytes, more, rfl, (isRead_of_whole hb).mpr ⟨rfl, rfl⟩, rfl, hmore⟩
    | inr p =>
      obtain ⟨c, w, rest, more, rfl, hw, rfl, hmore⟩ := exists_finishes h
      rw [← add_length_cons (b := b)] at hmore
      exact ⟨c, b :: w, rest, more, rfl, (isRead_of_begun hb).mpr hw, rfl, hmore⟩

/-! ### The form of a character -/

section Forms

variable {v : Nat} {x y z : UInt8}

theorem toNat_val_ofNat (h : v.isValidChar) : (Char.ofNat v).val.toNat = v := by
  rw [Char.ofNat, dif_pos h]
  rfl

theorem form_one (hv : v < 0x80) (hb : b.toNat = v) : String.utf8EncodeChar (Char.ofNat v) = [b] := by
  unfold String.utf8EncodeChar
  rw [toNat_val_ofNat (Or.inl (by omega)), if_pos (by omega), ← hb, UInt8.ofNat_toNat]

theorem form_two (hv : 0x80 ≤ v ∧ v < 0x800) (hb : b.toNat = v / 64 + 0xC0)
    (hx : x.toNat = v % 64 + 0x80) : String.utf8EncodeChar (Char.ofNat v) = [b, x] := by
  have hfirst : v / 64 % 32 + 192 = b.toNat := by omega
  unfold String.utf8EncodeChar
  rw [toNat_val_ofNat (Or.inl (by omega)), if_neg (by omega), if_pos (by omega), hfirst, ← hx,
    UInt8.ofNat_toNat, UInt8.ofNat_toNat]

theorem form_three (hv : 0x800 ≤ v ∧ v < 0x10000) (hvalid : v.isValidChar)
    (hb : b.toNat = v / 4096 + 0xE0) (hx : x.toNat = v / 64 % 64 + 0x80) (hy : y.toNat = v % 64 + 0x80) :
    String.utf8EncodeChar (Char.ofNat v) = [b, x, y] := by
  have hfirst : v / 4096 % 16 + 224 = b.toNat := by omega
  unfold String.utf8EncodeChar
  rw [toNat_val_ofNat hvalid, if_neg (by omega), if_neg (by omega), if_pos (by omega), hfirst, ← hx, ← hy,
    UInt8.ofNat_toNat, UInt8.ofNat_toNat, UInt8.ofNat_toNat]

theorem form_four (hv : 0x10000 ≤ v ∧ v < 0x110000) (hb : b.toNat = v / 262144 + 0xF0)
    (hx : x.toNat = v / 4096 % 64 + 0x80) (hy : y.toNat = v / 64 % 64 + 0x80)
    (hz : z.toNat = v % 64 + 0x80) : String.utf8EncodeChar (Char.ofNat v) = [b, x, y, z] := by
  have hfirst : v / 262144 % 8 + 240 = b.toNat := by omega
  unfold String.utf8EncodeChar
  rw [toNat_val_ofNat (Or.inr (by omega)), if_neg (by omega), if_neg (by omega), if_neg (by omega), hfirst,
    ← hx, ← hy, ← hz, UInt8.ofNat_toNat, UInt8.ofNat_toNat, UInt8.ofNat_toNat, UInt8.ofNat_toNat]

end Forms

namespace Unfinished

theorem finishes_of_last (h : p.owed = 1) : p.Finishes c w ↔
    ∃ x, w = [x] ∧ (p.low ≤ x.toNat ∧ x.toNat ≤ p.high) ∧ c = Char.ofNat (p.bitsWith x) := by
  cases w with
  | nil => exact ⟨False.elim, nofun⟩
  | cons x v =>
    rw [Finishes, if_pos h]
    constructor
    · rintro ⟨hrange, rfl, hc⟩
      exact ⟨x, rfl, hrange, hc⟩
    · rintro ⟨_, hword, hrange, hc⟩
      obtain ⟨rfl, rfl⟩ := List.cons.inj hword
      exact ⟨hrange, rfl, hc⟩

theorem finishes_of_more {n : Nat} (h : p.owed = n + 2) : p.Finishes c w ↔
    ∃ x v, w = x :: v ∧ (p.low ≤ x.toNat ∧ x.toNat ≤ p.high) ∧ (p.next x).Finishes c v := by
  have howed : p.owed ≠ 1 := by omega
  cases w with
  | nil => exact ⟨False.elim, nofun⟩
  | cons x v =>
    rw [Finishes, if_neg howed]
    constructor
    · rintro ⟨hrange, hv⟩
      exact ⟨x, v, rfl, hrange, hv⟩
    · rintro ⟨_, _, hword, hrange, hv⟩
      obtain ⟨rfl, rfl⟩ := List.cons.inj hword
      exact ⟨hrange, hv⟩

end Unfinished

/-- The bytes that a second byte is between, where two first bytes rule some out. -/
theorem between_iff {n m first least last greatest : Nat} :
    ((if n = first then least else 0x80) ≤ m ∧ m ≤ if n = last then greatest else 0xBF) ↔
      ((n = first → least ≤ m) ∧ (n ≠ first → 0x80 ≤ m)) ∧
        (n = last → m ≤ greatest) ∧ (n ≠ last → m ≤ 0xBF) := by
  split <;> split <;> omega

theorem isRead_one (h : b.toNat < 0x80) : IsRead c (b :: w) ↔ w = [] ∧ c = Char.ofNat b.toNat :=
  isRead_of_whole (if_pos h)

theorem not_isRead (h : (0x80 ≤ b.toNat ∧ b.toNat < 0xC2) ∨ 0xF5 ≤ b.toNat) :
    ¬ IsRead c (b :: w) := by
  have hbegin : begin? b = none := by
    unfold begin?
    rw [if_neg (by omega)]
    rcases h with h | h
    · exact if_pos h.2
    · rw [if_neg (by omega), if_neg (by omega), if_neg (by omega), if_neg (by omega)]
  simp only [IsRead, hbegin, not_false_eq_true]

theorem isRead_two (h : 0xC2 ≤ b.toNat ∧ b.toNat < 0xE0) : IsRead c (b :: w) ↔
    ∃ x : UInt8, w = [x] ∧ (0x80 ≤ x.toNat ∧ x.toNat ≤ 0xBF) ∧
      c = Char.ofNat ((b.toNat - 0xC0) * 64 + x.toNat % 64) := by
  have hbegin : begin? b = some (.inr ⟨b, 1, 1, 0x80, 0xBF, b.toNat - 0xC0⟩) := by
    unfold begin?
    rw [if_neg (by omega), if_neg (by omega), if_pos h.2]
  rw [isRead_of_begun hbegin, Unfinished.finishes_of_last rfl]
  rfl

theorem isRead_three (h : 0xE0 ≤ b.toNat ∧ b.toNat < 0xF0) : IsRead c (b :: w) ↔
    ∃ x y : UInt8, w = [x, y] ∧
      (((b.toNat = 0xE0 → 0xA0 ≤ x.toNat) ∧ (b.toNat ≠ 0xE0 → 0x80 ≤ x.toNat)) ∧
        (b.toNat = 0xED → x.toNat ≤ 0x9F) ∧ (b.toNat ≠ 0xED → x.toNat ≤ 0xBF)) ∧
      (0x80 ≤ y.toNat ∧ y.toNat ≤ 0xBF) ∧
      c = Char.ofNat (((b.toNat - 0xE0) * 64 + x.toNat % 64) * 64 + y.toNat % 64) := by
  have hbegin : begin? b = some (.inr ⟨b, 1, 2, if b.toNat = 0xE0 then 0xA0 else 0x80,
      if b.toNat = 0xED then 0x9F else 0xBF, b.toNat - 0xE0⟩) := by
    unfold begin?
    rw [if_neg (by omega), if_neg (by omega), if_neg (by omega), if_pos h.2]
  rw [isRead_of_begun hbegin, Unfinished.finishes_of_more rfl]
  constructor
  · rintro ⟨x, v, rfl, hx, hv⟩
    obtain ⟨y, rfl, hy, hc⟩ := (Unfinished.finishes_of_last rfl).mp hv
    exact ⟨x, y, rfl, between_iff.mp hx, hy, hc⟩
  · rintro ⟨x, y, rfl, hx, hy, hc⟩
    exact ⟨x, [y], rfl, between_iff.mpr hx, (Unfinished.finishes_of_last rfl).mpr ⟨y, rfl, hy, hc⟩⟩

theorem isRead_four (h : 0xF0 ≤ b.toNat ∧ b.toNat < 0xF5) : IsRead c (b :: w) ↔
    ∃ x y z : UInt8, w = [x, y, z] ∧
      (((b.toNat = 0xF0 → 0x90 ≤ x.toNat) ∧ (b.toNat ≠ 0xF0 → 0x80 ≤ x.toNat)) ∧
        (b.toNat = 0xF4 → x.toNat ≤ 0x8F) ∧ (b.toNat ≠ 0xF4 → x.toNat ≤ 0xBF)) ∧
      (0x80 ≤ y.toNat ∧ y.toNat ≤ 0xBF) ∧ (0x80 ≤ z.toNat ∧ z.toNat ≤ 0xBF) ∧
      c = Char.ofNat
        ((((b.toNat - 0xF0) * 64 + x.toNat % 64) * 64 + y.toNat % 64) * 64 + z.toNat % 64) := by
  have hbegin : begin? b = some (.inr ⟨b, 1, 3, if b.toNat = 0xF0 then 0x90 else 0x80,
      if b.toNat = 0xF4 then 0x8F else 0xBF, b.toNat - 0xF0⟩) := by
    unfold begin?
    rw [if_neg (by omega), if_neg (by omega), if_neg (by omega), if_neg (by omega), if_pos h.2]
  rw [isRead_of_begun hbegin, Unfinished.finishes_of_more rfl]
  constructor
  · rintro ⟨x, v, rfl, hx, hv⟩
    obtain ⟨y, u, rfl, hy, hu⟩ := (Unfinished.finishes_of_more rfl).mp hv
    obtain ⟨z, rfl, hz, hc⟩ := (Unfinished.finishes_of_last rfl).mp hu
    exact ⟨x, y, z, rfl, between_iff.mp hx, hy, hz, hc⟩
  · rintro ⟨x, y, z, rfl, hx, hy, hz, hc⟩
    exact ⟨x, [y, z], rfl, between_iff.mpr hx, (Unfinished.finishes_of_more rfl).mpr ⟨y, [z], rfl, hy,
      (Unfinished.finishes_of_last rfl).mpr ⟨z, rfl, hz, hc⟩⟩⟩

/-- What is met as a character is the form of the character. -/
theorem eq_form_of_isRead (h : IsRead c w) : w = String.utf8EncodeChar c := by
  cases w with
  | nil => exact h.elim
  | cons b w =>
    have hrange : b.toNat < 0x80 ∨ (0xC2 ≤ b.toNat ∧ b.toNat < 0xE0) ∨
        (0xE0 ≤ b.toNat ∧ b.toNat < 0xF0) ∨ (0xF0 ≤ b.toNat ∧ b.toNat < 0xF5) ∨
        (0x80 ≤ b.toNat ∧ b.toNat < 0xC2) ∨ 0xF5 ≤ b.toNat := by
      omega
    rcases hrange with hb | hb | hb | hb | hb
    · obtain ⟨rfl, rfl⟩ := (isRead_one hb).mp h
      exact (form_one hb rfl).symm
    · obtain ⟨x, rfl, hx, rfl⟩ := (isRead_two hb).mp h
      exact (form_two (by omega) (by omega) (by omega)).symm
    · obtain ⟨x, y, rfl, hx, hy, rfl⟩ := (isRead_three hb).mp h
      refine (form_three (by omega) ?_ (by omega) (by omega) (by omega)).symm
      unfold Nat.isValidChar
      omega
    · obtain ⟨x, y, z, rfl, hx, hy, hz, rfl⟩ := (isRead_four hb).mp h
      exact (form_four (by omega) (by omega) (by omega) (by omega) (by omega)).symm
    · exact absurd h (not_isRead hb)

/-- The form of a character is met as the character. -/
theorem isRead_form (c : Char) : IsRead c (String.utf8EncodeChar c) := by
  obtain ⟨v, hvalid, rfl⟩ : ∃ v : Nat, v.isValidChar ∧ Char.ofNat v = c :=
    ⟨c.toNat, c.valid, Char.ofNat_toNat c⟩
  have hrange : v < 0x80 ∨ (0x80 ≤ v ∧ v < 0x800) ∨ (0x800 ≤ v ∧ v < 0x10000) ∨
      (0x10000 ≤ v ∧ v < 0x110000) := by
    unfold Nat.isValidChar at hvalid
    omega
  have byte : ∀ {n : Nat}, n < 256 → (UInt8.ofNat n).toNat = n := fun h => UInt8.toNat_ofNat_of_lt' h
  rcases hrange with hv | hv | hv | hv
  · have hb : (UInt8.ofNat v).toNat = v := byte (by omega)
    rw [form_one hv hb, isRead_one (by omega), hb]
    exact ⟨rfl, rfl⟩
  · have hb : (UInt8.ofNat (v / 64 + 0xC0)).toNat = v / 64 + 0xC0 := byte (by omega)
    have hx : (UInt8.ofNat (v % 64 + 0x80)).toNat = v % 64 + 0x80 := byte (by omega)
    rw [form_two hv hb hx, isRead_two (by omega)]
    exact ⟨_, rfl, by omega, congrArg Char.ofNat (by omega)⟩
  · have hb : (UInt8.ofNat (v / 4096 + 0xE0)).toNat = v / 4096 + 0xE0 := byte (by omega)
    have hx : (UInt8.ofNat (v / 64 % 64 + 0x80)).toNat = v / 64 % 64 + 0x80 := byte (by omega)
    have hy : (UInt8.ofNat (v % 64 + 0x80)).toNat = v % 64 + 0x80 := byte (by omega)
    unfold Nat.isValidChar at hvalid
    rw [form_three hv hvalid hb hx hy, isRead_three (by omega)]
    exact ⟨_, _, rfl, by omega, by omega, congrArg Char.ofNat (by omega)⟩
  · have hb : (UInt8.ofNat (v / 262144 + 0xF0)).toNat = v / 262144 + 0xF0 := byte (by omega)
    have hx : (UInt8.ofNat (v / 4096 % 64 + 0x80)).toNat = v / 4096 % 64 + 0x80 := byte (by omega)
    have hy : (UInt8.ofNat (v / 64 % 64 + 0x80)).toNat = v / 64 % 64 + 0x80 := byte (by omega)
    have hz : (UInt8.ofNat (v % 64 + 0x80)).toNat = v % 64 + 0x80 := byte (by omega)
    rw [form_four hv hb hx hy hz, isRead_four (by omega)]
    exact ⟨_, _, _, rfl, by omega, by omega, by omega, congrArg Char.ofNat (by omega)⟩

/-- **A run of bytes is met as one character exactly if it is the form of that character.** -/
theorem isRead_iff : IsRead c w ↔ w = String.utf8EncodeChar c :=
  ⟨eq_form_of_isRead, fun h => h ▸ isRead_form c⟩

/-! ### Main results -/

/-- What is read from a place on is the text whose form the bytes are. -/
theorem eq_forms_of_decodeFrom (h : decodeFrom place none bytes = .ok cs) :
    bytes = cs.flatMap String.utf8EncodeChar := by
  -- on the number of bytes, since a character takes several of them
  induction hn : bytes.length using Nat.strongRecOn generalizing bytes cs place with
  | ind n ih =>
    cases bytes with
    | nil =>
      rw [decodeFrom] at h
      rw [← Except.ok.inj h]
      rfl
    | cons b bytes =>
      obtain ⟨c, w, rest, more, hbytes, hw, rfl, hmore⟩ := exists_isRead h
      have hform : w = String.utf8EncodeChar c := isRead_iff.mp hw
      have hpositive : 0 < w.length := by
        cases w with
        | nil => exact hw.elim
        | cons d w => exact Nat.succ_pos _
      have hless : rest.length < n := by
        rw [← hn, hbytes, List.length_append]
        omega
      rw [hbytes, List.flatMap_cons, ← hform, ih rest.length hless hmore rfl]

/-- The form of a text is read back, from any place on. -/
theorem decodeFrom_forms (cs : List Char) (place : Nat) :
    decodeFrom place none (cs.flatMap String.utf8EncodeChar) = .ok cs := by
  induction cs generalizing place with
  | nil => rfl
  | cons c cs ih =>
    rw [List.flatMap_cons, decodeFrom_append (isRead_form c), ih]
    rfl

/-- **Bytes are read as a text exactly if they are its UTF-8 form.** -/
theorem decode_eq_ok_iff : decode bytes = .ok cs ↔ bytes = cs.flatMap String.utf8EncodeChar :=
  ⟨eq_forms_of_decodeFrom, fun h => h ▸ decodeFrom_forms cs 0⟩

/-- Bytes that are read are read alike where a replacement would do. -/
theorem decodeReplacingFrom_eq {unfinished : Option Unfinished}
    (h : decodeFrom place unfinished bytes = .ok cs) : decodeReplacingFrom unfinished bytes = cs := by
  induction bytes generalizing unfinished place cs with
  | nil =>
    cases unfinished with
    | none => exact Except.ok.inj h
    | some p => cases h
  | cons b bytes ih =>
    rw [decodeReplacingFrom]
    cases unfinished with
    | none =>
      rw [decodeFrom] at h
      cases hb : begin? b with
      | none =>
        simp only [hb] at h
        cases h
      | some begun =>
        cases begun with
        | inl c =>
          simp only [hb] at h
          obtain ⟨more, rfl, hmore⟩ := exists_of_map_cons h
          simp only [carryOn, meet, hb, ih hmore]
          rfl
        | inr p =>
          simp only [hb] at h
          simp only [carryOn, meet, hb, ih h]
          rfl
    | some p =>
      rw [decodeFrom] at h
      split at h
      · rename_i hrange
        simp only [carryOn, if_pos hrange]
        by_cases howed : p.owed = 1
        · simp only [if_pos howed] at h ⊢
          obtain ⟨more, rfl, hmore⟩ := exists_of_map_cons h
          rw [ih hmore]
          rfl
        · simp only [if_neg howed] at h ⊢
          exact ih h
      · cases h

/-- The form of a text is read back. -/
theorem decodeReplacing_forms (cs : List Char) :
    decodeReplacing (cs.flatMap String.utf8EncodeChar) = cs :=
  decodeReplacingFrom_eq (decodeFrom_forms cs 0)

/-- Bytes are UTF-8, as the library has it, if they are the form of some text. -/
theorem isValidUTF8_iff : bytes.toByteArray.IsValidUTF8 ↔
    ∃ cs : List Char, bytes = cs.flatMap String.utf8EncodeChar := by
  constructor
  · rintro ⟨cs, h⟩
    refine ⟨cs, ?_⟩
    rw [← List.toList_data_toByteArray (l := bytes), h, List.utf8Encode, List.toList_data_toByteArray]
  · rintro ⟨cs, h⟩
    exact ⟨cs, congrArg List.toByteArray h⟩

/-- **Bytes are refused exactly if they are no UTF-8.** -/
theorem decode_eq_error_iff : (∃ f, decode bytes = .error f) ↔ ¬ bytes.toByteArray.IsValidUTF8 := by
  rw [isValidUTF8_iff]
  cases h : decode bytes with
  | ok cs => exact iff_of_false nofun (not_not_intro ⟨cs, decode_eq_ok_iff.mp h⟩)
  | error f =>
    refine iff_of_true ⟨f, rfl⟩ fun ⟨cs, hcs⟩ => ?_
    rw [decode_eq_ok_iff.mpr hcs] at h
    cases h

end Utf8
end Text
end Intertype
