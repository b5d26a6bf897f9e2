import AyyoHumanoid.PyDatetime
import AyyoHumanoid.PyUuid

/-!
# Fixed-width texts and their order

Texts of one width compare field by field, most significant first, and a field
of padded digits compares as its number. So the stored texts of instants and of
identifiers are ordered as the instants and the identifiers are.
-/

namespace AyyoHumanoid

namespace FixedWidth

/-- A positional number compares by its high part, then by its low part. -/
theorem radix_lt {base a b m n : Nat} (hm : m < base) (hn : n < base) :
    a * base + m < b * base + n ↔ a < b ∨ (a = b ∧ m < n) := by
  rcases lt_trichotomy a b with h | rfl | h
  · have hstep : (a + 1) * base ≤ b * base := Nat.mul_le_mul_right base h
    have hexpand : (a + 1) * base = a * base + base := Nat.succ_mul a base
    have hlt : a * base + m < b * base + n := by omega
    simp [h, hlt]
  · simp
  · have hstep : (b + 1) * base ≤ a * base := Nat.mul_le_mul_right base h
    have hexpand : (b + 1) * base = b * base + base := Nat.succ_mul b base
    have hle : ¬a * base + m < b * base + n := by omega
    have hne : a ≠ b := by omega
    simp [hle, hne, h.le]

/-- Positional numbers are equal when both parts are. -/
theorem radix_eq {base a b m n : Nat} (hm : m < base) (hn : n < base) :
    a * base + m = b * base + n ↔ a = b ∧ m = n := by
  have hforth := radix_lt (a := a) (b := b) hm hn
  have hback := radix_lt (a := b) (b := a) hn hm
  omega

/-- A number below a power of the base splits into its quotient and its last digit. -/
theorem mod_pow_succ (base width n : Nat) :
    n % base ^ (width + 1) = n / base % base ^ width * base + n % base := by
  rw [Nat.pow_succ, Nat.mul_comm (base ^ width), Nat.mod_mul, Nat.add_comm, Nat.mul_comm base]

section Lists

variable {α : Type} [LinearOrder α]

/-- Texts that start with fields of one width compare by the field, then by the rest. -/
theorem append_lt_append {left right : List α} (hlength : left.length = right.length)
    (x y : List α) : left ++ x < right ++ y ↔ left < right ∨ (left = right ∧ x < y) := by
  induction left generalizing right with
  | nil =>
    have hnil : right = [] := List.length_eq_zero_iff.mp hlength.symm
    simp [hnil]
  | cons a left ih =>
    cases right with
    | nil => simp at hlength
    | cons b right =>
      have hrest := ih (Nat.succ.inj hlength)
      simp only [List.cons_append, List.cons_lt_cons_iff, hrest, List.cons.injEq]
      tauto

/-- Digits written from the least significant one on, in a base. -/
structure Positional (base : Nat) (digit : Nat → α) (digits : Nat → Nat → List α) : Prop where
  /-- The base has a digit. -/
  base_pos : 0 < base
  /-- No digits for no width. -/
  zero : ∀ n, digits 0 n = []
  /-- The last digit is the remainder. -/
  succ : ∀ width n, digits (width + 1) n = digits width (n / base) ++ [digit (n % base)]
  /-- Digits compare as numbers. -/
  digit_lt : ∀ m < base, ∀ n < base, digit m < digit n ↔ m < n

namespace Positional

variable {base : Nat} {digit : Nat → α} {digits : Nat → Nat → List α}
  (h : Positional base digit digits)
include h

/-- There are as many digits as asked for. -/
theorem length (width n : Nat) : (digits width n).length = width := by
  induction width generalizing n with
  | zero => rw [h.zero, List.length_nil]
  | succ width ih => rw [h.succ, List.length_append, ih, List.length_singleton]

/-- Digits of one width compare as the numbers they denote. -/
theorem lt_iff (width a b : Nat) :
    digits width a < digits width b ↔ a % base ^ width < b % base ^ width := by
  induction width generalizing a b with
  | zero => simp [h.zero, Nat.mod_one]
  | succ width ih =>
    have hlength : (digits width (a / base)).length = (digits width (b / base)).length := by
      rw [h.length, h.length]
    have hequal : digits width (a / base) = digits width (b / base) ↔
        a / base % base ^ width = b / base % base ^ width := by
      have hforth := ih (a / base) (b / base)
      have hback := ih (b / base) (a / base)
      rw [le_antisymm_iff, le_antisymm_iff, ← not_lt, ← not_lt, ← not_lt, ← not_lt, hforth, hback]
    have hlast : [digit (a % base)] < [digit (b % base)] ↔ a % base < b % base := by
      rw [List.cons_lt_cons_iff]
      simp [h.digit_lt _ (Nat.mod_lt a h.base_pos) _ (Nat.mod_lt b h.base_pos)]
    rw [h.succ, h.succ, append_lt_append hlength, ih, hequal, hlast, mod_pow_succ,
      mod_pow_succ, radix_lt (Nat.mod_lt a h.base_pos) (Nat.mod_lt b h.base_pos)]

/-- Digits of one width are equal when the numbers they denote are. -/
theorem eq_iff (width a b : Nat) :
    digits width a = digits width b ↔ a % base ^ width = b % base ^ width := by
  rw [le_antisymm_iff, le_antisymm_iff, ← not_lt, ← not_lt, ← not_lt, ← not_lt, h.lt_iff, h.lt_iff]

/-- A field of digits and what follows it compare by the number, then by the rest. -/
theorem field_lt (width a b : Nat) (x y : List α) :
    digits width a ++ x < digits width b ++ y ↔
      a % base ^ width < b % base ^ width ∨ (a % base ^ width = b % base ^ width ∧ x < y) := by
  rw [append_lt_append (by rw [h.length, h.length]), h.lt_iff, h.eq_iff]

end Positional

/-- A shared character does not decide a comparison. -/
theorem cons_lt_cons_self (a : α) (x y : List α) : a :: x < a :: y ↔ x < y := by
  simp

end Lists

end FixedWidth

namespace IsoText

open PyText FixedWidth

/-- Padded decimal digits are positional. -/
theorem positional_padDigits :
    Positional 10 (fun n => digit ⟨n % 10, lastDigit_lt n⟩) padDigits where
  base_pos := by decide
  zero := fun _ => rfl
  succ := fun width n => by simp only [padDigits, Nat.mod_mod]
  digit_lt := by decide

/-- The stored texts of instants are ordered as the instants are. -/
theorem datetimeToText_lt (a b : Civil) : datetimeToText a < datetimeToText b ↔ a < b := by
  have haDay := a.day_le
  have hbDay := b.day_le
  obtain ⟨haYear, haMonth, -, haHour, haMinute, haSecond, haMicro⟩ := a.inRange
  obtain ⟨hbYear, hbMonth, -, hbHour, hbMinute, hbSecond, hbMicro⟩ := b.inRange
  have hfield := positional_padDigits.field_lt
  have hsmall : ∀ {n bound : Nat}, n < bound → n % bound = n := Nat.mod_eq_of_lt
  simp only [datetimeToText, hfield, cons_lt_cons_self, lt_self_iff_false, and_false, or_false]
  rw [hsmall (n := a.year) (by norm_num; omega), hsmall (n := b.year) (by norm_num; omega),
    hsmall (n := a.month) (by norm_num; omega), hsmall (n := b.month) (by norm_num; omega),
    hsmall (n := a.day) (by norm_num; omega), hsmall (n := b.day) (by norm_num; omega),
    hsmall (n := a.hour) (by norm_num; omega), hsmall (n := b.hour) (by norm_num; omega),
    hsmall (n := a.minute) (by norm_num; omega), hsmall (n := b.minute) (by norm_num; omega),
    hsmall (n := a.second) (by norm_num; omega), hsmall (n := b.second) (by norm_num; omega),
    hsmall (n := a.microsecond) (by norm_num; omega),
    hsmall (n := b.microsecond) (by norm_num; omega), Civil.lt_iff_key, Civil.key, Civil.key]
  omega

end IsoText

namespace UUID

open PyText FixedWidth

/-- Hexadecimal digits are positional. -/
theorem positional_hexDigits : Positional 16 hexDigit hexDigits where
  base_pos := by decide
  zero := fun _ => rfl
  succ := fun _ _ => rfl
  digit_lt := by decide

/-- An identifier is the number its five groups of digits denote. -/
theorem value_groups (id : UUID) : id.value.val =
    (((id.value.val / 2 ^ 96 % 16 ^ 8 * 16 ^ 4 + id.value.val / 2 ^ 80 % 16 ^ 4) * 16 ^ 4 +
      id.value.val / 2 ^ 64 % 16 ^ 4) * 16 ^ 4 + id.value.val / 2 ^ 48 % 16 ^ 4) * 16 ^ 12 +
        id.value.val % 16 ^ 12 := by
  have hlt := id.value.isLt
  omega

/-- The texts of identifiers are ordered as the identifiers are. -/
theorem text_lt (a b : UUID) : a.text < b.text ↔ a < b := by
  have hfield := positional_hexDigits.field_lt
  have hlast := positional_hexDigits.lt_iff
  have hdash : ∀ x y : PyStr, py "-" ++ x < py "-" ++ y ↔ x < y := fun x y =>
    cons_lt_cons_self _ x y
  have horder : a < b ↔ a.value.val < b.value.val := Iff.rfl
  have hgroup : ∀ n width : Nat, n % 16 ^ width < 16 ^ width := fun n width =>
    Nat.mod_lt n (Nat.pow_pos (by decide))
  have hlower : ∀ a b m n width : Nat,
      a * 16 ^ width + m % 16 ^ width < b * 16 ^ width + n % 16 ^ width ↔
        a < b ∨ (a = b ∧ m % 16 ^ width < n % 16 ^ width) := fun _ _ _ _ _ =>
    radix_lt (hgroup _ _) (hgroup _ _)
  have hequal : ∀ a b m n width : Nat,
      a * 16 ^ width + m % 16 ^ width = b * 16 ^ width + n % 16 ^ width ↔
        a = b ∧ m % 16 ^ width = n % 16 ^ width := fun _ _ _ _ _ =>
    radix_eq (hgroup _ _) (hgroup _ _)
  rw [horder, value_groups a, value_groups b]
  simp only [text, List.append_assoc, hfield, hdash, hlast, hlower, hequal]
  tauto

end UUID
end AyyoHumanoid
