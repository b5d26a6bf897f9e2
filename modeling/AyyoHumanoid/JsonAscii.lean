import AyyoHumanoid.JsonText

/-!
# Canonical text in ASCII

`json.dumps` writes the same text with and without `ensure_ascii`, except that
`ensure_ascii` also escapes the characters outside the printable ASCII range.
They stand inside strings only, so escaping them in the whole text is the same.
-/

namespace AyyoHumanoid
namespace JsonText

open PyText

/-- A printable ASCII character. -/
def isPrintable (c : CodePoint) : Bool := 32 ≤ c.val && c.val ≤ 126

/-- `\uXXXX`, of a number below 65536. -/
def unicodeEscape (n : Nat) : PyStr :=
  py "\\u" ++ [hexDigit (n / 4096 % 16), hexDigit (n / 256 % 16), hexDigit (n / 16 % 16),
    hexDigit (n % 16)]

/-- A character as `ensure_ascii` writes it, with surrogates above 65535. -/
def asciiChar (c : CodePoint) : PyStr :=
  if isPrintable c then [c]
  else if c.val < 65536 then unicodeEscape c.val
  else unicodeEscape (55296 + (c.val - 65536) / 1024) ++
    unicodeEscape (56320 + (c.val - 65536) % 1024)

/-- `json.dumps(value, ensure_ascii=True, separators=(",", ":"), sort_keys=True)`. -/
def encodeAscii (value : Json) : PyStr := (encode value).flatMap asciiChar

/-- Printable text is written as it is. -/
theorem flatMap_asciiChar {text : PyStr} (h : text.all isPrintable = true) :
    text.flatMap asciiChar = text := by
  induction text with
  | nil => rfl
  | cons c text ih =>
    rw [List.all_cons, Bool.and_eq_true] at h
    rw [List.flatMap_cons, asciiChar, if_pos h.1, ih h.2, List.singleton_append]

end JsonText
end AyyoHumanoid
