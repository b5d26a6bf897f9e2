import AyyoHumanoid.JsonText

/-!
# Reading JSON text

`loads` follows `json.loads` on `str` input: insignificant whitespace, string
escapes with surrogate pairs, the number grammar with its integer-digit limit,
and dictionaries whose later duplicates win. The non-finite constants have no
value here. A float token is read through `readFloat`, because decimal rounding
belongs to the platform.
-/

namespace AyyoHumanoid
namespace JsonText

open PyText

/-- The value of a hexadecimal digit in either case. -/
def hexValue (c : CodePoint) : Option Nat :=
  if 48 ≤ c.val ∧ c.val ≤ 57 then some (c.val - 48)
  else if 97 ≤ c.val ∧ c.val ≤ 102 then some (c.val - 87)
  else if 65 ≤ c.val ∧ c.val ≤ 70 then some (c.val - 55)
  else none

/-- Four hexadecimal digits and the text after them. -/
def readHex4 : PyStr → Option (Nat × PyStr)
  | a :: b :: c :: d :: rest => do
    let a ← hexValue a
    let b ← hexValue b
    let c ← hexValue c
    let d ← hexValue d
    some (((a * 16 + b) * 16 + c) * 16 + d, rest)
  | _ => none

/-- The code point with a number below the Unicode limit. -/
def codePoint (n : Nat) : CodePoint :=
  ⟨n % 0x110000, Nat.mod_lt n (by decide)⟩

/-- A low surrogate escape directly after a high one completes a pair. -/
def readLowSurrogate : PyStr → Option (Nat × PyStr)
  | a :: b :: rest =>
    if a = backslash ∧ b.val = 117 then
      (readHex4 rest).bind fun (low, rest) =>
        if 0xdc00 ≤ low ∧ low ≤ 0xdfff then some (low, rest) else none
    else none
  | _ => none

/-- The character a `\u` escape denotes. -/
def readUnicodeEscape (text : PyStr) : Option (CodePoint × PyStr) :=
  (readHex4 text).map fun (high, rest) =>
    if 0xd800 ≤ high ∧ high ≤ 0xdbff then
      match readLowSurrogate rest with
      | some (low, rest) => (codePoint (0x10000 + (high - 0xd800) * 0x400 + (low - 0xdc00)), rest)
      | none => (codePoint high, rest)
    else (codePoint high, rest)

/-- The character denoted by the text after a backslash. -/
def readEscape : PyStr → Option (CodePoint × PyStr)
  | [] => none
  | c :: rest =>
    if c = quote then some (quote, rest)
    else if c = backslash then some (backslash, rest)
    else if c.val = 47 then some (47, rest)
    else if c.val = 110 then some (10, rest)
    else if c.val = 114 then some (13, rest)
    else if c.val = 116 then some (9, rest)
    else if c.val = 102 then some (12, rest)
    else if c.val = 98 then some (8, rest)
    else if c.val = 117 then readUnicodeEscape rest
    else none

/-- String characters up to the closing quote. -/
def readChars : Nat → PyStr → Option (PyStr × PyStr)
  | 0, _ => none
  | _ + 1, [] => none
  | fuel + 1, c :: rest =>
    if c = quote then some ([], rest)
    else if c = backslash then
      (readEscape rest).bind fun (c, rest) =>
        (readChars fuel rest).map fun (chars, rest) => (c :: chars, rest)
    else if c.val < 32 then none
    else (readChars fuel rest).map fun (chars, rest) => (c :: chars, rest)

/-- A string after its opening quote. -/
def readString (text : PyStr) : Option (PyStr × PyStr) :=
  readChars (text.length + 1) text

/-- Text after an expected literal. -/
def readLiteral : PyStr → PyStr → Option PyStr
  | [], text => some text
  | _ :: _, [] => none
  | c :: literal, d :: text => if c = d then readLiteral literal text else none

section Reader

variable (readFloat : PyStr → Option FloatToken)

/-- The number a token denotes; oversized integers are refused. -/
def readNumber (text : PyStr) : Option (Json × PyStr) :=
  (lexNumber text).bind fun lex =>
    if lex.tail = [] then
      if lex.whole.length ≤ maxIntDigits then
        (readDigits 0 lex.whole).map fun n =>
          (.int (if lex.sign = [] then (n : Int) else -(n : Int)), lex.rest)
      else none
    else (readFloat (lex.sign ++ lex.whole ++ lex.tail)).map fun token => (.float token, lex.rest)

/-- A dictionary keeps the first position and the last value of a repeated key. -/
def setEntry (entries : List (PyStr × Json)) (key : PyStr) (value : Json) :
    List (PyStr × Json) :=
  if entries.any fun entry => entry.1 == key then
    entries.map fun entry => if entry.1 = key then (key, value) else entry
  else entries ++ [(key, value)]

/-- The dictionary a list of pairs builds. -/
def dictOfPairs (pairs : List (PyStr × Json)) : List (PyStr × Json) :=
  pairs.foldl (fun entries pair => setEntry entries pair.1 pair.2) []

mutual

/-- The value at the start of the text. -/
def readValue : Nat → PyStr → Option (Json × PyStr)
  | 0, _ => none
  | _ + 1, [] => none
  | fuel + 1, c :: rest =>
    if c = quote then (readString rest).map fun (text, rest) => (.str text, rest)
    else if c = lbracket then readArray fuel (skipWs rest)
    else if c = lbrace then readObject fuel (skipWs rest)
    else if c.val = 110 then (readLiteral (py "ull") rest).map fun rest => (.null, rest)
    else if c.val = 116 then (readLiteral (py "rue") rest).map fun rest => (.bool true, rest)
    else if c.val = 102 then (readLiteral (py "alse") rest).map fun rest => (.bool false, rest)
    else readNumber readFloat (c :: rest)

/-- An array after its bracket. -/
def readArray : Nat → PyStr → Option (Json × PyStr)
  | 0, _ => none
  | _ + 1, [] => none
  | fuel + 1, c :: rest =>
    if c = rbracket then some (.arr [], rest)
    else (readItems fuel (c :: rest)).map fun (items, rest) => (.arr items, rest)

/-- Comma-separated items up to the closing bracket. -/
def readItems : Nat → PyStr → Option (List Json × PyStr)
  | 0, _ => none
  | fuel + 1, text =>
    (readValue fuel text).bind fun (item, rest) =>
      match skipWs rest with
      | [] => none
      | c :: rest =>
        if c = rbracket then some ([item], rest)
        else if c = comma then
          (readItems fuel (skipWs rest)).map fun (items, rest) => (item :: items, rest)
        else none

/-- An object after its brace. -/
def readObject : Nat → PyStr → Option (Json × PyStr)
  | 0, _ => none
  | _ + 1, [] => none
  | fuel + 1, c :: rest =>
    if c = rbrace then some (.obj [], rest)
    else (readMembers fuel (c :: rest)).map fun (pairs, rest) => (.obj (dictOfPairs pairs), rest)

/-- Comma-separated members up to the closing brace. -/
def readMembers : Nat → PyStr → Option (List (PyStr × Json) × PyStr)
  | 0, _ => none
  | _ + 1, [] => none
  | fuel + 1, open_ :: text =>
    if open_ = quote then
      (readString text).bind fun (key, rest) =>
        match skipWs rest with
        | [] => none
        | c :: rest =>
          if c = colon then
            (readValue fuel (skipWs rest)).bind fun (value, rest) =>
              match skipWs rest with
              | [] => none
              | c :: rest =>
                if c = rbrace then some ([(key, value)], rest)
                else if c = comma then
                  (readMembers fuel (skipWs rest)).map fun (pairs, rest) =>
                    ((key, value) :: pairs, rest)
                else none
          else none
    else none

end

/-- `json.loads` of a string; `none` stands for its `ValueError`. No level of nesting
takes more than three reader calls for each of its characters. -/
def loads (text : PyStr) : Option Json :=
  (readValue readFloat (3 * text.length + 1) (skipWs text)).bind fun (value, rest) =>
    if skipWs rest = [] then some value else none

end Reader

end JsonText
end AyyoHumanoid
