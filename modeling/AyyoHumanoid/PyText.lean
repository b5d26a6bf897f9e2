import Mathlib.Algebra.Group.Nat.Defs
import Mathlib.Algebra.GroupWithZero.Nat
import Mathlib.Data.List.Lex
import Mathlib.Data.List.Sort

/-!
# Python text

A Python string is a finite sequence of Unicode code points, lone surrogates
included. This file gives the string operations that identifiers, reasons and
timestamps need: whitespace stripping, whitespace splitting and rejoining,
UTF-8 encodability, and zero-padded decimal fields. Strings are ordered by
code point, as `str` comparison does.
-/

namespace AyyoHumanoid

/-- A Unicode code point, surrogates included. -/
abbrev CodePoint := Fin 0x110000

/-- There are code points, so numerals denote them. -/
instance codePointsNonzero : @NeZero Nat Zero.ofOfNat0 0x110000 := ⟨Nat.succ_ne_zero _⟩

/-- A Python `str`. -/
abbrev PyStr := List CodePoint

/-- Texts are compared character by character. -/
instance instLawfulBEqPyStr : LawfulBEq PyStr := inferInstance

/-- The Python string with the characters of a literal. -/
def py (s : String) : PyStr :=
  s.toList.map fun c => ⟨c.toNat, by
    have hvalid := c.valid
    have hnat : c.toNat = c.val.toNat := rfl
    simp only [UInt32.isValidChar, Nat.isValidChar] at hvalid
    omega⟩

namespace PyText

/-- The code points for which Python's `str.isspace` holds. -/
def isSpace (c : CodePoint) : Bool :=
  (9 ≤ c.val && c.val ≤ 13) || (28 ≤ c.val && c.val ≤ 32) || c.val == 0x85 || c.val == 0xa0 ||
    c.val == 0x1680 || (0x2000 ≤ c.val && c.val ≤ 0x200a) || c.val == 0x2028 ||
    c.val == 0x2029 || c.val == 0x202f || c.val == 0x205f || c.val == 0x3000

/-- The ASCII space that `" ".join` puts between words. -/
def space : CodePoint := 32

/-- A surrogate code point has no UTF-8 encoding. -/
def isSurrogate (c : CodePoint) : Bool :=
  0xd800 ≤ c.val && c.val ≤ 0xdfff

/-- Text that Python can encode as UTF-8. -/
def utf8Encodable (text : PyStr) : Bool :=
  text.all fun c => !isSurrogate c

/-- Literals are equal when their texts are. -/
theorem py_inj {s t : String} : py s = py t ↔ s = t := by
  constructor
  · intro h
    have hcodes := congrArg (List.map Fin.val) h
    rw [py, py, List.map_map, List.map_map] at hcodes
    have hlists : s.toList = t.toList :=
      List.map_injective_iff.mpr (fun a b hab => Char.toNat_inj.mp hab) hcodes
    exact String.toList_inj.mp hlists
  · intro h
    rw [h]

/-- A literal can be encoded. -/
@[simp] theorem utf8Encodable_py (s : String) : utf8Encodable (py s) = true := by
  rw [utf8Encodable, py, List.all_map, List.all_eq_true]
  intro c _
  have hvalid := c.valid
  have hnat : c.toNat = c.val.toNat := rfl
  simp only [UInt32.isValidChar, Nat.isValidChar] at hvalid
  simp only [Function.comp_def, isSurrogate, Bool.not_eq_true', Bool.and_eq_false_iff,
    decide_eq_false_iff_not]
  omega

/-- Two texts can be encoded together when each can. -/
@[simp] theorem utf8Encodable_append (left right : PyStr) :
    utf8Encodable (left ++ right) = (utf8Encodable left && utf8Encodable right) := by
  rw [utf8Encodable, List.all_append]
  rfl

/-- Drop leading whitespace. -/
def lstrip (text : PyStr) : PyStr :=
  text.dropWhile isSpace

/-- Python's `str.strip`. -/
def strip (text : PyStr) : PyStr :=
  (lstrip (lstrip text).reverse).reverse

/-- Join the current prefix word onto the words that follow it. -/
def pushWord (word : PyStr) (words : List PyStr) : List PyStr :=
  if word = [] then words else word :: words

/-- The word the text starts with, which may be empty, and the later words. -/
def splitPieces : PyStr → PyStr × List PyStr
  | [] => ([], [])
  | c :: rest =>
    let (word, words) := splitPieces rest
    if isSpace c then ([], pushWord word words) else (c :: word, words)

/-- Python's `str.split` without a separator: the maximal whitespace-free pieces. -/
def split (text : PyStr) : List PyStr :=
  pushWord (splitPieces text).1 (splitPieces text).2

/-- Python's `" ".join`. -/
def joinWords : List PyStr → PyStr
  | [] => []
  | [word] => word
  | word :: next :: words => word ++ space :: joinWords (next :: words)

/-- A nonempty piece of text without whitespace. -/
structure IsWord (word : PyStr) : Prop where
  /-- A word has at least one code point. -/
  nonempty : word ≠ []
  /-- No code point of a word is whitespace. -/
  spaceless : ∀ c ∈ word, isSpace c = false

/-- Pushing a nonempty word keeps every piece a word. -/
theorem pushWord_isWord {word : PyStr} {words : List PyStr}
    (hword : ∀ c ∈ word, isSpace c = false) (hwords : ∀ w ∈ words, IsWord w) :
    ∀ w ∈ pushWord word words, IsWord w := by
  intro w hw
  unfold pushWord at hw
  by_cases hnil : word = []
  · rw [if_pos hnil] at hw
    exact hwords w hw
  · rw [if_neg hnil] at hw
    rcases List.mem_cons.mp hw with rfl | hw
    · exact ⟨hnil, hword⟩
    · exact hwords w hw

/-- The prefix word has no whitespace and the later pieces are words. -/
theorem splitPieces_isWord (text : PyStr) :
    (∀ c ∈ (splitPieces text).1, isSpace c = false) ∧
      ∀ w ∈ (splitPieces text).2, IsWord w := by
  induction text with
  | nil => simp [splitPieces]
  | cons c rest ih =>
    obtain ⟨hword, hwords⟩ := ih
    simp only [splitPieces]
    by_cases hspace : isSpace c = true
    · rw [if_pos hspace]
      exact ⟨by simp, pushWord_isWord hword hwords⟩
    · rw [if_neg hspace]
      refine ⟨?_, hwords⟩
      intro d hd
      rcases List.mem_cons.mp hd with rfl | hd
      · simpa using hspace
      · exact hword d hd

/-- Every piece of `split` is a word. -/
theorem split_isWord (text : PyStr) : ∀ w ∈ split text, IsWord w :=
  pushWord_isWord (splitPieces_isWord text).1 (splitPieces_isWord text).2

/-- A word followed by anything is a longer first piece. -/
theorem splitPieces_append {word : PyStr} (hword : ∀ c ∈ word, isSpace c = false)
    (rest : PyStr) :
    splitPieces (word ++ rest) = (word ++ (splitPieces rest).1, (splitPieces rest).2) := by
  induction word with
  | nil => simp
  | cons c word ih =>
    have hc : isSpace c = false := hword c (by simp)
    have htail := ih fun d hd => hword d (by simp [hd])
    simp only [List.cons_append, splitPieces, htail, hc]
    simp

/-- A separating space ends the current word. -/
theorem splitPieces_space (rest : PyStr) :
    splitPieces (space :: rest) = ([], split rest) := by
  have hspace : isSpace space = true := by decide
  simp only [splitPieces, hspace, if_true, split]

/-- Splitting the join of words gives the words back. -/
theorem split_joinWords {words : List PyStr} (hwords : ∀ w ∈ words, IsWord w) :
    split (joinWords words) = words := by
  induction words with
  | nil => rfl
  | cons word words ih =>
    have hword := hwords word (by simp)
    have htail := ih fun w hw => hwords w (by simp [hw])
    cases words with
    | nil =>
      have hpieces := splitPieces_append hword.spaceless []
      rw [List.append_nil] at hpieces
      simp only [joinWords, split, hpieces, splitPieces, List.append_nil, pushWord]
      rw [if_neg hword.nonempty]
    | cons next words =>
      have hpieces := splitPieces_append hword.spaceless
        (space :: joinWords (next :: words))
      rw [splitPieces_space, htail, List.append_nil] at hpieces
      simp only [joinWords, split, hpieces, pushWord]
      rw [if_neg hword.nonempty]

/-- Leading whitespace is gone after `lstrip`. -/
theorem lstrip_of_head {c : CodePoint} {rest : PyStr} (hc : isSpace c = false) :
    lstrip (c :: rest) = c :: rest := by
  simp [lstrip, List.dropWhile, hc]

/-- Text whose two ends are not whitespace is its own strip. -/
theorem strip_eq_self {text : PyStr} (hhead : ∀ c ∈ text.head?, isSpace c = false)
    (hlast : ∀ c ∈ text.getLast?, isSpace c = false) : strip text = text := by
  have hleft : lstrip text = text := by
    cases text with
    | nil => rfl
    | cons c rest => exact lstrip_of_head (hhead c (by simp))
  have hright : lstrip text.reverse = text.reverse := by
    cases hrev : text.reverse with
    | nil => rfl
    | cons c rest =>
      refine lstrip_of_head (hlast c ?_)
      rw [← List.head?_reverse, hrev]
      simp
  rw [strip, hleft, hright, List.reverse_reverse]

/-- Stripped text ends in a code point that is not whitespace. -/
theorem getLast_of_strip {text : PyStr} (h : text = strip text) :
    ∀ c ∈ text.getLast?, isSpace c = false := by
  intro c hc
  rw [h, strip, List.getLast?_reverse] at hc
  have hhead := List.head?_dropWhile_not isSpace (lstrip text).reverse
  have hsome : (List.dropWhile isSpace (lstrip text).reverse).head? = some c := hc
  rw [hsome] at hhead
  exact hhead

/-- A text in front of stripped text does not add whitespace at the end. -/
theorem strip_append {start text : PyStr} (hstart : ∀ c ∈ start.head?, isSpace c = false)
    (hne : start ≠ []) (htext : text ≠ []) (h : text = strip text) :
    strip (start ++ text) = start ++ text := by
  refine strip_eq_self ?_ ?_
  · rw [List.head?_append_of_ne_nil _ hne]
    exact hstart
  · rw [List.getLast?_append_of_ne_nil _ htext]
    exact getLast_of_strip h

/-- The ASCII digit of a number below ten. -/
def digit (n : Fin 10) : CodePoint :=
  ⟨48 + n.val, by omega⟩

/-- The value of an ASCII digit. -/
def digitValue (c : CodePoint) : Option Nat :=
  if 48 ≤ c.val ∧ c.val ≤ 57 then some (c.val - 48) else none

/-- The last decimal digit of a number is below ten. -/
theorem lastDigit_lt (n : Nat) : n % 10 < 10 := Nat.mod_lt n (by decide)

/-- The last `width` decimal digits of a number, padded with zeros. -/
def padDigits : Nat → Nat → PyStr
  | 0, _ => []
  | width + 1, n => padDigits width (n / 10) ++ [digit ⟨n % 10, lastDigit_lt n⟩]

/-- The number a sequence of ASCII digits denotes, read after a known prefix. -/
def readDigits : Nat → PyStr → Option Nat
  | acc, [] => some acc
  | acc, c :: rest => (digitValue c).bind fun d => readDigits (10 * acc + d) rest

/-- A digit reads back as its number. -/
theorem digitValue_digit (n : Fin 10) : digitValue (digit n) = some n.val := by
  have hlow : 48 ≤ (digit n).val := by simp [digit]
  have hhigh : (digit n).val ≤ 57 := by simp only [digit]; omega
  rw [digitValue, if_pos ⟨hlow, hhigh⟩]
  simp [digit]

/-- Reading continues across an appended digit string. -/
theorem readDigits_append (acc : Nat) (left right : PyStr) :
    readDigits acc (left ++ right) =
      (readDigits acc left).bind fun value => readDigits value right := by
  induction left generalizing acc with
  | nil => simp [readDigits]
  | cons c left ih =>
    simp only [List.cons_append, readDigits]
    cases digitValue c with
    | none => rfl
    | some d => simp only [Option.bind_some, ih]

/-- A number with at most `width` digits reads back from its padded form. -/
theorem readDigits_padDigits (width n : Nat) (hn : n < 10 ^ width) :
    readDigits 0 (padDigits width n) = some n := by
  induction width generalizing n with
  | zero =>
    have hzero : n = 0 := by simpa using hn
    simp [padDigits, readDigits, hzero]
  | succ width ih =>
    have hquot : n / 10 < 10 ^ width := by
      rw [Nat.div_lt_iff_lt_mul (by decide)]
      rwa [Nat.pow_succ] at hn
    simp only [padDigits, readDigits_append, ih _ hquot, Option.bind_some, readDigits,
      digitValue_digit]
    congr 1
    omega

/-- The padded form has exactly the requested width. -/
@[simp] theorem padDigits_length (width n : Nat) : (padDigits width n).length = width := by
  induction width generalizing n with
  | zero => rfl
  | succ width ih => simp [padDigits, ih]

end PyText
end AyyoHumanoid
