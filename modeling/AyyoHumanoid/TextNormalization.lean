import AyyoHumanoid.PyText

/-!
# Normalized text

Unicode composition normalization comes from the platform. What is used of it
is that it is idempotent, that pieces of normalized text are normalized, and
that normalized texts joined by a space are normalized. From these facts the
composition of normalization with whitespace collapsing is idempotent as well.
-/

namespace AyyoHumanoid

open PyText

/-- A canonical composition normalization of text, with its documented stability properties. -/
structure Nfc where
  /-- `unicodedata.normalize("NFC", text)`. -/
  normalize : PyStr → PyStr
  /-- Normalizing twice changes nothing more. -/
  idempotent : ∀ text, normalize (normalize text) = normalize text
  /-- A piece of normalized text is normalized. -/
  piece : ∀ before text after, normalize (before ++ text ++ after) = before ++ text ++ after →
    normalize text = text
  /-- The empty text is normalized. -/
  empty : normalize [] = []
  /-- A space composes with nothing around it. -/
  spaced : ∀ left right, normalize left = left → normalize right = right →
    normalize (left ++ space :: right) = left ++ space :: right

/-- A normalization that leaves text alone, as the real one does on ASCII text. -/
def Nfc.ascii : Nfc where
  normalize := id
  idempotent := fun _ => rfl
  piece := fun _ _ _ _ => rfl
  empty := rfl
  spaced := fun _ _ _ _ => rfl

namespace PyText

/-- Normalize and collapse whitespace. -/
def collapse (nfc : Nfc) (text : PyStr) : PyStr :=
  joinWords (split (nfc.normalize text))

/-- Every whitespace-free piece occurs in the text. -/
theorem splitPieces_infix (text : PyStr) :
    (∃ after, text = (splitPieces text).1 ++ after) ∧
      ∀ word ∈ (splitPieces text).2, ∃ before after, text = before ++ word ++ after := by
  induction text with
  | nil => exact ⟨⟨[], rfl⟩, by simp [splitPieces]⟩
  | cons c rest ih =>
    obtain ⟨⟨after, hafter⟩, hwords⟩ := ih
    simp only [splitPieces]
    split
    · refine ⟨⟨c :: rest, rfl⟩, ?_⟩
      intro word hword
      unfold pushWord at hword
      split at hword
      · obtain ⟨before, tail, hsplit⟩ := hwords word hword
        exact ⟨c :: before, tail, by rw [hsplit]; rfl⟩
      · rcases List.mem_cons.mp hword with rfl | hword
        · exact ⟨[c], after, by rw [List.singleton_append, List.cons_append, ← hafter]⟩
        · obtain ⟨before, tail, hsplit⟩ := hwords word hword
          exact ⟨c :: before, tail, by rw [hsplit]; rfl⟩
    · refine ⟨⟨after, by rw [List.cons_append, ← hafter]⟩, ?_⟩
      intro word hword
      obtain ⟨before, tail, hsplit⟩ := hwords word hword
      exact ⟨c :: before, tail, by rw [hsplit]; rfl⟩

/-- Every piece of `split` occurs in the text. -/
theorem split_infix (text : PyStr) :
    ∀ word ∈ split text, ∃ before after, text = before ++ word ++ after := by
  intro word hword
  obtain ⟨⟨after, hafter⟩, hwords⟩ := splitPieces_infix text
  unfold split pushWord at hword
  split at hword
  · exact hwords word hword
  · rcases List.mem_cons.mp hword with rfl | hword
    · exact ⟨[], after, by rw [List.nil_append, ← hafter]⟩
    · exact hwords word hword

/-- The pieces of normalized text are normalized. -/
theorem normalize_piece {nfc : Nfc} {text : PyStr} (htext : nfc.normalize text = text) :
    ∀ word ∈ split text, nfc.normalize word = word := by
  intro word hword
  obtain ⟨before, after, hsplit⟩ := split_infix text word hword
  exact nfc.piece before word after (by rw [← hsplit, htext])

/-- A join of normalized words is normalized. -/
theorem normalize_joinWords {nfc : Nfc} {words : List PyStr}
    (hwords : ∀ word ∈ words, nfc.normalize word = word) :
    nfc.normalize (joinWords words) = joinWords words := by
  induction words with
  | nil => exact nfc.empty
  | cons word words ih =>
    have hword := hwords word (by simp)
    cases words with
    | nil => exact hword
    | cons next words =>
      exact nfc.spaced word _ hword (ih fun other hother => hwords other (by simp [hother]))

/-- Collapsed text is its own collapse. -/
theorem collapse_idem (nfc : Nfc) (text : PyStr) :
    collapse nfc (collapse nfc text) = collapse nfc text := by
  have hpieces := normalize_piece (nfc.idempotent text)
  rw [collapse, collapse, normalize_joinWords hpieces, split_joinWords (split_isWord _)]

end PyText
end AyyoHumanoid
