import EntityDesign.Identifier

/-! What sanitizing leaves alone: a text of letters, digits and underscores that does not begin with
a digit. What it makes is such a text, and such a text stays one when digits are put behind it. So
sanitizing retracts the texts that are not empty onto the identifiers. -/
namespace EntityDesign.Identifier

theorem safeChar_of_isLetterOrDigit {c : Char} (h : isLetterOrDigit c = true) : safeChar c = c :=
  if_pos h

theorem safeChar_of_not_isLetterOrDigit {c : Char} (h : ¬isLetterOrDigit c = true) :
    safeChar c = '_' :=
  if_neg h

theorem safeChar_eq_self_iff (c : Char) :
    safeChar c = c ↔ isLetterOrDigit c = true ∨ c = '_' := by
  by_cases h : isLetterOrDigit c = true
  · exact iff_of_true (safeChar_of_isLetterOrDigit h) (.inl h)
  · rw [safeChar_of_not_isLetterOrDigit h, eq_comm]
    exact ⟨.inr, fun hc => hc.resolve_left h⟩

theorem isLetterOrDigit_of_isDigit {c : Char} (h : c.isDigit = true) :
    isLetterOrDigit c = true := by
  rw [isLetterOrDigit, h, Bool.true_or]

/-- What a character is replaced by is left alone. -/
theorem isLetterOrDigit_safeChar (c : Char) :
    isLetterOrDigit (safeChar c) = true ∨ safeChar c = '_' := by
  by_cases h : isLetterOrDigit c = true
  · left
    rwa [safeChar_of_isLetterOrDigit h]
  · exact .inr (safeChar_of_not_isLetterOrDigit h)

/-- Replacing a character neither makes a digit nor loses one. -/
@[simp] theorem isDigit_safeChar (c : Char) : (safeChar c).isDigit = c.isDigit := by
  by_cases h : isLetterOrDigit c = true
  · rw [safeChar_of_isLetterOrDigit h]
  · rw [safeChar_of_not_isLetterOrDigit h]
    cases hc : c.isDigit with
    | true => exact absurd (isLetterOrDigit_of_isDigit hc) h
    | false => rfl

theorem map_safeChar_eq_self_iff (cs : List Char) : cs.map safeChar = cs ↔
    ∀ c ∈ cs, isLetterOrDigit c = true ∨ c = '_' := by
  have h : cs.map safeChar = cs.map id ↔ ∀ c ∈ cs, safeChar c = id c := List.map_inj_left
  simpa only [List.map_id, id_eq, safeChar_eq_self_iff] using h

/-- Sanitizing leaves alone the texts that are made of letters, digits and underscores and do not
begin with a digit. -/
theorem sanitizeChars_eq_self_iff (cs : List Char) : sanitizeChars cs = cs ↔
    (∀ c ∈ cs, isLetterOrDigit c = true ∨ c = '_') ∧ ∀ c ∈ cs.head?, c.isDigit = false := by
  cases cs with
  | nil => simp
  | cons c cs =>
    have hhead : (∀ d ∈ (c :: cs).head?, d.isDigit = false) ↔ c.isDigit = false := by simp
    rw [hhead]
    cases hc : c.isDigit with
    | true =>
      -- the leading underscore makes the text longer
      refine iff_of_false (fun h => ?_) fun h => Bool.noConfusion h.2
      have hlength := congrArg List.length h
      simp [sanitizeChars, hc] at hlength
    | false =>
      rw [sanitizeChars, hc, if_neg Bool.false_ne_true, List.nil_append, map_safeChar_eq_self_iff]
      exact (and_iff_left rfl).symm

/-- Sanitizing once is enough. -/
@[simp] theorem sanitize_sanitize (text : String) : sanitize (sanitize text) = sanitize text := by
  rw [← String.toList_inj, toList_sanitize, toList_sanitize, sanitizeChars_eq_self_iff]
  cases text.toList with
  | nil => simp
  | cons c cs =>
    cases hc : c.isDigit with
    | true =>
      have hunderscore : ('_' : Char).isDigit = false := rfl
      simpa [sanitizeChars, hc, hunderscore] using
        ⟨isLetterOrDigit_safeChar c, fun d _ => isLetterOrDigit_safeChar d⟩
    | false =>
      simpa [sanitizeChars, hc] using
        ⟨isLetterOrDigit_safeChar c, fun d _ => isLetterOrDigit_safeChar d⟩

/-- Only the empty text gives the empty identifier. -/
@[simp] theorem sanitize_eq_empty_iff (text : String) : sanitize text = "" ↔ text = "" := by
  rw [← String.toList_inj, ← String.toList_inj, toList_sanitize]
  cases text.toList <;> simp [sanitizeChars]

/-- An identifier stays one when digits follow it. -/
theorem sanitize_append_of_digits {name digits : String} (safe : sanitize name = name)
    (nonempty : name ≠ "") (hdigits : ∀ c ∈ digits.toList, c.isDigit = true) :
    sanitize (name ++ digits) = name ++ digits := by
  rw [← String.toList_inj, toList_sanitize, sanitizeChars_eq_self_iff] at safe ⊢
  obtain ⟨c, cs, hname⟩ : ∃ c cs, name.toList = c :: cs :=
    List.exists_cons_of_ne_nil (by simpa using nonempty)
  rw [hname] at safe
  rw [String.toList_append, hname, List.cons_append, List.head?_cons]
  refine ⟨fun d hd => ?_, by simpa using safe.2⟩
  rw [← List.cons_append, List.mem_append] at hd
  rcases hd with hd | hd
  · exact safe.1 d hd
  · exact .inl (isLetterOrDigit_of_isDigit (hdigits d hd))

/-- An identifier: at least one character, each an ASCII digit, a letter that is no number or an
underscore, and no digit in front. -/
structure IsIdentifier (text : String) : Prop where
  nonempty : text ≠ ""
  characters : ∀ c ∈ text.toList, c.isDigit = true ∨
    (Text.isAlphabetic c = true ∧ Text.isNumeric c = false) ∨ c = '_'
  front : ∀ c ∈ text.toList.head?, c.isDigit = false

theorem isLetterOrDigit_iff (c : Char) : isLetterOrDigit c = true ↔
    c.isDigit = true ∨ Text.isAlphabetic c = true ∧ Text.isNumeric c = false := by
  simp [isLetterOrDigit]

/-- The identifiers are the texts that sanitizing leaves alone, but for the empty one. -/
theorem isIdentifier_iff (text : String) :
    IsIdentifier text ↔ text ≠ "" ∧ sanitize text = text := by
  have alone : sanitize text = text ↔ (∀ c ∈ text.toList, c.isDigit = true ∨
      (Text.isAlphabetic c = true ∧ Text.isNumeric c = false) ∨ c = '_') ∧
        ∀ c ∈ text.toList.head?, c.isDigit = false := by
    rw [← String.toList_inj, toList_sanitize, sanitizeChars_eq_self_iff]
    simp only [isLetterOrDigit_iff, or_assoc]
  rw [alone]
  constructor
  · rintro ⟨nonempty, characters, front⟩
    exact ⟨nonempty, characters, front⟩
  · rintro ⟨nonempty, characters, front⟩
    exact ⟨nonempty, characters, front⟩

theorem IsIdentifier.append {name digits : String} (h : IsIdentifier name)
    (hdigits : ∀ c ∈ digits.toList, c.isDigit = true) : IsIdentifier (name ++ digits) := by
  rw [isIdentifier_iff] at h ⊢
  constructor
  · intro empty
    exact h.1 (String.append_eq_empty_iff.1 empty).1
  · exact sanitize_append_of_digits h.2 h.1 hdigits

/-- Sanitizing is a retraction of the texts onto the identifiers and the empty text, which only the
empty text is taken to. Digits may be put behind an identifier. -/
theorem sanitize_retracts (text : String) :
    (sanitize text = "" ↔ text = "") ∧ (text ≠ "" → IsIdentifier (sanitize text)) ∧
    (sanitize text = text ↔ text = "" ∨ IsIdentifier text) ∧
    sanitize (sanitize text) = sanitize text ∧
    ∀ digits : String, IsIdentifier text → (∀ c ∈ digits.toList, c.isDigit = true) →
      IsIdentifier (text ++ digits) := by
  refine ⟨sanitize_eq_empty_iff text, fun nonempty => ?_, ?_, sanitize_sanitize text,
    fun digits h => h.append⟩
  · rw [isIdentifier_iff]
    exact ⟨mt (sanitize_eq_empty_iff text).1 nonempty, sanitize_sanitize text⟩
  · by_cases empty : text = ""
    · exact iff_of_true (by rw [empty, sanitize_empty]) (.inl empty)
    · rw [isIdentifier_iff, or_iff_right empty, and_iff_right empty]

/-- A Roman numeral is a number and an Arabic digit is no letter; the digits in front of the letter
become underscores, and digits may follow. -/
theorem sanitize_retracts_numerals : sanitize "Ⅻ٣é" = "__é" ∧ IsIdentifier (sanitize "Ⅻ٣é") ∧
    IsIdentifier (sanitize "Ⅻ٣é" ++ "12") := by
  have made : IsIdentifier (sanitize "Ⅻ٣é") := (sanitize_retracts "Ⅻ٣é").2.1 (by decide)
  refine ⟨by decide +kernel, made, ?_⟩
  exact (sanitize_retracts (sanitize "Ⅻ٣é")).2.2.2.2 "12" made (by simp)

end EntityDesign.Identifier
