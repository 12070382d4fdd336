import EntityDesign.Proofs.Yaml.Flow

/-! Written scalars by their form. Whatever the style, a text is written in printable characters,
and unless it is a literal block, what stands before its line feed is a plain or quoted scalar of
that text. -/
namespace EntityDesign.Yaml.Scalar

/-- What plain style asks of a text. -/
theorem allowsPlain_spec {s : List Char} (h : allowsPlain s = true) :
    (∀ c ∈ s, isPrintable c = true ∧ isBreak c = false) ∧ s ≠ [] ∧ s.head? ≠ some ' ' ∧
      s.getLast? ≠ some ' ' ∧ hasIndicators s = false := by
  simp only [allowsPlain, isRegular, isMultiline, Bool.and_eq_true, Bool.not_eq_true',
    List.all_eq_true, List.any_eq_false, bne_iff_ne, List.isEmpty_eq_false_iff] at h
  obtain ⟨⟨⟨⟨⟨⟨printable, -⟩, inLine⟩, hne⟩, first⟩, last⟩, indicators⟩ := h
  exact ⟨fun c hc => ⟨printable c hc, by simpa using inLine c hc⟩, hne, first, last, indicators⟩

/-- The first character of a plain text. -/
theorem allowsPlain_head {c : Char} {s : List Char} (h : allowsPlain (c :: s) = true) :
    isWhite c = false ∧ isIndicator c = false ∧
      (c = '?' ∨ c = ':' ∨ c = '-' → blankNext s = false) ∧ breaksOff false (c :: s) = false := by
  obtain ⟨chars, -, first, -, indicators⟩ := allowsPlain_spec h
  obtain ⟨printable, inLine⟩ := chars c List.mem_cons_self
  simp only [hasIndicators, Bool.or_eq_false_iff, Bool.and_eq_false_iff] at indicators
  obtain ⟨-, ⟨indicator, marks⟩, whole⟩ := indicators
  have visible := visible_of_printable printable inLine (by simpa using first)
  have inWord : (isBlank c || isBreak c) = false := visible
  rw [inWord] at whole
  refine ⟨visible, indicator, fun h => ?_, ?_⟩
  · refine marks.resolve_left ?_
    rcases h with rfl | rfl | rfl <;> decide
  · rw [breaksOff, inWord, whole]
    simp only [Bool.and_false, Bool.or_false]
    by_cases hc : c = ':'
    · simpa [hc] using marks
    · simp [hc]

/-- What single quotes ask of a text. -/
theorem allowsSingle_spec {s : List Char} (h : allowsSingle s = true) :
    (∀ c ∈ s, isPrintable c = true) ∧ hasPair isSpace isBreak s = false ∧
      hasPair isBreak isSpace s = false := by
  simpa [allowsSingle, isRegular, and_assoc] using h

/-- The text `t` is a plain or a quoted scalar for `s`. -/
inductive Inline (s : List Char) : (plain : Bool) → (t : List Char) → Prop
  | plain (h : allowsPlain s = true) : Inline s true s
  | single (indent : Nat) (h : allowsSingle s = true) (noFeed : '\n' ∉ s) (further : 0 < indent) :
    Inline s false ('\'' :: singleBody indent false s ++ ['\''])
  | double : Inline s false ('"' :: s.flatMap escapeChar ++ ['"'])

/-- The style of a text is one that the text allows. -/
theorem style_sound (s : String) :
    match style s with
    | .plain => allowsPlain s.toList = true
    | .single => allowsSingle s.toList = true ∧ '\n' ∉ s.toList
    | .double => True
    | .literal => allowsLiteral s.toList = true ∧ '\n' ∈ s.toList := by
  rw [style]
  split_ifs <;> simp_all

/-- A text is written as a literal block or as a scalar of one of the other forms. -/
theorem write_eq {indent : Nat} (further : 0 < indent) (s : String) :
    (∃ t, Inline s.toList (style s == .plain) t ∧ write indent s = t ++ ['\n']) ∨
      style s = .literal ∧ s.toList ≠ [] ∧ s.toList.all isPrintable = true ∧
        write indent s = '|' :: (indentHint s.toList ++ chompHint s.toList ++
          '\n' :: literalBody indent true s.toList) := by
  have sound := style_sound s
  cases h : style s with
  | plain =>
    rw [h] at sound
    exact .inl ⟨_, .plain sound, by simp [write, h]⟩
  | single =>
    rw [h] at sound
    exact .inl ⟨_, .single indent sound.1 sound.2 further, by simp [write, h]⟩
  | double => exact .inl ⟨_, .double, by simp [write, h]⟩
  | literal =>
    simp only [h, allowsLiteral, isRegular, Bool.and_eq_true] at sound
    exact .inr ⟨rfl, List.ne_nil_of_mem sound.2, sound.1.1.1, by simp [write, h]⟩

section Characters

theorem mem_singleBody {indent : Nat} {b : Bool} {s : List Char} {c : Char}
    (h : c ∈ singleBody indent b s) : c = ' ' ∨ c ∈ s := by
  induction s generalizing b with
  | nil =>
    rw [singleBody] at h
    split at h
    · exact .inl (mem_spaces h)
    · cases h
  | cons d s ih =>
    rw [singleBody] at h
    split at h
    · rcases List.mem_cons.1 h with h | h
      · simp [h]
      · exact (ih h).imp_right (.tail d)
    · rcases List.mem_append.1 h with h | h
      · rcases List.mem_append.1 h with h | h
        · split at h
          · exact .inl (mem_spaces h)
          · cases h
        · split at h <;> simp_all
      · exact (ih h).imp_right (.tail d)

theorem mem_literalBody {indent : Nat} {b : Bool} {s : List Char} {c : Char}
    (h : c ∈ literalBody indent b s) : c = ' ' ∨ c = '\n' ∨ c ∈ s := by
  induction s generalizing b with
  | nil =>
    rw [literalBody] at h
    split at h <;> simp_all
  | cons d s ih =>
    rw [literalBody] at h
    split at h
    · rcases List.mem_cons.1 h with h | h
      · simp [h]
      · exact (ih h).imp_right (.imp_right (.tail d))
    · rcases List.mem_append.1 h with h | h
      · split at h
        · exact .inl (mem_spaces h)
        · cases h
      · rcases List.mem_cons.1 h with h | h
        · simp [h]
        · exact (ih h).imp_right (.imp_right (.tail d))

theorem printable_written {c : Char} {code : List Char} (h : Flow.Written c code) :
    ∀ d ∈ code, isPrintable d = true := by
  cases h with
  | raw printable => simpa using printable
  | escape chars => exact List.forall_mem_cons.2 ⟨rfl, fun d hd => (chars d hd).1⟩

theorem Inline.printable {s t : List Char} {p : Bool} (h : Inline s p t) :
    ∀ c ∈ t, isPrintable c = true := by
  cases h with
  | plain h => exact fun c hc => ((allowsPlain_spec h).1 c hc).1
  | single indent h =>
    simp only [List.cons_append, List.forall_mem_cons, List.forall_mem_append]
    refine ⟨rfl, fun c hc => ?_, rfl, by simp⟩
    rcases mem_singleBody hc with rfl | hc
    · rfl
    · exact (allowsSingle_spec h).1 c hc
  | double =>
    simp only [List.cons_append, List.forall_mem_cons, List.forall_mem_append, List.mem_flatMap]
    refine ⟨rfl, ?_, rfl, by simp⟩
    rintro c ⟨d, -, hc⟩
    exact printable_written (Flow.written_escapeChar d) c hc

theorem printable_indentHint (s : List Char) : ∀ c ∈ indentHint s, isPrintable c = true := by
  cases s with
  | nil => simp [indentHint]
  | cons d s =>
    rw [indentHint]
    split <;> exact List.all_eq_true.1 rfl

theorem printable_chompHint (s : List Char) : ∀ c ∈ chompHint s, isPrintable c = true := by
  rw [chompHint]
  split
  · exact List.all_eq_true.1 rfl
  · split <;> exact List.all_eq_true.1 rfl
  · split_ifs <;> exact List.all_eq_true.1 rfl

/-- Every character of a written scalar is printable. -/
theorem printable_write {indent : Nat} (further : 0 < indent) (s : String) :
    ∀ c ∈ write indent s, isPrintable c = true := by
  rcases write_eq further s with ⟨t, ht, hwrite⟩ | ⟨-, -, printable, hwrite⟩
  · rw [hwrite]
    exact List.forall_mem_append.2 ⟨ht.printable, List.all_eq_true.1 rfl⟩
  · rw [hwrite]
    simp only [List.forall_mem_cons, List.forall_mem_append]
    refine ⟨rfl, ⟨printable_indentHint _, printable_chompHint _⟩, rfl, fun c hc => ?_⟩
    rcases mem_literalBody hc with rfl | rfl | hc
    · rfl
    · rfl
    · exact List.all_eq_true.1 printable c hc

end Characters

section Keys

/-- The bytes that a text takes in UTF-8. -/
def byteSize : List Char → Nat
  | [] => 0
  | c :: s => c.utf8Size + byteSize s

theorem byteSize_cons (c : Char) (s : List Char) :
    byteSize (c :: s) = c.utf8Size + byteSize s := rfl

theorem utf8ByteSize_ofList (s : List Char) : (String.ofList s).utf8ByteSize = byteSize s := by
  induction s with
  | nil => rfl
  | cons c s ih =>
    rw [String.ofList_cons, String.utf8ByteSize_append, String.utf8ByteSize_singleton, ih,
      byteSize_cons]

theorem length_written_le {c : Char} {code : List Char} (h : Flow.Written c code) :
    code.length ≤ 4 * c.utf8Size := by
  cases h with
  | raw =>
    have hpos := c.utf8Size_pos
    rw [List.length_singleton]
    omega
  | escape _ short => exact short

theorem inLine_written {c : Char} {code : List Char} (h : Flow.Written c code) :
    ∀ d ∈ code, isBreak d = false := by
  cases h with
  | raw _ inLine => simpa using inLine
  | escape chars => exact List.forall_mem_cons.2 ⟨rfl, fun d hd => (chars d hd).2⟩

/-- A text on one line is written on one line. -/
theorem Inline.inLine {s t : List Char} {p : Bool} (h : Inline s p t)
    (oneLine : ∀ c ∈ s, isBreak c = false) : ∀ c ∈ t, isBreak c = false := by
  cases h with
  | plain => exact oneLine
  | single =>
    simp only [List.cons_append, List.forall_mem_cons, List.forall_mem_append]
    refine ⟨rfl, fun c hc => ?_, rfl, by simp⟩
    rcases mem_singleBody hc with rfl | hc
    · rfl
    · exact oneLine c hc
  | double =>
    simp only [List.cons_append, List.forall_mem_cons, List.forall_mem_append, List.mem_flatMap]
    refine ⟨rfl, ?_, rfl, by simp⟩
    rintro c ⟨d, -, hc⟩
    exact inLine_written (Flow.written_escapeChar d) c hc

theorem length_singleBody_le (indent : Nat) {s : List Char}
    (oneLine : ∀ c ∈ s, isBreak c = false) :
    (singleBody indent false s).length ≤ 4 * byteSize s := by
  induction s with
  | nil => simp [singleBody]
  | cons c s ih =>
    obtain ⟨hc, oneLine⟩ := List.forall_mem_cons.1 oneLine
    have hpos := c.utf8Size_pos
    have hrest := ih oneLine
    by_cases quote : c = '\''
    · subst c
      simp [singleBody, byteSize_cons, isBreak]
      omega
    · simp [singleBody, byteSize_cons, hc, quote]
      omega

theorem length_flatMap_escapeChar_le (s : List Char) :
    (s.flatMap escapeChar).length ≤ 4 * byteSize s := by
  induction s with
  | nil => simp
  | cons c s ih =>
    have hc := length_written_le (Flow.written_escapeChar c)
    rw [List.flatMap_cons, List.length_append, byteSize_cons]
    omega

theorem length_le_byteSize (s : List Char) : s.length ≤ byteSize s := by
  induction s with
  | nil => simp
  | cons c s ih =>
    have hpos := c.utf8Size_pos
    rw [List.length_cons, byteSize_cons]
    omega

theorem Inline.length_le {s t : List Char} {p : Bool} (h : Inline s p t)
    (oneLine : ∀ c ∈ s, isBreak c = false) : t.length ≤ 4 * byteSize s + 2 := by
  cases h with
  | plain =>
    have := length_le_byteSize s
    omega
  | single indent =>
    have := length_singleBody_le indent oneLine
    simp only [List.length_cons, List.length_append, List.length_nil]
    omega
  | double =>
    have := length_flatMap_escapeChar_le s
    simp only [List.length_cons, List.length_append, List.length_nil]
    omega

/-- A text that may stand before a colon is written as a scalar on one line that is short enough for
a key. -/
theorem exists_of_isSimpleKey {indent : Nat} (further : 0 < indent) {k : String}
    (h : isSimpleKey k = true) : ∃ t, Inline k.toList (style k == .plain) t ∧
      write indent k = t ++ ['\n'] ∧ (∀ c ∈ t, isBreak c = false) ∧ t.length ≤ 1024 := by
  simp only [isSimpleKey, isMultiline, Bool.and_eq_true, Bool.not_eq_true', List.any_eq_false,
    decide_eq_true_eq] at h
  have oneLine : ∀ c ∈ k.toList, isBreak c = false := by simpa using h.1
  have hsize := utf8ByteSize_ofList k.toList
  rw [String.ofList_toList] at hsize
  rcases write_eq further k with ⟨t, ht, hwrite⟩ | ⟨hstyle, -⟩
  · have hlen := ht.length_le oneLine
    exact ⟨t, ht, hwrite, ht.inLine oneLine, by omega⟩
  · have sound := style_sound k
    rw [hstyle] at sound
    cases oneLine '\n' sound.2

end Keys
end EntityDesign.Yaml.Scalar
