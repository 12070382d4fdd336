import EntityDesign.Proofs.Text.Trim
import EntityDesign.Text.Lowercase
import Mathlib.Data.List.Induction

/-! Lower-casing. Its images have no lower case of their own, so lower-casing twice changes nothing.
White space and parentheses divide a text into parts that are lower-cased apart; only white space
becomes white space, and only a parenthesis a parenthesis. -/
namespace EntityDesign.Text

/-- A run of the table that maps code points to their lower case. -/
abbrev CaseRun := Nat × Nat × Nat × Int

namespace CaseRun

def Covers (r : CaseRun) (n : Nat) : Prop := r.1 ≤ n ∧ n ≤ r.2.1 ∧ (n - r.1) % r.2.2.1 = 0

def image (r : CaseRun) (n : Nat) : Nat := (n + r.2.2.2).toNat

/-- Whether the images of a run lie off these code points. -/
def misses (r : CaseRun) (p : Nat × Nat) : Bool :=
  (image r r.2.1).blt p.1 || p.2.blt (image r r.1)

/-- Whether no image of a run is covered by another: they lie off it, or between its code points. -/
def isApart (r r' : CaseRun) : Bool :=
  (image r r.2.1).blt r'.1 || (r'.2.1.blt (image r r.1) ||
    ((r.1.beq r.2.1 || r.2.2.1.beq 2) && r'.2.2.1.beq 2 && !(image r r.1 % 2).beq (r'.1 % 2)))

variable {r r' : CaseRun} {n : Nat}

theorem image_bounds (h : Covers r n) : image r r.1 ≤ image r n ∧ image r n ≤ image r r.2.1 := by
  obtain ⟨first, last, -⟩ := h
  unfold image
  omega

theorem image_of_misses {p : Nat × Nat} (off : misses r p = true) (h : Covers r n) :
    ¬(p.1 ≤ image r n ∧ image r n ≤ p.2) := by
  obtain ⟨least, greatest⟩ := image_bounds h
  simp only [misses, Bool.or_eq_true, Nat.blt_eq] at off
  omega

theorem not_covers_image (positive : 0 ≤ r.1 + r.2.2.2) (apart : isApart r r' = true)
    (h : Covers r n) : ¬Covers r' (image r n) := by
  obtain ⟨least, greatest⟩ := image_bounds h
  simp only [isApart, Bool.or_eq_true, Bool.and_eq_true, Bool.not_eq_true', Nat.blt_eq,
    Nat.beq_eq, ← Bool.not_eq_true] at apart
  rintro ⟨first', last', step'⟩
  obtain ⟨first, last, step⟩ := h
  rcases apart with below | above | ⟨⟨even, two⟩, parity⟩
  · omega
  · omega
  · rw [two] at step'
    have behind : image r n = image r r.1 + (n - r.1) := by
      unfold image
      omega
    rcases even with single | two'
    · omega
    · rw [two'] at step
      omega

end CaseRun

section Tables
open CaseRun

/-- White space and the opening parenthesis. -/
def dividers : Ranges := (0x28, 0x28) :: whiteSpace

/-- What an image must not be: a surrogate, beyond the last code point, `İ`, which has a lower case
of its own, or a divider. -/
def withoutImages : Ranges :=
  (0xD800, 0xDFFF) :: (0x110000, 0x1FFFFF) :: (0x130, 0x130) :: dividers

theorem lowerRuns_apart : (lowerRuns.all fun r => lowerRuns.all (isApart r)) = true := by
  decide +kernel

theorem lowerRuns_fit : ∀ r ∈ lowerRuns, 0 ≤ r.1 + r.2.2.2 ∧ r.2.1 + r.2.2.2 ≤ 0x1FFFFF ∧
    ∀ p ∈ withoutImages, misses r p = true := by
  decide +kernel

/-- A divider has no case, and a search for a cased letter ends at it. -/
theorem dividers_caseless : ∀ p ∈ dividers,
    (∀ q ∈ cased ++ caseIgnorable, p.2 < q.1 ∨ q.2 < p.1) ∧
      ∀ r ∈ lowerRuns, p.2 < r.1 ∨ r.2.1 < p.1 := by
  decide +kernel

variable {n : Nat}

theorem lowerPoint_of_not_covers (h : ∀ r ∈ lowerRuns, ¬Covers r n) : lowerPoint n = n := by
  unfold lowerPoint
  split
  · next offset found =>
    have covered := List.find?_some found
    simp only [Bool.and_eq_true, decide_eq_true_eq, beq_iff_eq] at covered
    exact absurd ⟨covered.1.1, covered.1.2, covered.2⟩ (h _ (List.mem_of_find?_eq_some found))
  · rfl

/-- A code point is its own lower case or is covered by a run that maps it. -/
theorem lowerPoint_cases (n : Nat) :
    lowerPoint n = n ∨ ∃ r ∈ lowerRuns, Covers r n ∧ lowerPoint n = image r n := by
  unfold lowerPoint
  split
  · next offset found =>
    have covered := List.find?_some found
    simp only [Bool.and_eq_true, decide_eq_true_eq, beq_iff_eq] at covered
    exact .inr ⟨_, List.mem_of_find?_eq_some found, ⟨covered.1.1, covered.1.2, covered.2⟩, rfl⟩
  · exact .inl rfl

theorem lowerPoint_image {r : CaseRun} (hr : r ∈ lowerRuns) (h : Covers r n) :
    lowerPoint (image r n) = image r n := by
  refine lowerPoint_of_not_covers fun r' hr' => ?_
  have apart := List.all_eq_true.1 (List.all_eq_true.1 lowerRuns_apart r hr) r' hr'
  exact not_covers_image (lowerRuns_fit r hr).1 apart h

theorem lowerPoint_lowerPoint (n : Nat) : lowerPoint (lowerPoint n) = lowerPoint n := by
  rcases lowerPoint_cases n with same | ⟨r, hr, h, mapped⟩
  · rw [same, same]
  · rw [mapped, lowerPoint_image hr h]

/-- A code point off the reserved ones, or with an image, is not mapped onto a reserved one. -/
theorem lowerPoint_reserved {p : Nat × Nat} (hp : p ∈ withoutImages)
    (h : p.1 ≤ lowerPoint n ∧ lowerPoint n ≤ p.2) : lowerPoint n = n := by
  rcases lowerPoint_cases n with same | ⟨r, hr, covered, mapped⟩
  · exact same
  · rw [mapped] at h
    exact absurd h (image_of_misses ((lowerRuns_fit r hr).2.2 p hp) covered)

end Tables

section Characters
open CaseRun
variable {c d : Char} {before after : List Char}

/-- The character is its own lower case wherever it stands. -/
structure IsLower (c : Char) : Prop where
  sigma : c ≠ 'Σ'
  dotted : c ≠ 'İ'
  point : lowerPoint c.toNat = c.toNat

/-- The image of a character that has one of its own. -/
def lowered (c : Char) : Char := Char.ofNat (lowerPoint c.toNat)

theorem toNat_lowered (c : Char) : (lowered c).toNat = lowerPoint c.toNat := by
  have valid : (lowerPoint c.toNat).isValidChar := by
    rcases lowerPoint_cases c.toNat with same | ⟨r, hr, covered, mapped⟩
    · rw [same]
      exact c.valid
    · have off {p : Nat × Nat} (hp : p ∈ withoutImages) :=
        image_of_misses ((lowerRuns_fit r hr).2.2 p hp) covered
      have surrogate := off (p := (0xD800, 0xDFFF)) (by simp [withoutImages])
      have beyond := off (p := (0x110000, 0x1FFFFF)) (by simp [withoutImages])
      have bound := (image_bounds covered).2
      have fit := (lowerRuns_fit r hr).2.1
      rw [mapped]
      unfold Nat.isValidChar
      unfold image at *
      omega
  rw [lowered, Char.ofNat, dif_pos valid]
  rfl

/-- A character becomes the final or the other form of sigma, the two characters of `İ`, or its
image. -/
theorem mem_lowerChar (h : d ∈ lowerChar before c after) :
    d = 'ς' ∨ d = 'σ' ∨ d = 'i' ∨ d = '\u0307' ∨ c ≠ 'İ' ∧ d = lowered c := by
  unfold lowerChar at h
  split_ifs at h with sigma final dotted
  · exact .inl (List.mem_singleton.1 h)
  · exact .inr (.inl (List.mem_singleton.1 h))
  · rcases List.mem_cons.1 h with h | h
    · exact .inr (.inr (.inl h))
    · exact .inr (.inr (.inr (.inl (List.mem_singleton.1 h))))
  · exact .inr (.inr (.inr (.inr ⟨dotted, List.mem_singleton.1 h⟩)))

theorem lowerChar_ne_nil (before : List Char) (c : Char) (after : List Char) :
    lowerChar before c after ≠ [] := by
  unfold lowerChar
  split_ifs <;> exact List.cons_ne_nil _ _

theorem IsLower.lowerChar (h : IsLower c) (before after : List Char) :
    lowerChar before c after = [c] := by
  rw [Text.lowerChar, if_neg h.sigma, if_neg h.dotted, h.point, Char.ofNat_toNat]

theorem isLower_lowered (h : c ≠ 'İ') : IsLower (lowered c) where
  sigma eq := by
    have image : lowerPoint c.toNat = 0x3A3 := by rw [← toNat_lowered, eq]; rfl
    have twice := lowerPoint_lowerPoint c.toNat
    rw [image] at twice
    revert twice
    decide +kernel
  dotted eq := by
    have image : lowerPoint c.toNat = 0x130 := by rw [← toNat_lowered, eq]; rfl
    have same := lowerPoint_reserved (p := (0x130, 0x130)) (n := c.toNat) (by simp [withoutImages])
      (by simp [image])
    exact h (Char.toNat_inj.1 (same.symm.trans image))
  point := by rw [toNat_lowered, lowerPoint_lowerPoint]

theorem isLower_of_mem_lowerChar (h : d ∈ lowerChar before c after) : IsLower d := by
  rcases mem_lowerChar h with rfl | rfl | rfl | rfl | ⟨hc, rfl⟩
  · constructor <;> decide +kernel
  · constructor <;> decide +kernel
  · constructor <;> decide +kernel
  · constructor <;> decide +kernel
  · exact isLower_lowered hc

/-- Only a divider becomes a divider. -/
theorem eq_of_divider (h : d ∈ lowerChar before c after) (hd : dividers.contains d = true) :
    c = d := by
  rcases mem_lowerChar h with rfl | rfl | rfl | rfl | ⟨-, rfl⟩
  · exact absurd hd (by decide)
  · exact absurd hd (by decide)
  · exact absurd hd (by decide)
  · exact absurd hd (by decide)
  · obtain ⟨p, hp, inside⟩ := (Ranges.contains_iff ..).1 hd
    rw [toNat_lowered] at inside
    have same := lowerPoint_reserved (by simp [withoutImages, hp]) inside
    exact Char.toNat_inj.1 (by rw [toNat_lowered, same])

/-- A divider is its own lower case, and no letter on its other side is seen from either. -/
structure Divides (c : Char) : Prop where
  lower : IsLower c
  uncased : cased.contains c = false
  ends : caseIgnorable.contains c = false

theorem divides_of_divider (h : dividers.contains c = true) : Divides c := by
  obtain ⟨p, hp, inside⟩ := (Ranges.contains_iff ..).1 h
  obtain ⟨off, unmapped⟩ := dividers_caseless p hp
  have outside {t : Ranges} (ht : ∀ q ∈ t, q ∈ cased ++ caseIgnorable) : t.contains c = false := by
    rw [Bool.eq_false_iff, Ne, Ranges.contains_iff]
    rintro ⟨q, hq, covered⟩
    have apart := off q (ht q hq)
    omega
  refine ⟨⟨?_, ?_, ?_⟩, outside fun q hq => List.mem_append_left _ hq,
    outside fun q hq => List.mem_append_right _ hq⟩
  · rintro rfl
    exact absurd h (by decide)
  · rintro rfl
    exact absurd h (by decide)
  · refine lowerPoint_of_not_covers fun r hr covered => ?_
    have apart := unmapped r hr
    obtain ⟨first, last, -⟩ := covered
    omega

theorem divider_of_isBlank (h : isBlank c = true) : dividers.contains c = true := by
  obtain ⟨p, hp, inside⟩ := (Ranges.contains_iff ..).1 h
  exact (Ranges.contains_iff ..).2 ⟨p, List.mem_cons_of_mem _ hp, inside⟩

theorem isBlank_of_mem_lowerChar (h : d ∈ lowerChar before c after) (hc : isBlank c = false) :
    isBlank d = false := by
  by_contra hd
  have blank : isBlank d = true := by simpa using hd
  rw [eq_of_divider h (divider_of_isBlank blank), blank] at hc
  cases hc

end Characters

section Context
variable {c : Char} {before before' after after' : List Char}

theorem lowerChar_congr (hb : seesCased before = seesCased before')
    (ha : seesCased after = seesCased after') (c : Char) :
    lowerChar before c after = lowerChar before' c after' := by
  unfold lowerChar
  rw [hb, ha]

theorem lowerFrom_congr (h : seesCased before = seesCased before') (s : List Char) :
    lowerFrom before s = lowerFrom before' s := by
  induction s generalizing before before' with
  | nil => rfl
  | cons c s ih =>
    have next : seesCased (c :: before) = seesCased (c :: before') := by
      unfold seesCased
      rw [h]
    rw [lowerFrom, lowerFrom, lowerChar_congr h rfl c, ih next]

theorem Divides.seesCased_cons (h : Divides c) (s : List Char) : seesCased (c :: s) = false := by
  rw [seesCased, h.ends, h.uncased]
  rfl

theorem Divides.seesCased_append (h : Divides c) (s t : List Char) :
    seesCased (s ++ c :: t) = seesCased s := by
  induction s with
  | nil => exact h.seesCased_cons t
  | cons d s ih => rw [List.cons_append, seesCased, seesCased, ih]

/-- The parts on both sides of a divider are lower-cased apart. -/
theorem Divides.lowerFrom_append (h : Divides c) (before s t : List Char) :
    lowerFrom before (s ++ c :: t) = lowerFrom before s ++ c :: lowercase t := by
  induction s generalizing before with
  | nil =>
    have fresh : seesCased (c :: before) = seesCased [] := h.seesCased_cons before
    change lowerChar before c t ++ lowerFrom (c :: before) t = c :: lowercase t
    rw [h.lower.lowerChar, lowerFrom_congr fresh t]
    rfl
  | cons d s ih =>
    rw [List.cons_append, lowerFrom, lowerFrom, ih,
      lowerChar_congr rfl (h.seesCased_append s t) d, List.append_assoc]

end Context

section Texts
variable {a b m s t : List Char}

theorem lowerFrom_of_isLower (h : ∀ c ∈ s, IsLower c) (before : List Char) :
    lowerFrom before s = s := by
  induction s generalizing before with
  | nil => rfl
  | cons c s ih =>
    obtain ⟨hc, hs⟩ := List.forall_mem_cons.1 h
    rw [lowerFrom, hc.lowerChar, ih hs]
    rfl

theorem lowercase_of_isLower (h : ∀ c ∈ s, IsLower c) : lowercase s = s := lowerFrom_of_isLower h []

/-- What is found in a lower-cased text comes from one of its characters. -/
theorem exists_lowerChar_of_mem {d : Char} {before : List Char} (h : d ∈ lowerFrom before s) :
    ∃ c ∈ s, ∃ before after, d ∈ lowerChar before c after := by
  induction s generalizing before with
  | nil => cases h
  | cons c s ih =>
    rcases List.mem_append.1 h with h | h
    · exact ⟨c, List.mem_cons_self, before, s, h⟩
    · obtain ⟨c', hc', found⟩ := ih h
      exact ⟨c', List.mem_cons_of_mem c hc', found⟩

theorem isLower_of_mem_lowercase {d : Char} (h : d ∈ lowercase s) : IsLower d := by
  obtain ⟨c, -, before, after, hd⟩ := exists_lowerChar_of_mem h
  exact isLower_of_mem_lowerChar hd

theorem mem_of_divider_mem_lowercase {d : Char} (hd : dividers.contains d = true)
    (h : d ∈ lowercase s) : d ∈ s := by
  obtain ⟨c, hc, before, after, found⟩ := exists_lowerChar_of_mem h
  rwa [← eq_of_divider found hd]

theorem divides_of_mem (hb : AllBlank b) {c : Char} (hc : c ∈ b) : Divides c :=
  divides_of_divider (divider_of_isBlank (hb c hc))

theorem lowercase_blank (hb : AllBlank b) : lowercase b = b :=
  lowercase_of_isLower fun _ hc => (divides_of_mem hb hc).lower

theorem lowercase_blank_append (ha : AllBlank a) (s : List Char) :
    lowercase (a ++ s) = a ++ lowercase s := by
  induction a with
  | nil => rfl
  | cons c a ih =>
    have divided := (divides_of_mem ha List.mem_cons_self).lowerFrom_append [] [] (a ++ s)
    exact divided.trans (congrArg (c :: ·) (ih fun c hc => ha c (List.mem_cons_of_mem _ hc)))

theorem lowercase_append_blank (hb : AllBlank b) (s : List Char) :
    lowercase (s ++ b) = lowercase s ++ b := by
  cases b with
  | nil => simp
  | cons c b =>
    have divided := (divides_of_mem hb List.mem_cons_self).lowerFrom_append [] s b
    have rest := lowercase_blank fun c hc => hb c (List.mem_cons_of_mem _ hc)
    rw [rest] at divided
    exact divided

theorem exists_lowerFrom_concat (before s : List Char) (c : Char) :
    ∃ front before', lowerFrom before (s ++ [c]) = front ++ lowerChar before' c [] := by
  induction s generalizing before with
  | nil => exact ⟨[], before, by simp [lowerFrom]⟩
  | cons d s ih =>
    obtain ⟨front, before', h⟩ := ih (d :: before)
    refine ⟨lowerChar before d (s ++ [c]) ++ front, before', ?_⟩
    rw [List.cons_append, lowerFrom, h, List.append_assoc]

/-- Lower-casing brings no white space to the front. -/
theorem endsRun_lowercase (h : EndsRun isBlank s) : EndsRun isBlank (lowercase s) := by
  cases s with
  | nil => exact h
  | cons c s =>
    have visible := endsRun_cons.1 h
    exact endsRun_append (lowerChar_ne_nil [] c s)
      (fun d hd => isBlank_of_mem_lowerChar hd visible) (lowerFrom [c] s)

theorem Trimmed.lowercase (h : Trimmed m) : Trimmed (Text.lowercase m) where
  start := endsRun_lowercase h.start
  finish := by
    induction m using List.reverseRecOn with
    | nil => exact trimmed_nil.finish
    | append_singleton m c =>
      have visible : isBlank c = false := by
        have finish := h.finish
        rw [List.reverse_concat] at finish
        exact endsRun_cons.1 finish
      obtain ⟨front, before, split⟩ := exists_lowerFrom_concat [] m c
      rw [Text.lowercase, split, List.reverse_append]
      refine endsRun_append (by simpa using lowerChar_ne_nil before c []) (fun d hd => ?_) _
      exact isBlank_of_mem_lowerChar (List.mem_reverse.1 hd) visible

theorem trim_lowercase (s : List Char) : trim (lowercase s) = lowercase (trim s) := by
  obtain ⟨a, m, b, rfl, ha, hm, hb⟩ := exists_between s
  rw [lowercase_append_blank hb, lowercase_blank_append ha, trim_between ha hm.lowercase hb,
    trim_between ha hm hb]

end Texts

section Letters

/-- A letter of either case has the same lower case. -/
theorem lowerPoint_letter : ∀ k < 26, lowerPoint (0x41 + k) = 0x61 + k ∧
    lowerPoint (0x61 + k) = 0x61 + k := by
  decide +kernel

theorem letters_cased : ∀ q ∈ caseIgnorable, q.2 < 0x41 ∨ 0x7A < q.1 ∨ 0x5A < q.1 ∧ q.2 < 0x61 := by
  decide +kernel

/-- Only the capital letters of ASCII become other characters, the small ones. -/
theorem toLower_cases (c : Char) : c.toLower = c ∨
    ∃ k < 26, c.toNat = 0x41 + k ∧ c.toLower.toNat = 0x61 + k := by
  unfold Char.toLower
  split
  · next capital =>
    obtain ⟨first, last⟩ := capital
    have first' : 0x41 ≤ c.toNat := first
    have last' : c.toNat ≤ 0x5A := last
    refine .inr ⟨c.toNat - 0x41, by omega, by omega, ?_⟩
    change (c.val + 32).toNat = _
    rw [UInt32.toNat_add]
    change (c.toNat + 32) % 2 ^ 32 = _
    omega
  · exact .inl rfl

theorem contains_toLower (c : Char) : cased.contains c.toLower = cased.contains c ∧
    caseIgnorable.contains c.toLower = caseIgnorable.contains c := by
  rcases toLower_cases c with same | ⟨k, hk, capital, small⟩
  · rw [same]
    exact ⟨rfl, rfl⟩
  · have isCased {d : Char} {p : Nat × Nat} (hp : p ∈ cased) (h : p.1 ≤ d.toNat ∧ d.toNat ≤ p.2) :
        cased.contains d = true := (Ranges.contains_iff ..).2 ⟨p, hp, h⟩
    have ends {d : Char} (h : 0x41 ≤ d.toNat ∧ d.toNat ≤ 0x5A ∨ 0x61 ≤ d.toNat ∧ d.toNat ≤ 0x7A) :
        caseIgnorable.contains d = false := by
      rw [Bool.eq_false_iff, Ne, Ranges.contains_iff]
      rintro ⟨q, hq, covered⟩
      have apart := letters_cased q hq
      omega
    rw [isCased (p := (0x61, 0x7A)) (by simp [cased]) (by omega),
      isCased (p := (0x41, 0x5A)) (by simp [cased]) (by omega), ends (by omega), ends (by omega)]
    exact ⟨rfl, rfl⟩

theorem seesCased_map_toLower (s : List Char) : seesCased (s.map Char.toLower) = seesCased s := by
  induction s with
  | nil => rfl
  | cons c s ih =>
    rw [List.map_cons, seesCased, seesCased, ih, (contains_toLower c).1, (contains_toLower c).2]

theorem lowerChar_toLower (before : List Char) (c : Char) (after : List Char) :
    lowerChar before c.toLower after = lowerChar before c after := by
  rcases toLower_cases c with same | ⟨k, hk, capital, small⟩
  · rw [same]
  · have plain {d : Char} (h : d.toNat ≤ 0x7A) :
        lowerChar before d after = [Char.ofNat (lowerPoint d.toNat)] := by
      have sigma : d ≠ 'Σ' := by
        rintro rfl
        exact absurd h (by decide)
      have dotted : d ≠ 'İ' := by
        rintro rfl
        exact absurd h (by decide)
      rw [lowerChar, if_neg sigma, if_neg dotted]
    obtain ⟨ofCapital, ofSmall⟩ := lowerPoint_letter k hk
    rw [plain (by omega), plain (by omega), capital, small, ofCapital, ofSmall]

theorem lowerFrom_map_toLower (before s : List Char) :
    lowerFrom (before.map Char.toLower) (s.map Char.toLower) = lowerFrom before s := by
  induction s generalizing before with
  | nil => rfl
  | cons c s ih =>
    rw [List.map_cons, lowerFrom, lowerFrom, ← ih (c :: before), lowerChar_toLower,
      lowerChar_congr (seesCased_map_toLower before) (seesCased_map_toLower s) c]
    rfl

theorem lowercase_map_toLower (s : List Char) : lowercase (s.map Char.toLower) = lowercase s :=
  lowerFrom_map_toLower [] s

theorem blank_apart : ∀ q ∈ whiteSpace, q.2 < 0x41 ∨ 0x7A < q.1 := by decide

theorem isBlank_toLower (c : Char) : isBlank c.toLower = isBlank c := by
  rcases toLower_cases c with same | ⟨k, hk, capital, small⟩
  · rw [same]
  · have visible {d : Char} (h : 0x41 ≤ d.toNat ∧ d.toNat ≤ 0x7A) : isBlank d = false := by
      rw [isBlank, Bool.eq_false_iff, Ne, Ranges.contains_iff]
      rintro ⟨q, hq, covered⟩
      have apart := blank_apart q hq
      omega
    rw [visible (by omega), visible (by omega)]

theorem trim_map_toLower (s : List Char) :
    trim (s.map Char.toLower) = (trim s).map Char.toLower := by
  have same : isBlank ∘ Char.toLower = isBlank := funext isBlank_toLower
  rw [trim, trim, trimStart, trimStart, trimEnd, trimEnd, List.dropWhile_map, same,
    ← List.map_reverse, List.dropWhile_map, same, List.map_reverse]

end Letters
end EntityDesign.Text
