import EntityDesign.Proofs.Text.Lowercase
import EntityDesign.Sqlite.DeclaredType

/-! The relational names of declared types are canonical: neither sizes nor white space nor the case
of letters matter, and a name that was made is made into itself. -/
namespace EntityDesign.Sqlite.DeclaredType
open Text

section Base
variable {s t : List Char}

/-- What stands in front of the first parenthesis. -/
def front (s : List Char) : List Char := s.takeWhile (· != '(')

theorem front_of_notMem (h : '(' ∉ s) : front s = s := by
  rw [front, List.takeWhile_eq_self_iff]
  intro c hc
  simpa using ne_of_mem_of_not_mem hc h

theorem front_append (h : '(' ∉ s) (t : List Char) : front (s ++ '(' :: t) = s := by
  refine takeWhile_run (fun c hc => ?_) (endsRun_cons.2 (by simp))
  simpa using ne_of_mem_of_not_mem hc h

theorem front_pad {a u : List Char} (ha : '(' ∉ a) (hu : '(' ∉ u) (v b : List Char) :
    front (a ++ (u ++ '(' :: v) ++ b) = a ++ u := by
  have regroup : a ++ (u ++ '(' :: v) ++ b = (a ++ u) ++ '(' :: (v ++ b) := by simp
  rw [regroup, front_append (by simp [ha, hu])]

theorem notMem_front (s : List Char) : '(' ∉ front s := by
  intro h
  simpa using List.mem_takeWhile_imp h

theorem notMem_lowercase (h : '(' ∉ s) : '(' ∉ lowercase s :=
  fun mem => h (mem_of_divider_mem_lowercase (by decide) mem)

/-- Cutting at the parenthesis, trimming and lower-casing may be done in another order. -/
theorem base_eq (s : List Char) : base s = lowercase (trim (front s)) := by
  by_cases h : '(' ∈ s
  · obtain ⟨a, m, b, rfl, ha, hm, hb⟩ := exists_between s
    have visible : isBlank '(' = false := by decide
    have inside : '(' ∈ m := by
      simpa [ha.notMem visible, hb.notMem visible] using h
    obtain ⟨u, v, rfl, hu⟩ := List.eq_append_cons_of_mem inside
    have divided : lowercase (u ++ '(' :: v) = lowercase u ++ '(' :: lowercase v :=
      (divides_of_divider (by decide)).lowerFrom_append [] u v
    have start : EndsRun isBlank u := by
      cases u with
      | nil => exact trimmed_nil.start
      | cons c u => exact endsRun_cons.2 (endsRun_cons.1 hm.start)
    have lower := front_append (notMem_lowercase hu) (lowercase v)
    have unpadded : trimStart (lowercase u) = lowercase u :=
      dropWhile_run (w := []) (by simp) (endsRun_lowercase start)
    rw [front_pad (ha.notMem visible) hu, trim_blank_append ha, ← trim_lowercase, trim, unpadded,
      base, trim_between ha hm hb, divided]
    exact (if_pos (by simp)).trans (congrArg trimEnd lower)
  · have outside : '(' ∉ lowercase (trim s) :=
      notMem_lowercase fun mem => h ((trim_isInfix s).subset mem)
    rw [front_of_notMem h, base]
    exact if_neg (by simpa using outside)

/-- A type name in its canonical form, before it is translated. -/
structure IsBase (s : List Char) : Prop where
  lower : ∀ c ∈ s, IsLower c
  trimmed : Trimmed s
  unsized : '(' ∉ s

theorem isBase_base (s : List Char) : IsBase (base s) := by
  rw [base_eq]
  exact ⟨fun c hc => isLower_of_mem_lowercase hc, (trimmed_trim _).lowercase,
    notMem_lowercase fun mem => notMem_front s ((trim_isInfix _).subset mem)⟩

theorem IsBase.base (h : IsBase s) : DeclaredType.base s = s := by
  rw [base_eq, front_of_notMem h.unsized, trim_of_trimmed h.trimmed, lowercase_of_isLower h.lower]

theorem base_sized (s t : List Char) : base (s ++ '(' :: t) = base s := by
  have cut : front (s ++ '(' :: t) = front s := by
    by_cases h : '(' ∈ s
    · obtain ⟨u, v, rfl, hu⟩ := List.eq_append_cons_of_mem h
      rw [List.append_assoc, List.cons_append, front_append hu, front_append hu]
    · rw [front_append h, front_of_notMem h]
  rw [base_eq, base_eq, cut]

theorem base_pad {a b : List Char} (ha : AllBlank a) (hb : AllBlank b) (s : List Char) :
    base (a ++ s ++ b) = base s := by
  have ha' : '(' ∉ a := ha.notMem (by decide)
  have hb' : '(' ∉ b := hb.notMem (by decide)
  rw [base_eq, base_eq]
  congr 1
  by_cases h : '(' ∈ s
  · obtain ⟨u, v, rfl, hu⟩ := List.eq_append_cons_of_mem h
    rw [front_pad ha' hu, front_append hu]
    exact trim_blank_append ha u
  · rw [front_of_notMem h, front_of_notMem (by simp [ha', h, hb'])]
    exact trim_pad ha hb s

theorem front_map_toLower (s : List Char) :
    front (s.map Char.toLower) = (front s).map Char.toLower := by
  have same : (fun c : Char => c != '(') ∘ Char.toLower = fun c => c != '(' := by
    funext c
    rcases toLower_cases c with same | ⟨k, hk, capital, small⟩
    · rw [Function.comp, same]
    · have other {d : Char} (h : 0x41 ≤ d.toNat) : (d != '(') = true := by
        rw [bne_iff_ne]
        rintro rfl
        exact absurd h (by decide)
      rw [Function.comp, other (by omega), other (by omega)]
  rw [front, front, List.takeWhile_map, same]

theorem base_congr (h : SameLetters s t) : base s = base t := by
  have fold (s : List Char) : base (s.map Char.toLower) = base s := by
    rw [base_eq, base_eq, front_map_toLower, trim_map_toLower, lowercase_map_toLower]
  rw [← fold s, h, fold]

end Base

/-- The types that SQLite spells differently. -/
def spellings : List String :=
  ["integer", "boolean", "bool", "blob", "double", "double precision", "clob"]

/-- What SQLite's spellings are translated into is canonical and is no such spelling. -/
theorem translation_canonical {name made : String} (h : (name, made) ∈ aliases) :
    normalize made = made ∧ trim made.toList = made.toList ∧ '(' ∉ made.toList ∧
      made ∉ spellings := by
  have all : ∀ p ∈ aliases, normalize p.2 = p.2 ∧ trim p.2.toList = p.2.toList ∧
      '(' ∉ p.2.toList ∧ p.2 ∉ spellings := by decide +kernel
  exact all (name, made) h

/-- A type is called so in relational terms: by the translation of SQLite's spelling, or as it is.
-/
def Translates (name made : String) : Prop :=
  (name, made) ∈ aliases ∨ name ∉ spellings ∧ made = name

/-- A declaration means what its canonical form is translated into. -/
theorem translates_normalize (text : String) :
    Translates (String.ofList (base text.toList)) (normalize text) := by
  cases h : aliases.lookup (String.ofList (base text.toList)) with
  | some name =>
    obtain ⟨before, after, split, -⟩ := List.lookup_eq_some_iff.1 h
    have made : normalize text = name := by rw [normalize, h, Option.getD_some]
    left
    rw [made, split]
    exact List.mem_append_right _ List.mem_cons_self
  | none =>
    have made : normalize text = String.ofList (base text.toList) := by
      rw [normalize, h, Option.getD_none]
    refine .inr ⟨fun mem => ?_, made⟩
    obtain ⟨p, hp, key⟩ : ∃ p ∈ aliases, p.1 = String.ofList (base text.toList) :=
      List.mem_map.1 mem
    have apart := List.lookup_eq_none_iff.1 h p hp
    simp [key] at apart

theorem normalize_congr {s t : String} (h : base s.toList = base t.toList) :
    normalize s = normalize t := by
  unfold normalize
  rw [h]

/-- Declared types are canonical. What is made of one is the translation of what stands in front of
its size, trimmed and in lower case; so a name that was made is made into itself, and neither a size
nor white space around nor the case of letters matters to what is made. It has no size and no white
space around, and it is none of SQLite's own spellings. -/
theorem normalize_canonical (text : String) :
    Translates (String.ofList (lowercase (trim (front text.toList)))) (normalize text) ∧
      normalize (normalize text) = normalize text ∧
      (∀ size, normalize (text ++ "(" ++ size) = normalize text) ∧
      (∀ a b, AllBlank a → AllBlank b →
        normalize (String.ofList (a ++ text.toList ++ b)) = normalize text) ∧
      (∀ other : String, SameLetters other.toList text.toList → normalize other = normalize text) ∧
      '(' ∉ (normalize text).toList ∧ Trimmed (normalize text).toList ∧
      normalize text ∉ spellings := by
  have means := translates_normalize text
  have sized (size : String) : normalize (text ++ "(" ++ size) = normalize text := by
    refine normalize_congr ?_
    have regroup : (text ++ "(" ++ size).toList = text.toList ++ '(' :: size.toList := by simp
    rw [regroup, base_sized]
  have padded (a b : List Char) (ha : AllBlank a) (hb : AllBlank b) :
      normalize (String.ofList (a ++ text.toList ++ b)) = normalize text := by
    refine normalize_congr ?_
    rw [String.toList_ofList, base_pad ha hb]
  refine ⟨base_eq _ ▸ means, ?_, sized, padded, fun other h => normalize_congr (base_congr h), ?_⟩
  · rcases means with known | ⟨-, made⟩
    · exact (translation_canonical known).1
    · refine normalize_congr ?_
      rw [made, String.toList_ofList]
      exact (isBase_base _).base
  · rcases means with known | ⟨other, made⟩
    · obtain ⟨-, trimmed, unsized, own⟩ := translation_canonical known
      exact ⟨unsized, trimmed ▸ trimmed_trim _, own⟩
    · have canonical := isBase_base text.toList
      rw [made, String.toList_ofList]
      exact ⟨canonical.unsized, canonical.trimmed, other⟩

/-- A spelling that is translated, and a name with an accent that is only put in lower case. -/
theorem normalize_canonical_twoTypes :
    (normalize "Double Precision" = "float" ∧
      normalize ("Double Precision" ++ "(" ++ "10, 2)") = "float" ∧
      normalize (String.ofList (['\t'] ++ "Double Precision".toList ++ [' '])) = "float" ∧
      normalize "dOUBLE PRECISION" = "float" ∧ normalize "float" = "float") ∧
    normalize "DÉCIMAL" = "décimal" ∧ normalize ("DÉCIMAL" ++ "(" ++ "10, 2)") = "décimal" ∧
      normalize (String.ofList (['\t'] ++ "DÉCIMAL".toList ++ [' '])) = "décimal" ∧
      normalize "dÉcimal" = "décimal" ∧ normalize "décimal" = "décimal" := by
  have blank {c : Char} (h : isBlank c = true) : AllBlank [c] := by
    intro d hd
    rwa [List.mem_singleton.1 hd]
  have written {text made other : String} (h : normalize text = made)
      (letters : SameLetters other.toList text.toList) : normalize text = made ∧
      normalize (text ++ "(" ++ "10, 2)") = made ∧
      normalize (String.ofList (['\t'] ++ text.toList ++ [' '])) = made ∧
      normalize other = made ∧ normalize made = made := by
    obtain ⟨-, again, sized, padded, folded, -⟩ := normalize_canonical text
    rw [h] at again sized padded folded
    exact ⟨h, sized "10, 2)", padded ['\t'] [' '] (blank (by decide)) (blank (by decide)),
      folded other letters, again⟩
  constructor
  · exact written (by decide +kernel) (by rw [SameLetters]; decide)
  · exact written (by decide +kernel) (by rw [SameLetters]; decide)

end EntityDesign.Sqlite.DeclaredType
