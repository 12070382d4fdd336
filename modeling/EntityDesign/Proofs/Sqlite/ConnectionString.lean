import EntityDesign.Proofs.Lists
import EntityDesign.Proofs.Text.Trim
import EntityDesign.Sqlite.ConnectionString

/-! Connection strings as they are written. The path is the value of the first pair whose key names
it, whatever white space stands around keys and values; a text that makes no pair is a path itself.
-/
namespace EntityDesign.Sqlite.ConnectionString
open Text

/-- A key of the path, in whatever case and between white space. -/
def NamesPath (key : List Char) : Prop :=
  SameLetters (trim key) "data source".toList ∨ SameLetters (trim key) "datasource".toList

theorem isPathKey_iff (key : List Char) : isPathKey key = true ↔ NamesPath key := by
  have spelled (name : String) (lower : name.toList.map Char.toLower = name.toList) :
      String.ofList ((trim key).map Char.toLower) = name ↔ SameLetters (trim key) name.toList := by
    rw [SameLetters, lower, ← String.toList_inj, String.toList_ofList]
  rw [isPathKey, Bool.or_eq_true, beq_iff_eq, beq_iff_eq, spelled _ (by decide),
    spelled _ (by decide), NamesPath]

theorem isPathKey_trim (key : List Char) : isPathKey (trim key) = isPathKey key := by
  rw [isPathKey, isPathKey, trim_of_trimmed (trimmed_trim key)]

section Pair
variable {key a b s : List Char}

theorem pair?_append (hk : '=' ∉ key) (value : List Char) :
    pair? (key ++ '=' :: value) = some (key, value) := by
  have run : ∀ c ∈ key, (c != '=') = true := by
    intro c hc
    simpa using ne_of_mem_of_not_mem hc hk
  have ends : EndsRun (· != '=') ('=' :: value) := endsRun_cons.2 (by simp)
  simp only [pair?, takeWhile_run run ends, dropWhile_run run ends]

theorem pair?_eq_none (hs : '=' ∉ s) : pair? s = none := by
  have gone : s.dropWhile (· != '=') = [] := by
    rw [List.dropWhile_eq_nil_iff]
    intro c hc
    simpa using ne_of_mem_of_not_mem hc hs
  simp only [pair?, gone]

/-- A pair without the white space around its key and its value. -/
def stripped (p : List Char × List Char) : List Char × List Char := (trim p.1, trim p.2)

/-- The pair that a piece makes, if it holds an equals sign. -/
def setting? (piece : List Char) : Option (List Char × List Char) := (pair? piece).map stripped

theorem setting?_pad (ha : AllBlank a) (hb : AllBlank b) (piece : List Char) :
    setting? (a ++ piece ++ b) = setting? piece := by
  have ha' : '=' ∉ a := ha.notMem (by decide)
  have hb' : '=' ∉ b := hb.notMem (by decide)
  by_cases h : '=' ∈ piece
  · obtain ⟨key, value, rfl, hk⟩ := List.eq_append_cons_of_mem h
    have hk' : '=' ∉ a ++ key := by simp [ha', hk]
    rw [setting?, setting?, pair?_append hk, ← List.append_assoc, List.append_assoc,
      List.cons_append, pair?_append hk', Option.map_some, Option.map_some, stripped, stripped,
      trim_blank_append ha, trim_append_blank hb]
  · have h' : '=' ∉ a ++ piece ++ b := by simp [ha', h, hb']
    rw [setting?, setting?, pair?_eq_none h, pair?_eq_none h']

/-- The pairs that a text makes, trimmed. -/
def settings (s : List Char) : List (List Char × List Char) := (s.splitOn ';').filterMap setting?

theorem settings_pad (ha : AllBlank a) (hb : AllBlank b) (s : List Char) :
    settings (a ++ s ++ b) = settings s := by
  have ha' : ';' ∉ a := ha.notMem (by decide)
  have hb' : ';' ∉ b := hb.notMem (by decide)
  obtain ⟨front, last, before, after⟩ := exists_splitOn_append_right hb' s
  have atEnd : settings (s ++ b) = settings s := by
    have pad := setting?_pad allBlank_nil hb last
    rw [List.nil_append] at pad
    rw [settings, settings, before, after, List.filterMap_append, List.filterMap_append,
      List.filterMap_cons, List.filterMap_cons, pad]
  have atStart : settings (a ++ (s ++ b)) = settings (s ++ b) := by
    rw [settings, settings, splitOn_append_left ha']
    rcases h : (s ++ b).splitOn ';' with - | ⟨piece, rest⟩
    · exact absurd h (List.splitOn_ne_nil _ _)
    · have pad := setting?_pad ha allBlank_nil piece
      rw [List.append_nil] at pad
      rw [List.modifyHead_cons, List.filterMap_cons, List.filterMap_cons, pad]
  rw [List.append_assoc, atStart, atEnd]

end Pair

/-- The first of the pairs whose key names the path has this value, which is not blank. -/
def FirstPath (pairs : List (List Char × List Char)) (path : String) : Prop :=
  ∃ before pair after, pairs = before ++ pair :: after ∧ (∀ p ∈ before, ¬NamesPath p.1) ∧
    NamesPath pair.1 ∧ path.toList = trim pair.2 ∧ path ≠ ""

theorem firstPath_iff_find? {pairs : List (List Char × List Char)} {path : String} :
    FirstPath pairs path ↔ ∃ p, pairs.find? (fun p => isPathKey p.1) = some p ∧
      path.toList = trim p.2 ∧ path ≠ "" := by
  simp only [List.find?_eq_some_iff_append, Bool.not_eq_true', ← Bool.not_eq_true, isPathKey_iff]
  constructor
  · rintro ⟨before, p, after, rfl, others, key, value, visible⟩
    exact ⟨p, ⟨key, before, after, rfl, others⟩, value, visible⟩
  · rintro ⟨p, ⟨key, before, after, rfl, others⟩, value, visible⟩
    exact ⟨before, p, after, rfl, others, key, value, visible⟩

theorem firstPath_map_stripped {pairs : List (List Char × List Char)} {path : String} :
    FirstPath (pairs.map stripped) path ↔ FirstPath pairs path := by
  have key : (fun p => isPathKey p.1) ∘ stripped = fun p => isPathKey p.1 := by
    funext p
    exact isPathKey_trim p.1
  rw [firstPath_iff_find?, firstPath_iff_find?, List.find?_map, key]
  constructor
  · rintro ⟨p, found, value, visible⟩
    obtain ⟨q, hq, rfl⟩ := Option.map_eq_some_iff.1 found
    exact ⟨q, hq, value.trans (trim_of_trimmed (trimmed_trim q.2)), visible⟩
  · rintro ⟨q, hq, value, visible⟩
    refine ⟨stripped q, by rw [hq, Option.map_some], ?_, visible⟩
    exact value.trans (trim_of_trimmed (trimmed_trim q.2)).symm

section Path
variable {text path : String}

theorem path?_of_bare (bare : '=' ∉ text.toList) :
    path? text = some path ↔ path.toList = trim text.toList ∧ path ≠ "" := by
  have bare' : '=' ∉ trim text.toList := fun h => bare ((trim_isInfix text.toList).subset h)
  by_cases blank : trim text.toList = []
  · have nothing : path? text = none := by simp [path?, blank]
    simp [nothing, blank]
  · have whole : path? text = some (String.ofList (trim text.toList)) := by
      simp [path?, blank, bare']
    rw [whole, Option.some.injEq, ← String.toList_inj, String.toList_ofList]
    constructor
    · intro h
      refine ⟨h.symm, ?_⟩
      rintro rfl
      exact blank h
    · exact fun h => h.1.symm

theorem path?_of_pairs (pairs : '=' ∈ text.toList) :
    path? text = some path ↔ FirstPath (settings text.toList) path := by
  obtain ⟨-, a, b, padded, ha, hb⟩ := trim_eq_iff.1 (rfl : trim text.toList = trim text.toList)
  have kept : '=' ∈ trim text.toList := by
    rw [padded] at pairs
    simpa [ha.notMem (by decide : isBlank '=' = false),
      hb.notMem (by decide : isBlank '=' = false)] using pairs
  have made : settings text.toList =
      (((trim text.toList).splitOn ';').filterMap pair?).map stripped := by
    rw [List.map_filterMap]
    conv => lhs; rw [padded]
    exact settings_pad ha hb _
  have visible : trim text.toList ≠ [] := List.ne_nil_of_mem kept
  rw [made, firstPath_map_stripped, firstPath_iff_find?]
  cases found : (((trim text.toList).splitOn ';').filterMap pair?).find? fun p => isPathKey p.1 with
  | none => simp [path?, visible, kept, found]
  | some p =>
    by_cases blank : trim p.2 = []
    · have nothing : path? text = none := by simp [path?, visible, kept, found, blank]
      simp [nothing, blank]
    · have value : path? text = some (String.ofList (trim p.2)) := by
        simp [path?, visible, kept, found, blank]
      rw [value, Option.some.injEq, ← String.toList_inj, String.toList_ofList]
      constructor
      · intro h
        refine ⟨p, rfl, h.symm, ?_⟩
        rintro rfl
        exact blank h
      · rintro ⟨q, hq, h, -⟩
        cases hq
        exact h.symm

/-- A path is a visible part of the text. -/
theorem infix_of_path? (h : path? text = some path) :
    path ≠ "" ∧ Trimmed path.toList ∧ path.toList <:+: text.toList := by
  by_cases pairs : '=' ∈ text.toList
  · obtain ⟨before, p, after, made, -, -, value, visible⟩ := (path?_of_pairs pairs).1 h
    have mem : p ∈ settings text.toList := by simp [made]
    obtain ⟨piece, hpiece, hp⟩ := List.mem_filterMap.1 mem
    obtain ⟨⟨key, v⟩, hpair, rfl⟩ := Option.map_eq_some_iff.1 hp
    have equals : '=' ∈ piece := by
      by_contra none_left
      rw [pair?_eq_none none_left] at hpair
      cases hpair
    obtain ⟨key', v', rfl, hk⟩ := List.eq_append_cons_of_mem equals
    rw [pair?_append hk] at hpair
    cases hpair
    rw [value, stripped, trim_of_trimmed (trimmed_trim _)]
    have behind : v <:+: key ++ '=' :: v := ⟨key ++ ['='], [], by simp⟩
    exact ⟨visible, trimmed_trim _, (trim_isInfix v).trans
      (behind.trans (infix_of_mem_splitOn hpiece))⟩
  · obtain ⟨value, visible⟩ := (path?_of_bare pairs).1 h
    rw [value]
    exact ⟨visible, trimmed_trim _, trim_isInfix _⟩

end Path

/-- The piece is the pair as it may be written: white space stands around the key and the value, the
key holds no equals sign, and nothing holds a semicolon. -/
structure Spells (pair : List Char × List Char) (piece : List Char) : Prop where
  key : '=' ∉ pair.1
  divided : ';' ∉ pair.1 ∧ ';' ∉ pair.2
  piece : ∃ a b c d, AllBlank a ∧ AllBlank b ∧ AllBlank c ∧ AllBlank d ∧
    piece = (a ++ pair.1 ++ b) ++ '=' :: (c ++ pair.2 ++ d)

section Spelling
variable {pair : List Char × List Char} {piece : List Char}

theorem Spells.setting? (h : Spells pair piece) :
    ConnectionString.setting? piece = some (stripped pair) := by
  obtain ⟨a, b, c, d, ha, hb, hc, hd, rfl⟩ := h.piece
  have key : '=' ∉ a ++ pair.1 ++ b := by
    simp [ha.notMem (by decide : isBlank '=' = false),
      hb.notMem (by decide : isBlank '=' = false), h.key]
  rw [ConnectionString.setting?, pair?_append key, Option.map_some, stripped, trim_pad ha hb,
    trim_pad hc hd]
  rfl

theorem Spells.equals (h : Spells pair piece) : '=' ∈ piece := by
  obtain ⟨a, b, c, d, -, -, -, -, rfl⟩ := h.piece
  simp

theorem Spells.notMem (h : Spells pair piece) : ';' ∉ piece := by
  obtain ⟨a, b, c, d, ha, hb, hc, hd, rfl⟩ := h.piece
  have visible : isBlank ';' = false := by decide
  simp [ha.notMem visible, hb.notMem visible, hc.notMem visible, hd.notMem visible,
    h.divided.1, h.divided.2]

theorem filterMap_setting? {pairs : List (List Char × List Char)} {pieces : List (List Char)}
    (h : List.Forall₂ Spells pairs pieces) :
    pieces.filterMap ConnectionString.setting? = pairs.map stripped := by
  induction h with
  | nil => rfl
  | cons head _ ih => rw [List.filterMap_cons, head.setting?, ih, List.map_cons]

end Spelling

/-- From pairs written beside each other the value of the first one that names the path is read, if
it is not blank; a text without an equals sign is a path itself, if it is not blank; and whatever
is read is a visible part of the text. -/
theorem path?_exact (text : String) :
    (∀ pairs pieces, pairs ≠ [] → List.Forall₂ Spells pairs pieces →
      (text.toList = [';'].intercalate pieces ∨
        ∃ b, AllBlank b ∧ text.toList = [';'].intercalate pieces ++ ';' :: b) →
      ∀ path, path? text = some path ↔ FirstPath pairs path) ∧
    ('=' ∉ text.toList →
      ∀ path, path? text = some path ↔ path.toList = trim text.toList ∧ path ≠ "") ∧
    ∀ path, path? text = some path →
      path ≠ "" ∧ Trimmed path.toList ∧ path.toList <:+: text.toList := by
  refine ⟨?_, fun bare path => path?_of_bare bare, fun path => infix_of_path?⟩
  intro pairs pieces nonempty spelled written path
  have apart : ∀ p ∈ pieces, ';' ∉ p := by
    intro p hp
    obtain ⟨pair, -, h⟩ := exists_beside_right spelled hp
    exact h.notMem
  have written_one : pieces ≠ [] := by
    rintro rfl
    exact nonempty (List.forall₂_nil_right_iff.1 spelled)
  obtain ⟨piece, rest, rfl⟩ := List.exists_cons_of_ne_nil written_one
  have divided := List.splitOn_intercalate ';' apart (List.cons_ne_nil piece rest)
  have made : settings text.toList = pairs.map stripped := by
    rw [settings]
    rcases written with plain | ⟨b, hb, closed⟩
    · rw [plain, divided, filterMap_setting? spelled]
    · have left : setting? b = none := by
        rw [setting?, pair?_eq_none (hb.notMem (by decide)), Option.map_none]
      rw [closed, List.splitOn_append_cons_self, divided,
        List.splitOn_eq_singleton (hb.notMem (by decide)),
        List.filterMap_append, filterMap_setting? spelled, List.filterMap_cons, left]
      simp
  have equals : '=' ∈ text.toList := by
    obtain ⟨pair, -, h⟩ := exists_beside_right spelled List.mem_cons_self
    have inside : '=' ∈ [';'].intercalate (piece :: rest) :=
      (infix_intercalate List.mem_cons_self).subset h.equals
    rcases written with plain | ⟨b, -, closed⟩
    · rwa [plain]
    · rw [closed]
      exact List.mem_append_left _ inside
  rw [path?_of_pairs equals, made, firstPath_map_stripped]

/-- A path with an equals sign in it, behind another setting and in front of another path. -/
def sampleText : String := " Mode=ReadOnly; DATA Source = dir/a=b.db ;DataSource=c.db;"

def samplePairs : List (List Char × List Char) :=
  [("Mode".toList, "ReadOnly".toList), ("DATA Source".toList, "dir/a=b.db".toList),
    ("DataSource".toList, "c.db".toList)]

theorem path?_sampleText :
    path? sampleText = some "dir/a=b.db" ∧ FirstPath samplePairs "dir/a=b.db" := by
  have spelled : List.Forall₂ Spells samplePairs
      [" Mode=ReadOnly".toList, " DATA Source = dir/a=b.db ".toList, "DataSource=c.db".toList] := by
    refine .cons ⟨by decide, by decide, [' '], [], [], [], ?_⟩ (.cons ⟨by decide, by decide,
      [' '], [' '], [' '], [' '], ?_⟩ (.cons ⟨by decide, by decide, [], [], [], [], ?_⟩ .nil))
    all_goals simp [AllBlank, show isBlank ' ' = true by decide]
  have read : path? sampleText = some "dir/a=b.db" := by decide +kernel
  have closed : sampleText.toList = [';'].intercalate [" Mode=ReadOnly".toList,
      " DATA Source = dir/a=b.db ".toList, "DataSource=c.db".toList] ++ ';' :: [] := by
    decide +kernel
  have exact_read := (path?_exact sampleText).1 samplePairs _ (by decide) spelled
    (.inr ⟨[], allBlank_nil, closed⟩) "dir/a=b.db"
  exact ⟨read, exact_read.1 read⟩

end EntityDesign.Sqlite.ConnectionString
