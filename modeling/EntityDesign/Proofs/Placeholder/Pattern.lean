import EntityDesign.Proofs.Placeholder.Formation

/-! The pattern of placeholders, `= ?(@\w*)(?:\s*/\*\s*dsl:(\w*\??))?`. A search with a pattern
tries every position from left to right, takes as much as it can, gives back what it cannot use, and
goes on behind what it has taken. The scanner, which gives nothing back, finds what this search
finds. -/
namespace EntityDesign
open Text

/-- A pattern of characters. -/
inductive Pattern where
  | literal (word : List Char)
  | many (p : Char → Bool)
  | optional (r : Pattern)
  | seq (r t : Pattern)
  | group (r : Pattern)

namespace Pattern

/-- A way to match the front of a text. -/
structure Way where
  text : List Char
  /-- What the groups have matched; `none` for a group that took no part. -/
  captures : List (Option (List Char))
  rest : List Char

/-- What a search takes from a match. -/
def Way.outcome (m : Way) : List (Option (List Char)) × List Char := (m.captures, m.rest)

def Way.append (m n : Way) : Way := ⟨m.text ++ n.text, m.captures ++ n.captures, n.rest⟩

/-- The way that has matched one more character before. -/
def Way.behind (c : Char) (m : Way) : Way := { m with text := c :: m.text }

/-- The number of groups. -/
def groups : Pattern → Nat
  | literal _ => 0
  | many _ => 0
  | optional r => r.groups
  | seq r t => r.groups + t.groups
  | group r => r.groups + 1

/-- The runs of a class of characters at the front of a text, the longest one first. -/
def runs (p : Char → Bool) : List Char → List Way
  | [] => [⟨[], [], []⟩]
  | c :: cs =>
    (if p c then (runs p cs).map (Way.behind c) else []) ++ [⟨[], [], c :: cs⟩]

/-- All ways to match the front of a text, in the order in which they are tried. -/
def ways : Pattern → List Char → List Way
  | literal word, s => if word.isPrefixOf s then [⟨word, [], s.drop word.length⟩] else []
  | many p, s => runs p s
  | optional r, s => r.ways s ++ [⟨[], List.replicate r.groups none, s⟩]
  | seq r t, s => (r.ways s).flatMap fun m => (t.ways m.rest).map m.append
  | group r, s => (r.ways s).map fun m => { m with captures := some m.text :: m.captures }

/-- The way that is tried first. -/
def first (r : Pattern) (s : List Char) : Option Way := (r.ways s).head?

/-- What a search finds in a text. -/
inductive Finds (r : Pattern) : List Char → List (List (Option (List Char))) → Prop
  | atEnd (none : r.first [] = none) : Finds r [] []
  | miss {c cs found} (none : r.first (c :: cs) = none) (further : Finds r cs found) :
    Finds r (c :: cs) found
  | hit {s m found} (some : r.first s = some m) (progress : m.text ≠ [])
    (further : Finds r m.rest found) : Finds r s (m.captures :: found)

section First
variable {r t : Pattern} {s : List Char}

/-- A search finds one thing only. -/
theorem Finds.unique {found found' : List (List (Option (List Char)))} (h : r.Finds s found)
    (h' : r.Finds s found') : found = found' := by
  induction h generalizing found' with
  | atEnd none =>
    cases h' with
    | atEnd => rfl
    | hit some => exact nomatch none.symm.trans some
  | miss none _ ih =>
    cases h' with
    | miss _ further => exact ih further
    | hit some => exact nomatch none.symm.trans some
  | hit some _ _ ih =>
    cases h' with
    | atEnd none => exact nomatch none.symm.trans some
    | miss none => exact nomatch none.symm.trans some
    | hit some' _ further =>
      obtain rfl := Option.some.inj (some.symm.trans some')
      rw [ih further]

theorem first_literal (word : List Char) : (literal word).first s =
    if word.isPrefixOf s then some ⟨word, [], s.drop word.length⟩ else none := by
  simp only [first, ways]
  split <;> rfl

theorem first_many (p : Char → Bool) :
    (many p).first s = some ⟨s.takeWhile p, [], s.dropWhile p⟩ := by
  simp only [first, ways]
  induction s with
  | nil => rfl
  | cons c cs ih => by_cases hc : p c <;> simp [runs, hc, ih, Way.behind]

theorem first_optional : (optional r).first s =
    some ((r.first s).getD ⟨[], List.replicate r.groups none, s⟩) := by
  simp only [first, ways, List.head?_append]
  cases (r.ways s).head? <;> rfl

theorem first_group : (group r).first s =
    (r.first s).map fun m => { m with captures := some m.text :: m.captures } := by
  simp only [first, ways, List.head?_map]

theorem first_seq : (seq r t).first s =
    (r.ways s).findSome? fun m => (t.first m.rest).map m.append := by
  simp only [first, ways, List.head?_flatMap, List.head?_map]

/-- The first way of a pattern counts if there is one to go on behind it. -/
theorem first_seq_of_some {m n : Way} (hm : r.first s = some m) (hn : t.first m.rest = some n) :
    (seq r t).first s = some (m.append n) := by
  obtain ⟨ms, hms⟩ := List.head?_eq_some_iff.1 hm
  rw [first_seq, hms, List.findSome?_cons, hn]
  rfl

theorem first_seq_of_none (h : r.first s = none) : (seq r t).first s = none := by
  rw [first_seq, List.head?_eq_none_iff.1 h]
  rfl

theorem first_seq_literal (word : List Char) : (seq (literal word) t).first s =
    if word.isPrefixOf s then
      (t.first (s.drop word.length)).map (Way.append ⟨word, [], s.drop word.length⟩)
    else none := by
  rw [first_seq]
  simp only [ways]
  split <;> simp

/-- Nothing of a run is given back if what follows it cannot begin with a character of the run. -/
theorem first_seq_many {p : Char → Bool}
    (apart : ∀ c cs, p c = true → t.first (c :: cs) = none) (s : List Char) :
    (seq (many p) t).first s =
      (t.first (s.dropWhile p)).map (Way.append ⟨s.takeWhile p, [], s.dropWhile p⟩) := by
  rw [first_seq]
  simp only [ways]
  induction s with
  | nil => simp [runs]
  | cons c cs ih =>
    by_cases hc : p c = true
    · -- giving back all from `c` on is tried last, and in vain
      have given : t.first (c :: cs) = none := apart c cs hc
      have longer (m : Way) : (t.first (m.behind c).rest).map (m.behind c).append =
          ((t.first m.rest).map m.append).map (Way.behind c) := by
        rw [Option.map_map]
        rfl
      rw [runs, if_pos hc, List.findSome?_append, List.findSome?_map]
      simp only [Function.comp_def, longer]
      rw [← Function.comp_def (Option.map (Way.behind c)), ← List.map_findSome?, ih,
        List.takeWhile_cons_of_pos hc, List.dropWhile_cons_of_pos hc, List.findSome?_singleton,
        given, Option.map_none, Option.or_none, Option.map_map]
      rfl
    · simp [runs, hc]

theorem first_seq_optional : (seq (optional r) t).first s =
    ((seq r t).first s).or
      ((t.first s).map (Way.append ⟨[], List.replicate r.groups none, s⟩)) := by
  simp only [first_seq, ways, List.findSome?_append]
  simp

end First

/-- A hint: `(?:\s*/\*\s*dsl:(\w*\??))`. -/
def hint : Pattern :=
  .seq (.many isBlank) <| .seq (.literal ['/', '*']) <| .seq (.many isBlank) <|
    .seq (.literal ['d', 's', 'l', ':']) <|
      .group (.seq (.many isWord) (.optional (.literal ['?'])))

/-- A token: `(@\w*)`. -/
def token : Pattern := .group (.seq (.literal ['@']) (.many isWord))

/-- A token, with a hint if there is one. -/
def hinted : Pattern := .seq token (.optional hint)

/-- A token behind an equals sign. -/
def placeholder : Pattern :=
  .seq (.literal ['=']) <| .seq (.optional (.literal [' '])) hinted

section Scanner
open Placeholder

theorem not_isPrefixOf {c : Char} {s : List Char} (h : ∀ t, s ≠ c :: t) :
    ¬[c].isPrefixOf s = true := by
  rw [List.isPrefixOf_iff_prefix]
  rintro ⟨t, rfl⟩
  exact h t rfl

theorem outcome_seq_literal (word : List Char) (t : Pattern) (s : List Char) :
    ((seq (literal word) t).first s).map Way.outcome =
      (after? word s).bind fun rest => (t.first rest).map Way.outcome := by
  rw [first_seq_literal, after?]
  split
  · rw [Option.map_map]
    rfl
  · rfl

theorem outcome_seq_many {p : Char → Bool} {t : Pattern}
    (apart : ∀ c cs, p c = true → t.first (c :: cs) = none) (s : List Char) :
    ((seq (many p) t).first s).map Way.outcome = (t.first (s.dropWhile p)).map Way.outcome := by
  rw [first_seq_many apart, Option.map_map]
  rfl

/-- A literal behind a run takes nothing from it if its first character is none of the run. -/
theorem first_literal_apart {p : Char → Bool} {d : Char} (hd : p d = false) (word : List Char)
    (t : Pattern) (c : Char) (cs : List Char) (hc : p c = true) :
    (seq (literal (d :: word)) t).first (c :: cs) = none := by
  have hne : d ≠ c := by
    rintro rfl
    simp [hd] at hc
  simp [first_seq_literal, List.isPrefixOf, hne]

theorem outcome_typeName (s : List Char) :
    ((group (.seq (.many isWord) (.optional (.literal ['?'])))).first s).map Way.outcome =
      some ([some (typeName s).1], (typeName s).2) := by
  have names : Names s (typeName s).1 (typeName s).2 := names_iff.2 rfl
  generalize (typeName s).1 = hint, (typeName s).2 = rest at names ⊢
  rw [first_group, first_seq_of_some (first_many isWord) first_optional, first_literal]
  cases names with
  | plain name unmarked =>
    have literal : ¬['?'].isPrefixOf rest = true := by
      apply not_isPrefixOf
      rintro t rfl
      exact unmarked rfl
    obtain ⟨rfl, rfl⟩ := longestRun_iff.1 name
    simp [literal, groups, Way.outcome, Way.append]
  | marked name =>
    rw [(longestRun_iff.1 name).1, (longestRun_iff.1 name).2]
    rfl

theorem outcome_hint (s : List Char) :
    (hint.first s).map Way.outcome = (hint? s).map fun p => ([some p.1], p.2) := by
  have slash : isBlank '/' = false := by decide
  have letter : isBlank 'd' = false := by decide
  rw [hint, outcome_seq_many (first_literal_apart slash _ _), outcome_seq_literal]
  simp only [outcome_seq_many (first_literal_apart letter _ _), outcome_seq_literal,
    outcome_typeName]
  simp only [hint?_eq, Option.map_eq_bind, Option.bind_assoc]
  rfl

/-- What the groups match at a token with `rest` behind it, and where the search goes on. -/
def captured (token rest : List Char) : List (Option (List Char)) × List Char :=
  match hint? rest with
  | none => ([some token, none], rest)
  | some (hint, rest) => ([some token, some hint], rest)

theorem first_token (s : List Char) : token.first ('@' :: s) =
    some ⟨'@' :: s.takeWhile isWord, [some ('@' :: s.takeWhile isWord)], s.dropWhile isWord⟩ := by
  simp [token, first_group, first_seq_literal, first_many, Way.append]

theorem outcome_hinted (s : List Char) : (hinted.first ('@' :: s)).map Way.outcome =
    some (captured ('@' :: s.takeWhile isWord) (s.dropWhile isWord)) := by
  have h := outcome_hint (s.dropWhile isWord)
  rw [hinted, first_seq_of_some (first_token s) first_optional, captured]
  cases hhint : hint? (s.dropWhile isWord) with
  | none =>
    rw [hhint, Option.map_none, Option.map_eq_none_iff] at h
    rw [h]
    rfl
  | some p =>
    rw [hhint, Option.map_some, Option.map_eq_some_iff] at h
    obtain ⟨m, hm, outcome⟩ := h
    rw [hm]
    simpa [Way.outcome, Way.append] using outcome

theorem first_hinted_of_ne {s : List Char} (h : ∀ t, s ≠ '@' :: t) : hinted.first s = none := by
  have htoken : token.first s = none := by
    rw [token, first_group, first_seq_literal, if_neg (not_isPrefixOf h), Option.map_none]
  rw [hinted, first_seq_of_none htoken]

/-- The text without a space at the front. -/
def dropSpace (s : List Char) : List Char :=
  match s with
  | ' ' :: rest => rest
  | _ => s

theorem outcome_space (s : List Char) :
    ((seq (.optional (.literal [' '])) hinted).first s).map Way.outcome =
      (hinted.first (dropSpace s)).map Way.outcome := by
  rw [first_seq_optional]
  unfold dropSpace
  split
  · rename_i rest
    rw [first_hinted_of_ne (s := ' ' :: rest) (by simp), Option.map_none, Option.or_none,
      outcome_seq_literal]
    rfl
  · rename_i h
    rw [first_seq_literal, if_neg (not_isPrefixOf h), Option.none_or, Option.map_map]
    rfl

theorem token?_of_dropSpace {s rest : List Char} (h : dropSpace s = '@' :: rest) :
    token? s = some ('@' :: rest.takeWhile isWord, rest.dropWhile isWord) := by
  unfold dropSpace at h
  split at h
  all_goals
    subst h
    rfl

theorem token?_eq_none {s : List Char} (h : ∀ t, dropSpace s ≠ '@' :: t) : token? s = none := by
  rw [Option.eq_none_iff_forall_ne_some]
  rintro ⟨token, rest⟩ htoken
  obtain ⟨word, -, forms⟩ := token?_eq_some_iff.1 htoken
  cases forms with
  | close => exact h _ rfl
  | apart => exact h _ rfl

/-- At an equals sign the search takes what the scanner reads. -/
theorem outcome_placeholder (s : List Char) : (placeholder.first ('=' :: s)).map Way.outcome =
    (token? s).map fun p => captured p.1 p.2 := by
  have behind : after? ['='] ('=' :: s) = some s := after?_eq_some_iff.2 rfl
  rw [placeholder, outcome_seq_literal, behind, Option.bind_some, outcome_space]
  by_cases h : ∃ t, dropSpace s = '@' :: t
  · obtain ⟨t, h⟩ := h
    rw [h, outcome_hinted, token?_of_dropSpace h, Option.map_some]
  · rw [not_exists] at h
    rw [first_hinted_of_ne h, token?_eq_none h, Option.map_none, Option.map_none]

theorem first_placeholder_of_ne {s : List Char} (h : ∀ t, s ≠ '=' :: t) :
    placeholder.first s = none := by
  rw [placeholder, first_seq_literal, if_neg (not_isPrefixOf h)]

theorem finds_hit {s rest : List Char} {captures : List (Option (List Char))}
    {found : List (List (Option (List Char)))}
    (h : (placeholder.first s).map Way.outcome = some (captures, rest))
    (further : placeholder.Finds rest found) : placeholder.Finds s (captures :: found) := by
  obtain ⟨m, hm, same⟩ := Option.map_eq_some_iff.1 h
  cases same
  refine .hit hm ?_ further
  rw [placeholder, first_seq_literal] at hm
  split at hm
  · obtain ⟨n, -, rfl⟩ := Option.map_eq_some_iff.1 hm
    simp [Way.append]
  · cases hm

/-- The token and the hint of a match. -/
def read : List (Option (List Char)) → Option (List Char × List Char)
  | some token :: hint :: _ => some (token, hint.getD [])
  | _ => none

/-- The scanner finds what a search with the pattern finds. -/
theorem exists_finds (s : List Char) :
    ∃ found, placeholder.Finds s found ∧ occurrences s = found.filterMap read := by
  -- the scanner goes on where the search does, so the search follows its recursion
  fun_induction occurrences s with
  | case1 => exact ⟨[], .atEnd (first_placeholder_of_ne (by simp)), rfl⟩
  | case2 cs hnone ih =>
    obtain ⟨found, finds, same⟩ := ih
    have miss := outcome_placeholder cs
    rw [hnone, Option.map_none, Option.map_eq_none_iff] at miss
    exact ⟨found, .miss miss finds, same⟩
  | case3 cs token rest htoken hnone ih =>
    obtain ⟨found, finds, same⟩ := ih
    have hit := outcome_placeholder cs
    rw [htoken, Option.map_some, captured, hnone] at hit
    refine ⟨[some token, none] :: found, finds_hit hit finds, ?_⟩
    rw [same]
    rfl
  | case4 cs token rest htoken hint rest' hhint ih =>
    obtain ⟨found, finds, same⟩ := ih
    have hit := outcome_placeholder cs
    rw [htoken, Option.map_some, captured, hhint] at hit
    refine ⟨[some token, some hint] :: found, finds_hit hit finds, ?_⟩
    rw [same]
    rfl
  | case5 c cs hc ih =>
    obtain ⟨found, finds, same⟩ := ih
    have miss : placeholder.first (c :: cs) = none :=
      first_placeholder_of_ne fun t h => hc (List.cons.inj h).1
    exact ⟨found, .miss miss finds, same⟩

end Scanner
end Pattern
end EntityDesign
