import EntityDesign.Placeholder
import EntityDesign.Proofs.Text.Run

/-! What is formed at each equals sign of a text: a token, and a hint behind it. The scanner goes on
behind what it has read, but there is no equals sign in that, so it finds what is formed at every
place of the text. -/
namespace EntityDesign.Placeholder
open Text

/-- The text begins with an equals sign, a space or none, and an `@` with the word `word`, which is
as long as it can be. -/
inductive Forms : List Char → List Char → List Char → Prop
  | close {s word rest : List Char} (name : LongestRun isWord s word rest) :
    Forms ('=' :: '@' :: s) word rest
  | apart {s word rest : List Char} (name : LongestRun isWord s word rest) :
    Forms ('=' :: ' ' :: '@' :: s) word rest

/-- The text begins with the name of a type: a word that is as long as it can be, and a question
mark if there is one. -/
inductive Names : List Char → List Char → List Char → Prop
  | plain {s word rest : List Char} (name : LongestRun isWord s word rest)
    (unmarked : rest.head? ≠ some '?') : Names s word rest
  | marked {s word rest : List Char} (name : LongestRun isWord s word ('?' :: rest)) :
    Names s (word ++ ['?']) rest

/-- The text begins with a comment, and the comment with a hint. -/
inductive Hints : List Char → List Char → List Char → Prop
  | comment {before within s hint rest : List Char} (outside : ∀ c ∈ before, isBlank c = true)
    (inside : ∀ c ∈ within, isBlank c = true) (name : Names s hint rest) :
    Hints (before ++ '/' :: '*' :: (within ++ 'd' :: 's' :: 'l' :: ':' :: s)) hint rest

section Scanner
variable {s word rest : List Char}

theorem after?_eq_some_iff : after? word s = some rest ↔ s = word ++ rest := by
  rw [after?, Option.ite_none_right_eq_some, List.isPrefixOf_iff_prefix]
  constructor
  · rintro ⟨⟨t, rfl⟩, h⟩
    simpa using h
  · rintro rfl
    simp

/-- White space is skipped up to a word that does not begin with any. -/
theorem after?_trimStart_iff {c : Char} (visible : isBlank c = false) :
    after? (c :: word) (trimStart s) = some rest ↔
      ∃ blanks, (∀ c ∈ blanks, isBlank c = true) ∧ s = blanks ++ c :: (word ++ rest) := by
  rw [after?_eq_some_iff, trimStart, List.cons_append]
  constructor
  · intro h
    refine ⟨s.takeWhile isBlank, fun c hc => List.mem_takeWhile_imp hc, ?_⟩
    rw [← h, List.takeWhile_append_dropWhile]
  · rintro ⟨blanks, hblanks, rfl⟩
    exact dropWhile_run hblanks (endsRun_cons.2 visible)

/-- A name of a type and what follows it. -/
def typeName (s : List Char) : List Char × List Char :=
  match s.dropWhile isWord with
  | '?' :: rest => (s.takeWhile isWord ++ ['?'], rest)
  | rest => (s.takeWhile isWord, rest)

theorem names_iff {hint : List Char} : Names s hint rest ↔ typeName s = (hint, rest) := by
  rw [typeName]
  constructor
  · rintro (⟨name, unmarked⟩ | name)
    · obtain ⟨rfl, rfl⟩ := longestRun_iff.1 name
      split
      · rename_i h
        simp [h] at unmarked
      · rfl
    · rw [(longestRun_iff.1 name).1, (longestRun_iff.1 name).2]
      rfl
  · split
    · rename_i behind
      rintro ⟨⟩
      exact .marked (longestRun_iff.2 ⟨rfl, behind⟩)
    · rename_i unmarked
      rintro ⟨⟩
      refine .plain (longestRun_iff.2 ⟨rfl, rfl⟩) fun h => ?_
      obtain ⟨rest, hrest⟩ := List.head?_eq_some_iff.1 h
      exact unmarked rest hrest

theorem hint?_eq (s : List Char) : hint? s = (after? ['/', '*'] (trimStart s)).bind fun s =>
    (after? ['d', 's', 'l', ':'] (trimStart s)).map typeName := by
  simp only [hint?, Option.map_eq_bind]
  congr 1
  funext s
  congr 1
  funext s
  rw [Function.comp_apply, typeName]
  generalize s.takeWhile isWord = word, s.dropWhile isWord = rest
  split
  · rfl
  · simp

theorem hints_iff {hint : List Char} : Hints s hint rest ↔ hint? s = some (hint, rest) := by
  have slash : isBlank '/' = false := by decide
  have letter : isBlank 'd' = false := by decide
  simp only [hint?_eq, Option.bind_eq_some_iff, Option.map_eq_some_iff,
    after?_trimStart_iff slash, after?_trimStart_iff letter, ← names_iff]
  constructor
  · rintro ⟨outside, inside, name⟩
    exact ⟨_, ⟨_, outside, rfl⟩, _, ⟨_, inside, rfl⟩, name⟩
  · rintro ⟨_, ⟨before, outside, rfl⟩, _, ⟨within, inside, rfl⟩, name⟩
    exact .comment outside inside name

theorem token?_eq_some_iff {token : List Char} :
    token? s = some (token, rest) ↔ ∃ word, token = '@' :: word ∧ Forms ('=' :: s) word rest := by
  constructor
  · intro h
    simp only [token?] at h
    split at h
    · rename_i behind
      cases h
      refine ⟨_, rfl, ?_⟩
      split at behind
      · subst behind
        exact .apart (longestRun_iff.2 ⟨rfl, rfl⟩)
      · subst behind
        exact .close (longestRun_iff.2 ⟨rfl, rfl⟩)
    · cases h
  · rintro ⟨word, rfl, name | name⟩
    all_goals
      obtain ⟨rfl, rfl⟩ := longestRun_iff.1 name
      rfl

theorem Forms.unique {word' rest' : List Char} (h : Forms s word rest)
    (h' : Forms s word' rest') : word = word' ∧ rest = rest' := by
  obtain ⟨t, rfl⟩ : ∃ t, s = '=' :: t := by cases h <;> exact ⟨_, rfl⟩
  have same := (token?_eq_some_iff.2 ⟨word, rfl, h⟩).symm.trans
    (token?_eq_some_iff.2 ⟨word', rfl, h'⟩)
  simpa using same

end Scanner

section Read
variable {s word rest : List Char}

theorem isWord_equals : isWord '=' = false := by decide +kernel

theorem isWord_at : isWord '@' = false := by decide +kernel

theorem Forms.chars (h : Forms s word rest) : ∀ c ∈ word, isWord c = true := by
  cases h with
  | close name => exact name.chars
  | apart name => exact name.chars

theorem Forms.ne_nil (h : Forms s word rest) : s ≠ [] := by
  cases h <;> exact List.cons_ne_nil _ _

theorem notMem_of_class {p : Char → Bool} {c : Char} {run : List Char} (hc : p c = false)
    (chars : ∀ d ∈ run, p d = true) : c ∉ run := fun hmem =>
  Bool.false_ne_true (hc.symm.trans (chars c hmem))

/-- There is no equals sign in what is read of a token behind the first one. -/
theorem Forms.exists_read (h : Forms ('=' :: s) word rest) :
    ∃ read, s = read ++ rest ∧ '=' ∉ read := by
  cases h with
  | close name =>
    refine ⟨'@' :: word, by simp [name.text], ?_⟩
    simpa using notMem_of_class isWord_equals name.chars
  | apart name =>
    refine ⟨' ' :: '@' :: word, by simp [name.text], ?_⟩
    simpa using notMem_of_class isWord_equals name.chars

theorem Names.exists_read {hint : List Char} (h : Names s hint rest) :
    ∃ read, s = read ++ rest ∧ '=' ∉ read := by
  cases h with
  | plain name => exact ⟨hint, name.text, notMem_of_class isWord_equals name.chars⟩
  | @marked word _ name =>
    refine ⟨word ++ ['?'], by simp [name.text], ?_⟩
    simpa using notMem_of_class isWord_equals name.chars

/-- There is no equals sign in what is read of a hint. -/
theorem Hints.exists_read {hint : List Char} (h : Hints s hint rest) :
    ∃ read, s = read ++ rest ∧ '=' ∉ read := by
  have blank : isBlank '=' = false := by decide
  cases h with
  | @comment before within s _ _ outside inside name =>
    obtain ⟨read, rfl, clear⟩ := name.exists_read
    refine ⟨before ++ '/' :: '*' :: (within ++ 'd' :: 's' :: 'l' :: ':' :: read), by simp, ?_⟩
    simp [notMem_of_class blank outside, notMem_of_class blank inside, clear]

end Read

section Places

/-- The hint in front of a text. An empty one stands for none. -/
def hintOf (s : List Char) : List Char := ((hint? s).map Prod.fst).getD []

/-- What is formed in front of a text, with the hint behind it. -/
def site? : List Char → Option (List Char × List Char)
  | '=' :: s => (token? s).map fun p => (p.1, hintOf p.2)
  | _ => none

theorem site?_of_ne {c : Char} (hc : c ≠ '=') (cs : List Char) : site? (c :: cs) = none := by
  unfold site?
  split
  · rename_i h
    exact absurd (List.cons.inj h).1 hc
  · rfl

/-- What is formed at the places of a text, in order. -/
def sites (s : List Char) : List (List Char × List Char) :=
  (List.range s.length).filterMap fun i => site? (s.drop i)

theorem sites_cons (c : Char) (cs : List Char) :
    sites (c :: cs) = (site? (c :: cs)).toList ++ sites cs := by
  rw [sites, List.length_cons, List.range_succ_eq_map, List.filterMap_cons, List.filterMap_map,
    List.drop_zero, sites]
  simp only [Function.comp_def, List.drop_succ_cons]
  cases site? (c :: cs) <;> rfl

/-- Nothing is formed where there is no equals sign. -/
theorem sites_append {read : List Char} (clear : '=' ∉ read) (s : List Char) :
    sites (read ++ s) = sites s := by
  induction read with
  | nil => rfl
  | cons c read ih =>
    obtain ⟨hc, clear⟩ := List.ne_and_not_mem_of_not_mem_cons clear
    rw [List.cons_append, sites_cons, site?_of_ne hc.symm, ih clear]
    rfl

/-- The scanner passes nothing by. -/
theorem occurrences_eq_sites (s : List Char) : occurrences s = sites s := by
  -- what an occurrence has read is passed over, but nothing is formed in it
  fun_induction occurrences s with
  | case1 => rfl
  | case2 cs hnone ih => rw [sites_cons, site?, hnone, ih]; rfl
  | case3 cs token rest htoken hnone ih =>
    obtain ⟨word, -, forms⟩ := token?_eq_some_iff.1 htoken
    obtain ⟨read, rfl, clear⟩ := forms.exists_read
    rw [sites_cons, site?, htoken, sites_append clear, ih, Option.map_some, hintOf, hnone]
    rfl
  | case4 cs token rest htoken hint rest' hhint ih =>
    obtain ⟨word, -, forms⟩ := token?_eq_some_iff.1 htoken
    obtain ⟨read, rfl, clear⟩ := forms.exists_read
    obtain ⟨read', rfl, clear'⟩ := (hints_iff.2 hhint).exists_read
    rw [sites_cons, site?, htoken, sites_append clear, sites_append clear', ih, Option.map_some,
      hintOf, hhint]
    rfl
  | case5 c cs hc ih =>
    rw [sites_cons, site?_of_ne hc, ih]
    rfl

theorem site?_eq_some_iff {s token hint : List Char} : site? s = some (token, hint) ↔
    ∃ word rest, Forms s word rest ∧ token = '@' :: word ∧ hint = hintOf rest := by
  constructor
  · intro h
    unfold site? at h
    split at h
    · obtain ⟨⟨token, rest⟩, htoken, same⟩ := Option.map_eq_some_iff.1 h
      cases same
      obtain ⟨word, rfl, forms⟩ := token?_eq_some_iff.1 htoken
      exact ⟨word, rest, forms, rfl, rfl⟩
    · cases h
  · rintro ⟨word, rest, forms, rfl, rfl⟩
    obtain ⟨t, rfl⟩ : ∃ t, s = '=' :: t := by cases forms <;> exact ⟨_, rfl⟩
    rw [site?, token?_eq_some_iff.2 ⟨word, rfl, forms⟩]
    rfl

end Places
end EntityDesign.Placeholder
