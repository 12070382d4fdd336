import Mathlib.Data.List.Sort
import EntityDesign.Proofs.Lists
import EntityDesign.Proofs.Placeholder.Pattern

/-! The placeholders of a text. Each token that is formed somewhere is listed once, in the order of
the places where the tokens are formed first, and what is recorded of it is taken from that place.
-/
namespace EntityDesign.Placeholder
open Text

section Listing

/-- A token with the word `word` is formed at a place, and at no place before it. -/
def FirstAt (s : List Char) (i : Nat) (word rest : List Char) : Prop :=
  Forms (s.drop i) word rest ∧ ∀ j < i, ∀ rest', ¬Forms (s.drop j) word rest'

/-- The name of the parameter of a token: the word, and the `@` in front of it if it would be the
name of a type otherwise. -/
def nameOf (word : List Char) : List Char :=
  if (HostName.dbType? (String.ofList (lowercase word))).isSome then '@' :: word else word

/-- What is recorded of a token with the word `word` in front of `rest`. -/
structure Records (word rest : List Char) (p : Placeholder) : Prop where
  token : p.token = String.ofList ('@' :: word)
  name : p.parameter.name = String.ofList (nameOf word)
  hinted : ∀ hint rest' dbType, Hints rest hint rest' →
    HostName.dbType? (String.ofList hint) = some dbType →
      p.parameter.hostType = String.ofList hint ∧ p.parameter.dbType = dbType
  unhinted : (∀ hint rest', Hints rest hint rest' → HostName.dbType? (String.ofList hint) = none) →
    p.parameter.hostType = HostName.object ∧ p.parameter.dbType = .string
  isInput : p.parameter.isOutput = false

/-- The tokens of a text in the order of the places where they are formed first. -/
def Lists (s : List Char) (ps : List Placeholder) : Prop :=
  ∃ places : List Nat, places.Pairwise (· < ·) ∧
    (∀ i, i ∈ places ↔ ∃ word rest, FirstAt s i word rest) ∧
    List.Forall₂ (fun i p => ∃ word rest, FirstAt s i word rest ∧ Records word rest p) places ps

end Listing

section Distinct
variable {f : Nat → Option (List Char × List Char)} {n : Nat} {seen : List (List Char)}

/-- What is formed at a place, unless its token has been formed before. -/
def firstOnly (f : Nat → Option (List Char × List Char)) (i : Nat) :
    Option (List Char × List Char) :=
  (f i).filter fun o => ∀ j < i, ∀ o' ∈ f j, o'.1 ≠ o.1

/-- The tokens seen before a place are those formed before it. -/
def Seen (f : Nat → Option (List Char × List Char)) (n : Nat) (seen : List (List Char)) : Prop :=
  ∀ token, token ∈ seen ↔ ∃ j < n, ∃ o ∈ f j, o.1 = token

theorem Seen.succ (h : Seen f n seen) {seen' : List (List Char)}
    (more : ∀ token, token ∈ seen' ↔ token ∈ seen ∨ ∃ o ∈ f n, o.1 = token) :
    Seen f (n + 1) seen' := by
  intro token
  rw [more, h token, Nat.exists_lt_succ_right]

theorem mem_firstOnly_iff {i : Nat} {o : List Char × List Char} :
    o ∈ firstOnly f i ↔ o ∈ f i ∧ ∀ j < i, ∀ o' ∈ f j, o'.1 ≠ o.1 := by
  simp [firstOnly, Option.filter_eq_some_iff]

theorem firstOnly_of_seen (h : Seen f n seen) {o : List Char × List Char} (hn : f n = some o) :
    firstOnly f n = if o.1 ∈ seen then none else some o := by
  rw [firstOnly, hn, Option.filter_some]
  by_cases old : o.1 ∈ seen
  · obtain ⟨j, hj, o', ho', same⟩ := (h o.1).1 old
    rw [if_pos old, if_neg]
    rw [decide_eq_true_eq]
    exact fun first => first j hj o' ho' same
  · rw [if_neg old, if_pos]
    rw [decide_eq_true_eq]
    exact fun j hj o' ho' same => old ((h o.1).2 ⟨j, hj, o', ho', same⟩)

theorem distinct_filterMap (h : Seen f n seen) (k : Nat) :
    distinct seen ((List.range' n k).filterMap f) = (List.range' n k).filterMap (firstOnly f) := by
  -- along the places: what has been seen is what was formed before the next place
  induction k generalizing n seen with
  | zero => rfl
  | succ k ih =>
    rw [List.range'_succ, List.filterMap_cons, List.filterMap_cons]
    cases hn : f n with
    | none =>
      have hfirst : firstOnly f n = none := by simp [firstOnly, hn]
      rw [hfirst]
      exact ih (h.succ fun token => by simp [hn])
    | some o =>
      rw [firstOnly_of_seen h hn, distinct]
      by_cases old : o.1 ∈ seen
      · rw [if_pos old, if_pos old]
        refine ih (h.succ fun token => ?_)
        simp only [hn, Option.mem_some_iff, exists_eq_left']
        exact (or_iff_left_of_imp fun same => same ▸ old).symm
      · rw [if_neg old, if_neg old]
        refine congrArg (o :: ·) (ih (h.succ fun token => ?_))
        simp [hn, or_comm, eq_comm]

end Distinct

section Scan
variable {s word rest : List Char}

theorem mem_firstOnly_site_iff {i : Nat} {o : List Char × List Char} :
    o ∈ firstOnly (fun i => site? (s.drop i)) i ↔
      ∃ word rest, FirstAt s i word rest ∧ o = ('@' :: word, hintOf rest) := by
  rw [mem_firstOnly_iff]
  constructor
  · rintro ⟨ho, first⟩
    obtain ⟨word, rest, forms, htoken, hhint⟩ := site?_eq_some_iff.1 ho
    refine ⟨word, rest, ⟨forms, fun j hj rest' before => ?_⟩, Prod.ext htoken hhint⟩
    exact first j hj _ (site?_eq_some_iff.2 ⟨word, rest', before, rfl, rfl⟩) htoken.symm
  · rintro ⟨word, rest, ⟨forms, first⟩, rfl⟩
    refine ⟨site?_eq_some_iff.2 ⟨word, rest, forms, rfl, rfl⟩, fun j hj o' ho' same => ?_⟩
    obtain ⟨word', rest', before, htoken, -⟩ := site?_eq_some_iff.1 ho'
    obtain rfl : word' = word := (List.cons.inj (htoken.symm.trans same)).2
    exact first j hj rest' before

theorem records_ofToken (chars : ∀ c ∈ word, isWord c = true) :
    Records word rest (ofToken ('@' :: word) (hintOf rest)) := by
  have bare : ('@' :: word).dropWhile (· == '@') = word := by
    refine dropWhile_run (w := ['@']) (by simp) fun c hc => ?_
    have hword := chars c (List.mem_of_mem_head? hc)
    rw [beq_eq_false_iff_ne]
    rintro rfl
    exact Bool.false_ne_true (isWord_at.symm.trans hword)
  have found {hint rest' : List Char} (h : Hints rest hint rest') : hintOf rest = hint := by
    rw [hintOf, hints_iff.1 h]
    rfl
  have none_known : HostName.dbType? (String.ofList []) = none := by decide
  constructor
  case token => rfl
  case name =>
    rw [ofToken, parameterOf, bare]
    split <;> rfl
  case hinted =>
    intro hint rest' dbType h known
    rw [ofToken, parameterOf, found h, known]
    exact ⟨rfl, rfl⟩
  case unhinted =>
    intro unknown
    have unread : HostName.dbType? (String.ofList (hintOf rest)) = none := by
      cases h : hint? rest with
      | none => rw [hintOf, h]; exact none_known
      | some p => rw [found (hints_iff.2 h)]; exact unknown _ _ (hints_iff.2 h)
    rw [ofToken, parameterOf, unread]
    exact ⟨rfl, rfl⟩
  case isInput =>
    rw [ofToken, parameterOf]
    split <;> rfl

theorem lists_scan (sql : String) : Lists sql.toList (scan sql) := by
  have seen : Seen (fun i => site? (sql.toList.drop i)) 0 [] := by simp [Seen]
  rw [scan, occurrences_eq_sites, sites, List.range_eq_range', distinct_filterMap seen]
  refine ⟨_, ?_, fun i => ?_, List.forall₂_map_right_iff.2 ((forall₂_filterMap _ _).imp ?_)⟩
  · exact List.Pairwise.filter _ List.pairwise_lt_range'
  · rw [List.mem_filter, List.mem_range'_1, Option.isSome_iff_exists]
    simp only [← Option.mem_def, mem_firstOnly_site_iff]
    constructor
    · rintro ⟨-, o, word, rest, first, -⟩
      exact ⟨word, rest, first⟩
    · rintro ⟨word, rest, first⟩
      have inside : i < sql.toList.length := by
        by_contra outside
        exact first.1.ne_nil (List.drop_eq_nil_of_le (by omega))
      exact ⟨by omega, _, word, rest, first, rfl⟩
  · intro i o ho
    obtain ⟨word, rest, first, rfl⟩ := mem_firstOnly_site_iff.1 ho
    exact ⟨word, rest, first, records_ofToken first.1.chars⟩

end Scan

section Unique
variable {s word word' rest rest' : List Char} {i j : Nat} {p q : Placeholder}
  {ps qs : List Placeholder}

theorem Records.unique (h : Records word rest p) (h' : Records word rest q) : p = q := by
  have types : p.parameter.hostType = q.parameter.hostType ∧
      p.parameter.dbType = q.parameter.dbType := by
    by_cases known : ∃ hint rest' dbType, Hints rest hint rest' ∧
        HostName.dbType? (String.ofList hint) = some dbType
    · obtain ⟨hint, rest', dbType, hint_here, known⟩ := known
      obtain ⟨host, db⟩ := h.hinted _ _ _ hint_here known
      obtain ⟨host', db'⟩ := h'.hinted _ _ _ hint_here known
      exact ⟨host.trans host'.symm, db.trans db'.symm⟩
    · have unknown : ∀ hint rest', Hints rest hint rest' →
          HostName.dbType? (String.ofList hint) = none := fun hint rest' hint_here =>
        Option.eq_none_iff_forall_ne_some.2 fun dbType isKnown =>
          known ⟨hint, rest', dbType, hint_here, isKnown⟩
      obtain ⟨host, db⟩ := h.unhinted unknown
      obtain ⟨host', db'⟩ := h'.unhinted unknown
      exact ⟨host.trans host'.symm, db.trans db'.symm⟩
  have token := h.token.trans h'.token.symm
  have name := h.name.trans h'.name.symm
  have direction := h.isInput.trans h'.isInput.symm
  obtain ⟨_, _⟩ := p
  obtain ⟨_, _⟩ := q
  rw [Placeholder.mk.injEq, Parameter.mk.injEq]
  exact ⟨token, name, types.1, types.2, direction⟩

theorem Lists.unique (h : Lists s ps) (h' : Lists s qs) : ps = qs := by
  obtain ⟨places, sorted, mem, each⟩ := h
  obtain ⟨places', sorted', mem', each'⟩ := h'
  obtain rfl : places = places' :=
    sorted.eq_of_mem_iff sorted' fun i => (mem i).trans (mem' i).symm
  refine List.right_unique_forall₂' ?_ each each'
  rintro i p q ⟨word, rest, first, records⟩ ⟨word', rest', first', records'⟩
  obtain ⟨rfl, rfl⟩ := first.1.unique first'.1
  exact records.unique records'

theorem Lists.exists_records (h : Lists s ps) (hp : p ∈ ps) :
    ∃ i word rest, FirstAt s i word rest ∧ Records word rest p := by
  obtain ⟨places, -, -, each⟩ := h
  obtain ⟨i, -, here⟩ := exists_beside_right each hp
  exact ⟨i, here⟩

/-- A token that is formed somewhere is listed. -/
theorem Lists.exists_token_iff (h : Lists s ps) :
    (∃ p ∈ ps, p.token = String.ofList ('@' :: word)) ↔
      ∃ i rest, Forms (s.drop i) word rest := by
  constructor
  · rintro ⟨p, hp, token⟩
    obtain ⟨i, word', rest, first, records⟩ := h.exists_records hp
    have same := String.ofList_injective (token.symm.trans records.token)
    obtain rfl := (List.cons.inj same).2
    exact ⟨i, rest, first.1⟩
  · intro formed
    obtain ⟨places, -, mem, each⟩ := h
    classical
    -- the first of all places where the token is formed is one of those that are listed
    obtain ⟨rest, forms⟩ := Nat.find_spec formed
    have first : FirstAt s (Nat.find formed) word rest :=
      ⟨forms, fun j hj rest' before => Nat.find_min formed hj ⟨rest', before⟩⟩
    obtain ⟨p, hp, word', rest', first', records⟩ :=
      exists_beside_left each ((mem _).2 ⟨word, rest, first⟩)
    obtain ⟨rfl, -⟩ := first.1.unique first'.1
    exact ⟨p, hp, records.token⟩

theorem FirstAt.ne (hij : i < j) (h : FirstAt s i word rest) (h' : FirstAt s j word' rest') :
    word ≠ word' := by
  rintro rfl
  exact h'.2 i hij rest h.1

/-- The `@` in the names of types keeps these names apart from all others. -/
theorem nameOf_injOn (hw : ∀ c ∈ word, isWord c = true) (hw' : ∀ c ∈ word', isWord c = true)
    (same : nameOf word = nameOf word') : word = word' := by
  have no_at {w : List Char} (chars : ∀ c ∈ w, isWord c = true) (u : List Char) :
      '@' :: u ≠ w := by
    rintro rfl
    exact notMem_of_class isWord_at chars List.mem_cons_self
  unfold nameOf at same
  split at same <;> split at same
  · exact (List.cons.inj same).2
  · exact absurd same (no_at hw' _)
  · exact absurd same.symm (no_at hw _)
  · exact same

theorem Lists.nodup_names (h : Lists s ps) : (ps.map fun p => p.parameter.name).Nodup := by
  obtain ⟨places, sorted, -, each⟩ := h
  rw [List.Nodup, List.pairwise_map]
  refine pairwise_beside each sorted ?_
  rintro i j p q ⟨word, rest, first, records⟩ ⟨word', rest', first', records'⟩ hij same
  have names := String.ofList_injective (records.name.symm.trans (same.trans records'.name))
  exact first.ne hij first' (nameOf_injOn first.1.chars first'.1.chars names)

end Unique

/-- Scanning is exact: it lists each token that is formed anywhere in a text once, in the order of
the first places, under a name that no other has. A search with the pattern comes to the same. -/
theorem scan_exact (sql : String) :
    (∀ ps, scan sql = ps ↔ Lists sql.toList ps) ∧
      (∀ word, (∃ p ∈ scan sql, p.token = String.ofList ('@' :: word)) ↔
        ∃ i rest, Forms (sql.toList.drop i) word rest) ∧
      ((scan sql).map fun p => p.parameter.name).Nodup ∧
      ∃ found, (∀ found', Pattern.placeholder.Finds sql.toList found' ↔ found' = found) ∧
        scan sql = (distinct [] (found.filterMap Pattern.read)).map fun o => ofToken o.1 o.2 := by
  have lists := lists_scan sql
  obtain ⟨found, finds, occurrences⟩ := Pattern.exists_finds sql.toList
  refine ⟨fun ps => ⟨?_, lists.unique⟩, fun word => lists.exists_token_iff, lists.nodup_names,
    found, fun found' => ⟨fun finds' => finds'.unique finds, ?_⟩, ?_⟩
  · rintro rfl
    exact lists
  · rintro rfl
    exact finds
  · rw [scan, occurrences]

/-- What is read of a hint hides no placeholder behind it, and a later hint changes nothing. -/
example : (scan "a =@id/*dsl:int?=@long OR c = @id /* dsl:Guid */").map (·.parameter) =
    [⟨"id", "int?", .int32, false⟩, ⟨"@long", "object", .string, false⟩] := by
  decide +kernel

end EntityDesign.Placeholder
