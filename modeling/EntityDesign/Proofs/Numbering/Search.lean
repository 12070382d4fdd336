import EntityDesign.Proofs.Numbering

/-! The search for a free number, step by step. Names are made distinct from left to right, and a
counter goes over the numbers for an entry until one makes a free name. The names that it has passed
belong to other entries and differ from one another, so it never exceeds the length of the list, and
the naming comes to an end. -/
namespace EntityDesign.Distinct

/-- How far the naming of a list has come. -/
inductive Stage where
  /-- Entry `i` is looked at next. -/
  | visiting (list : List String) (i : Nat)
  /-- Entry `i` gets the number `k`, unless the name that it makes is among `taken`. -/
  | searching (list : List String) (i : Nat) (base : String) (taken : List String) (k : Nat)
  /-- A counter has gone past the numbers it can hold. -/
  | overflowed
  deriving DecidableEq, Repr

namespace Stage

/-- One step, with counters that hold the numbers up to `limit`. A nameless entry is compared with
the whole list and a repeated one with the other entries. No step is left behind the last entry. -/
def next (limit : Nat) : Stage → Option Stage
  | visiting list i =>
    list[i]?.map fun name =>
      if name = "" then searching list i unnamed list 1
      else if name ∈ list.take i then searching list i name (list.eraseIdx i) 1
      else visiting list (i + 1)
  | searching list i base taken k =>
    some <|
      if numbered base k ∈ taken then
        if k < limit then searching list i base taken (k + 1) else overflowed
      else visiting (list.set i (numbered base k)) (i + 1)
  | overflowed => none

/-- The stage after `t` steps, or after all if there are fewer. -/
def run (limit : Nat) : Nat → Stage → Stage
  | 0, s => s
  | t + 1, s =>
    match s.next limit with
    | some s' => run limit t s'
    | none => s

/-- Where the counter of a search stands. -/
def counter? : Stage → Option Nat
  | searching _ _ _ _ k => some k
  | _ => none

/-- A bound on the number of steps that are left for a list of `n` entries: each entry takes at most
one step to look at it and `n` steps to search. -/
def left (n : Nat) : Stage → Nat
  | visiting _ i => (n - i) * (n + 1)
  | searching _ i _ _ k => (n - (i + 1)) * (n + 1) + (n + 1 - k)
  | overflowed => 0

end Stage

section Fresh
variable {base : String} {taken : List String} {k : Nat}

/-- The first number that makes a free name makes the fresh one. -/
theorem fresh_eq_of_first (positive : 1 ≤ k) (free : numbered base k ∉ taken)
    (passed : ∀ j, 1 ≤ j → j < k → numbered base j ∈ taken) :
    fresh base taken = numbered base k := by
  obtain ⟨m, hm, -, hfresh, hfree, before⟩ := fresh_spec base taken
  rcases Nat.lt_trichotomy m k with h | rfl | h
  · exact absurd (passed m hm h) hfree
  · exact hfresh
  · exact absurd (before k positive h) free

/-- A counter that has passed only taken names is at most one more than there are taken names. -/
theorem le_of_passed (passed : ∀ j, 1 ≤ j → j < k → numbered base j ∈ taken) :
    k ≤ taken.length + 1 := by
  obtain ⟨m, hm, hle, -, hfree, -⟩ := fresh_spec base taken
  by_contra hlt
  exact hfree (passed m hm (by omega))

/-- A counter that goes on has passed one number more. -/
theorem passed_succ (passed : ∀ j, 1 ≤ j → j < k → numbered base j ∈ taken)
    (occupied : numbered base k ∈ taken) : ∀ j, 1 ≤ j → j < k + 1 → numbered base j ∈ taken := by
  intro j hj hlt
  rcases Nat.lt_succ_iff_lt_or_eq.1 hlt with hlt | rfl
  · exact passed j hj hlt
  · exact occupied

end Fresh

/-- The entries before `i` have their final names and those from it on their raw ones. -/
structure Halfway (raw list : List String) (i : Nat) : Prop where
  length : list.length = raw.length
  reached : i ≤ raw.length
  outcome : namesFrom (list.take i) (list.drop i) = names raw

namespace Halfway
variable {raw list : List String} {i : Nat} {name : String}

theorem start (raw : List String) : Halfway raw raw 0 where
  length := rfl
  reached := Nat.zero_le _
  outcome := rfl

/-- The next entry gets the name that it has among the distinct ones. -/
theorem set (h : Halfway raw list i) (entry : list[i]? = some name) :
    Halfway raw (list.set i (rename (list.take i) name (list.drop (i + 1)))) (i + 1) := by
  obtain ⟨hi, hname⟩ := List.getElem?_eq_some_iff.1 entry
  have hlength := h.length
  have houtcome := h.outcome
  constructor
  case length => rw [List.length_set, hlength]
  case reached => omega
  case outcome =>
    rw [List.drop_eq_getElem_cons hi, hname, namesFrom] at houtcome
    rw [List.take_add_one, List.take_set_of_le (Nat.le_refl i), List.getElem?_set_self hi,
      List.drop_set_of_lt (Nat.lt_succ_self i)]
    exact houtcome

/-- An entry with a name of its own keeps it. -/
theorem keep (h : Halfway raw list i) (entry : list[i]? = some name) (named : name ≠ "")
    (first : name ∉ list.take i) : Halfway raw list (i + 1) := by
  have kept : rename (list.take i) name (list.drop (i + 1)) = name := by
    rw [rename_eq, if_neg (not_or.2 ⟨named, first⟩)]
  have after := h.set entry
  rwa [kept, set_of_getElem? entry] at after

/-- Another entry gets the first number that makes no name of the others. -/
theorem number {k : Nat} (h : Halfway raw list i) (entry : list[i]? = some name)
    (again : name = "" ∨ name ∈ list.take i) (positive : 1 ≤ k)
    (free : numbered (stem name) k ∉ list.eraseIdx i)
    (passed : ∀ j, 1 ≤ j → j < k → numbered (stem name) j ∈ list.eraseIdx i) :
    Halfway raw (list.set i (numbered (stem name) k)) (i + 1) := by
  have counted : rename (list.take i) name (list.drop (i + 1)) = numbered (stem name) k := by
    rw [rename_eq, if_pos again, ← List.eraseIdx_eq_take_drop_succ]
    exact fresh_eq_of_first positive free passed
  have after := h.set entry
  rwa [counted] at after

theorem length_eraseIdx (h : Halfway raw list i) (entry : list[i]? = some name) :
    (list.eraseIdx i).length + 1 = raw.length := by
  obtain ⟨hi, -⟩ := List.getElem?_eq_some_iff.1 entry
  rw [List.length_eraseIdx_of_lt hi, ← h.length]
  omega

end Halfway

/-- What every stage of the naming of `raw` keeps. In a search a name that a number makes is taken
exactly if another entry has it, and this holds of all numbers that were passed. -/
inductive Stage.Sound (raw : List String) : Stage → Prop
  | visiting {list : List String} {i : Nat} (halfway : Halfway raw list i) :
    Sound raw (.visiting list i)
  | searching {list taken : List String} {i k : Nat} {name : String}
    (halfway : Halfway raw list i) (entry : list[i]? = some name)
    (again : name = "" ∨ name ∈ list.take i)
    (others : ∀ j, numbered (stem name) j ∈ taken ↔ numbered (stem name) j ∈ list.eraseIdx i)
    (positive : 1 ≤ k) (passed : ∀ j, 1 ≤ j → j < k → numbered (stem name) j ∈ list.eraseIdx i) :
    Sound raw (.searching list i (stem name) taken k)

namespace Stage
variable {raw : List String} {limit : Nat} {s s' : Stage}

theorem Sound.counter_le {k : Nat} (h : s.Sound raw) (hk : s.counter? = some k) :
    1 ≤ k ∧ k ≤ raw.length := by
  cases h with
  | visiting => cases hk
  | searching halfway entry _ _ positive passed =>
    cases hk
    have hle := le_of_passed passed
    rw [halfway.length_eraseIdx entry] at hle
    exact ⟨positive, hle⟩

/-- A number makes a name of the whole list exactly if it makes one of the other entries, for the
entry itself has no name. -/
theorem numbered_mem_iff_of_nameless {list : List String} {i : Nat} (entry : list[i]? = some "")
    (base : String) (j : Nat) :
    numbered (stem base) j ∈ list ↔ numbered (stem base) j ∈ list.eraseIdx i := by
  have named : numbered (stem base) j ≠ "" := fun h =>
    stem_ne_empty base (String.append_eq_empty_iff.1 h).1
  obtain ⟨hi, hname⟩ := List.getElem?_eq_some_iff.1 entry
  rw [List.eraseIdx_eq_take_drop_succ, List.mem_append]
  conv_lhs => rw [← List.take_append_drop i list, List.drop_eq_getElem_cons hi, hname,
    List.mem_append, List.mem_cons]
  simp [named]

section Steps
variable {list taken : List String} {i k : Nat} {name base : String}

/-- An entry counts for one step to look at it and one for each number up to the length. -/
theorem left_visiting {n : Nat} (hi : i < n) :
    (visiting list i).left n = (visiting list (i + 1)).left n + (n + 1) := by
  rw [left, left, ← Nat.succ_mul]
  congr 1
  omega

/-- An entry keeps its name, or the search for its number begins. -/
theorem step_visiting (halfway : Halfway raw list i)
    (hs : (visiting list i).next limit = some s') :
    s'.Sound raw ∧ s'.left raw.length < (visiting list i).left raw.length := by
  obtain ⟨name, entry, hs⟩ := Option.map_eq_some_iff.1 hs
  have hi : i < raw.length := halfway.length ▸ (List.getElem?_eq_some_iff.1 entry).1
  rw [left_visiting hi]
  have first : ∀ j, 1 ≤ j → j < 1 → numbered (stem name) j ∈ list.eraseIdx i := by omega
  split_ifs at hs with nameless repeated
  · subst hs nameless
    refine ⟨.searching halfway entry (.inl rfl)
      (fun j => numbered_mem_iff_of_nameless entry "" j) le_rfl first, ?_⟩
    simp only [left]
    omega
  · subst hs
    have hstem : stem name = name := if_neg nameless
    have sound : Sound raw (.searching list i (stem name) (list.eraseIdx i) 1) :=
      .searching halfway entry (.inr repeated) (fun _ => Iff.rfl) le_rfl first
    rw [hstem] at sound
    refine ⟨sound, ?_⟩
    simp only [left]
    omega
  · subst hs
    exact ⟨.visiting (halfway.keep entry nameless repeated), by omega⟩

/-- The counter goes on while the number is taken and below the limit, which it does not reach
before a number is free. -/
theorem step_searching (fits : raw.length ≤ limit)
    (sound : (searching list i base taken k).Sound raw)
    (hs : (searching list i base taken k).next limit = some s') :
    s'.Sound raw ∧ s'.left raw.length < (searching list i base taken k).left raw.length := by
  have bounded := (sound.counter_le rfl).2
  cases sound with
  | @searching _ _ _ _ name halfway entry again others positive passed =>
    have hs := Option.some.inj hs
    by_cases occupied : numbered (stem name) k ∈ taken
    · rw [if_pos occupied] at hs
      have further := Sound.searching halfway entry again others (Nat.le_succ_of_le positive)
        (passed_succ passed ((others k).1 occupied))
      have hbound := (further.counter_le rfl).2
      rw [if_pos (by omega)] at hs
      subst hs
      refine ⟨further, ?_⟩
      simp only [left]
      omega
    · rw [if_neg occupied] at hs
      subst hs
      refine ⟨.visiting (halfway.number entry again positive (mt (others k).2 occupied) passed), ?_⟩
      simp only [left]
      omega

end Steps

/-- A step keeps what holds at every stage, and fewer steps are left after it. -/
theorem Sound.step (fits : raw.length ≤ limit) (h : s.Sound raw) (hs : s.next limit = some s') :
    s'.Sound raw ∧ s'.left raw.length < s.left raw.length := by
  cases h with
  | visiting halfway => exact step_visiting halfway hs
  | searching halfway entry again others positive passed =>
    exact step_searching fits (.searching halfway entry again others positive passed) hs

theorem Sound.run (fits : raw.length ≤ limit) (h : s.Sound raw) (t : Nat) :
    (s.run limit t).Sound raw := by
  induction t generalizing s with
  | zero => exact h
  | succ t ih =>
    rw [Stage.run]
    split
    · rename_i hs
      exact ih (h.step fits hs).1
    · exact h

/-- A stage without a further step is the last one. -/
theorem Sound.eq_of_next_eq_none (h : s.Sound raw) (hs : s.next limit = none) :
    s = .visiting (names raw) raw.length := by
  cases h with
  | searching => cases hs
  | @visiting list i halfway =>
    have hi := List.getElem?_eq_none_iff.1 (Option.map_eq_none_iff.1 hs)
    have hlast : i = raw.length := Nat.le_antisymm halfway.reached (halfway.length ▸ hi)
    have houtcome := halfway.outcome
    rw [List.drop_eq_nil_of_le hi, List.take_of_length_le hi, namesFrom_nil] at houtcome
    rw [hlast, houtcome]

theorem Sound.run_eq (fits : raw.length ≤ limit) (h : s.Sound raw) {t : Nat}
    (enough : s.left raw.length ≤ t) : s.run limit t = .visiting (names raw) raw.length := by
  induction t generalizing s with
  | zero =>
    have hs : s.next limit = none := by
      refine Option.eq_none_iff_forall_ne_some.2 fun s' hs => ?_
      have fewer := (h.step fits hs).2
      omega
    exact h.eq_of_next_eq_none hs
  | succ t ih =>
    rw [Stage.run]
    split
    · rename_i s' hs
      obtain ⟨sound, fewer⟩ := h.step fits hs
      exact ih sound (by omega)
    · rename_i hs
      exact h.eq_of_next_eq_none hs

end Stage

/-- An entry that is numbered gets a number of at most the length of the list. -/
theorem exists_number_le {raw : List String} {i : Nat} {name : String} (entry : raw[i]? = some name)
    (again : name = "" ∨ name ∈ raw.take i) :
    ∃ k, 1 ≤ k ∧ k ≤ raw.length ∧ (names raw)[i]? = some (numbered (stem name) k) := by
  have hi := (List.getElem?_eq_some_iff.1 entry).1
  have hlength : ((names raw).take i ++ raw.drop (i + 1)).length + 1 = raw.length := by
    simp only [List.length_append, List.length_take, List.length_drop, length_names]
    omega
  have again : name = "" ∨ name ∈ (names raw).take i := by
    by_cases nameless : name = ""
    · exact .inl nameless
    · exact .inr ((mem_take_names_iff entry nameless).2 (again.resolve_left nameless))
  obtain ⟨k, positive, hle, hfresh, -⟩ :=
    fresh_spec (stem name) ((names raw).take i ++ raw.drop (i + 1))
  refine ⟨k, positive, hlength ▸ hle, ?_⟩
  rw [getElem?_names, entry, Option.map_some, rename_eq, if_pos again, hfresh]

/-- The naming of a list ends with its distinct names, after no more steps than the square of its
length and once more its length. No counter ever exceeds the length of the list, so none goes past
the numbers it can hold, and an entry that is numbered gets a number of at most that length. -/
theorem search_bounded (raw : List String) (limit : Nat) (fits : raw.length ≤ limit) :
    (∀ t, (Stage.visiting raw 0).run limit t ≠ .overflowed ∧
      ∀ k, ((Stage.visiting raw 0).run limit t).counter? = some k → 1 ≤ k ∧ k ≤ raw.length) ∧
    (∀ t, raw.length * (raw.length + 1) ≤ t →
      (Stage.visiting raw 0).run limit t = .visiting (names raw) raw.length) ∧
    (Stage.visiting (names raw) raw.length).next limit = none ∧
    ∀ i name, raw[i]? = some name → name = "" ∨ name ∈ raw.take i →
      ∃ k, 1 ≤ k ∧ k ≤ raw.length ∧ (names raw)[i]? = some (numbered (stem name) k) := by
  have start : (Stage.visiting raw 0).Sound raw := .visiting (.start raw)
  refine ⟨fun t => ?_, fun t enough => ?_, ?_, fun i name entry again => ?_⟩
  · have sound := start.run fits t
    refine ⟨fun h => ?_, fun k hk => sound.counter_le hk⟩
    rw [h] at sound
    cases sound
  · exact start.run_eq fits (by simpa [Stage.left] using enough)
  · simp [Stage.next]
  · exact exists_number_le entry again

/-- The last of three entries is numbered as high as can be, with a counter that holds no more. -/
theorem search_bounded_full :
    ["Column1", "Column2", ""].length ≤ 3 ∧
      ((Stage.visiting ["Column1", "Column2", ""] 0).run 3 5).counter? = some 3 ∧
      (∀ t, (Stage.visiting ["Column1", "Column2", ""] 0).run 3 t ≠ .overflowed) ∧
      (Stage.visiting ["Column1", "Column2", ""] 0).run 3 12 =
        .visiting ["Column1", "Column2", "Column3"] 3 := by
  have hnames : names ["Column1", "Column2", ""] = ["Column1", "Column2", "Column3"] := by
    decide +kernel
  obtain ⟨bounded, ends, -⟩ := search_bounded ["Column1", "Column2", ""] 3 (by decide)
  exact ⟨by decide, by decide +kernel, fun t => (bounded t).1, hnames ▸ ends 12 (by decide)⟩

end EntityDesign.Distinct
