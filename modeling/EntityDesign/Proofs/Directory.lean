import EntityDesign.Directory

/-! Writing into a directory. The file that is written holds its new content under every path that
leads to its place, and no other file changes: paths are followed through folders only, and a write
makes or removes none. -/
namespace EntityDesign.Directory

theorem lookup_putEntry (p : Place) (f : Entry) (l : List (Place × Entry)) (q : Place) :
    (putEntry p f l).lookup q = if q = p then some f else l.lookup q := by
  induction l with
  | nil => by_cases h : q = p <;> simp [putEntry, List.lookup_cons, h, beq_false_of_ne]
  | cons a l ih =>
    obtain ⟨r, g⟩ := a
    rw [putEntry]
    split
    · subst r
      by_cases h : q = p <;> simp [List.lookup_cons, h, beq_false_of_ne]
    · rename_i hr
      by_cases h : q = r
      · subst q
        simp [hr]
      · simp [List.lookup_cons, beq_false_of_ne h, ih]

theorem entryAt_put (d : Directory) {p : Place} (hp : p ≠ []) (f : Entry) (q : Place) :
    (d.put p f).entryAt q = if q = p then some f else d.entryAt q := by
  by_cases hq : q = []
  · subst q
    simp [entryAt, Ne.symm hp]
  · simp [entryAt, hq, put, lookup_putEntry]

/-- A file that is put where no folder stood makes no folder and removes none. -/
theorem folder_put_iff {d : Directory} {p : Place} (hp : p ≠ [])
    (hfile : d.entryAt p ≠ some .folder) (c : Content) (q : Place) :
    (d.put p (.file c)).entryAt q = some .folder ↔ d.entryAt q = some .folder := by
  rw [entryAt_put d hp]
  split
  · rename_i same
    subst same
    simp [hfile]
  · rfl

/-- A path that leads somewhere still leads there as long as no folder is gone. -/
theorem walk_of_folders {d e : Directory}
    (folders : ∀ p, d.entryAt p = some .folder → e.entryAt p = some .folder) {names : List String}
    {p q : Place} (h : d.walk p names = .ok q) : e.walk p names = .ok q := by
  induction names generalizing p with
  | nil => exact h
  | cons name rest ih =>
    rw [walk] at h ⊢
    cases hp : d.entryAt p with
    | none => simp [hp] at h
    | some f =>
      cases f with
      | file => simp [hp] at h
      | folder =>
        simp only [hp, folders p hp] at h ⊢
        by_cases same : name = "" ∨ name = "."
        · rw [if_pos same] at h ⊢
          exact ih h
        · rw [if_neg same] at h ⊢
          by_cases up : name = ".."
          · rw [if_pos up] at h ⊢
            by_cases top : p = []
            · rw [if_pos top] at h
              cases h
            · rw [if_neg top] at h ⊢
              exact ih h
          · rw [if_neg up] at h ⊢
            exact ih h

theorem place_of_folders {d e : Directory}
    (folders : ∀ p, d.entryAt p = some .folder → e.entryAt p = some .folder) {path : String}
    {q : Place} (h : d.place path = .ok q) : e.place path = .ok q := by
  rw [place] at h ⊢
  by_cases absolute : path.toList.head? = some '/'
  · rw [if_pos absolute] at h
    cases h
  · rw [if_neg absolute] at h ⊢
    exact walk_of_folders folders h

theorem read_eq_ok_iff (d : Directory) (path : String) (c : Content) :
    d.read path = .ok c ↔ ∃ p, d.place path = .ok p ∧ d.entryAt p = some (.file c) := by
  rw [read]
  cases d.place path with
  | error e => simp [bind, Except.bind]
  | ok p =>
    rcases h : d.entryAt p with - | f
    · simp [bind, Except.bind, contentAt, h]
    · cases f <;> simp [bind, Except.bind, contentAt, h]

theorem write_eq_ok_iff (d : Directory) (path : String) (c : Content) (e : Directory) :
    d.write path c = .ok e ↔
      ∃ p, d.place path = .ok p ∧ d.entryAt p ≠ some .folder ∧ e = d.put p (.file c) := by
  rw [write]
  cases d.place path with
  | error e => simp [bind, Except.bind]
  | ok p =>
    rcases h : d.entryAt p with - | f
    · simp [bind, Except.bind, h, eq_comm]
    · cases f <;> simp [bind, Except.bind, h, eq_comm]

/-- The directory `e` is `d` but for one file, which `path` leads to and which holds `c` now. -/
structure Replaced (d : Directory) (path : String) (c : Content) (e : Directory) : Prop where
  holds : e.read path = .ok c
  entries : ∀ p, d.place path ≠ .ok p → e.entryAt p = d.entryAt p
  files : ∀ other, d.place other ≠ d.place path →
    ∀ c', e.read other = .ok c' ↔ d.read other = .ok c'

/-- A write replaces one file and leaves the others. -/
theorem replaced_of_write {d e : Directory} {path : String} {c : Content}
    (h : d.write path c = .ok e) : d.Replaced path c e := by
  obtain ⟨p, hplace, hfile, rfl⟩ := (write_eq_ok_iff d path c e).1 h
  have hp : p ≠ [] := by
    rintro rfl
    simp [entryAt] at hfile
  have hentry := entryAt_put d hp (.file c)
  have folders (q : Place) := folder_put_iff hp hfile c q
  constructor
  case holds =>
    refine (read_eq_ok_iff _ _ _).2 ⟨p, place_of_folders (fun q => (folders q).2) hplace, ?_⟩
    simp [hentry]
  case entries =>
    intro q hq
    have other : q ≠ p := by
      rintro rfl
      exact hq hplace
    simp [hentry, other]
  case files =>
    intro other elsewhere c'
    have same (q : Place) : (d.put p (.file c)).place other = .ok q ↔ d.place other = .ok q :=
      ⟨place_of_folders fun q => (folders q).1, place_of_folders fun q => (folders q).2⟩
    simp only [read_eq_ok_iff, same]
    refine exists_congr fun q => and_congr_right fun hq => ?_
    have other : q ≠ p := by
      rintro rfl
      exact elsewhere (hq.trans hplace.symm)
    simp [hentry, other]

end EntityDesign.Directory
