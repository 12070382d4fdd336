/-! Named connection strings, kept in the order of their names. -/
namespace EntityDesign

/-- A finite map from names to connection strings. -/
structure Registry where
  entries : List (String × String) := []
  sorted : entries.Pairwise (fun a b => a.1 < b.1) := by simp

namespace Registry

instance : DecidableEq Registry := fun a b =>
  decidable_of_iff (a.entries = b.entries) ⟨by cases a; cases b; simp, fun h => by rw [h]⟩

def empty : Registry := {}

instance : Inhabited Registry := ⟨empty⟩

@[ext] theorem ext {a b : Registry} (h : a.entries = b.entries) : a = b := by
  cases a; cases b; simp_all

def get? (r : Registry) (name : String) : Option String := r.entries.lookup name

/-- Sets the value of a name in a sorted list of entries. -/
def insertEntry (name value : String) : List (String × String) → List (String × String)
  | [] => [(name, value)]
  | (n, v) :: rest =>
    if name < n then (name, value) :: (n, v) :: rest
    else if name = n then (name, value) :: rest
    else (n, v) :: insertEntry name value rest

theorem fst_of_mem_insertEntry {name value : String} {l : List (String × String)}
    {p : String × String} (h : p ∈ insertEntry name value l) : p.1 = name ∨ p ∈ l := by
  induction l with
  | nil => simp_all [insertEntry]
  | cons q rest ih =>
    obtain ⟨n, v⟩ := q
    simp only [insertEntry] at h
    split at h
    · rcases List.mem_cons.1 h with rfl | h
      · exact .inl rfl
      · exact .inr h
    · split at h
      · rcases List.mem_cons.1 h with rfl | h
        · exact .inl rfl
        · exact .inr (List.mem_cons_of_mem _ h)
      · rcases List.mem_cons.1 h with rfl | h
        · exact .inr List.mem_cons_self
        · exact (ih h).imp_right (List.mem_cons_of_mem _)

theorem sorted_insertEntry {name value : String} {l : List (String × String)}
    (h : l.Pairwise (fun a b => a.1 < b.1)) :
    (insertEntry name value l).Pairwise (fun a b => a.1 < b.1) := by
  induction l with
  | nil => simp [insertEntry]
  | cons q rest ih =>
    obtain ⟨n, v⟩ := q
    obtain ⟨hn, hr⟩ := List.pairwise_cons.1 h
    simp only [insertEntry]
    split
    · rename_i lt
      refine List.pairwise_cons.2 ⟨fun p hp => ?_, h⟩
      rcases List.mem_cons.1 hp with rfl | hp
      · exact lt
      · exact String.lt_trans lt (hn p hp)
    · split
      · rename_i eq
        subst eq
        exact List.pairwise_cons.2 ⟨hn, hr⟩
      · rename_i nlt ne
        refine List.pairwise_cons.2 ⟨fun p hp => ?_, ih hr⟩
        rcases fst_of_mem_insertEntry hp with hp | hp
        · rw [hp]
          exact Std.lt_of_le_of_ne (String.not_lt.1 nlt) (Ne.symm ne)
        · exact hn p hp

/-- Registers a value, replacing what the name had. -/
def insert (r : Registry) (name value : String) : Registry :=
  ⟨insertEntry name value r.entries, sorted_insertEntry r.sorted⟩

/-- Registers a new name; a name that is known keeps its value. -/
def add (r : Registry) (name value : String) : Registry :=
  if (r.get? name).isSome then r else r.insert name value

/-- Replaces the value of a known name. -/
def update (r : Registry) (name value : String) : Registry :=
  if (r.get? name).isSome then r.insert name value else r

/-- The registry of a list in which the last value of a name counts. -/
def ofList (l : List (String × String)) : Registry :=
  l.foldl (fun r p => r.insert p.1 p.2) empty

end Registry
end EntityDesign
