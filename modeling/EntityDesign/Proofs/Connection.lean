import EntityDesign.Design

/-! Where the connection string of a design comes from. The first source that is set counts, and the
empty string stands for none; but an empty string that is registered under the name of the
connection hides the one in the document. -/
namespace EntityDesign
namespace Design

/-- A source of connection strings that gives none. -/
def Unset (source : Option String) : Prop := source = none ∨ source = some ""

/-- The first string of some sources that is not empty, or none if there is no such string. -/
def FirstSet (sources : List (Option String)) : Option String → Prop
  | some text => text ≠ "" ∧ ∃ before behind, sources = before ++ some text :: behind ∧
      ∀ source ∈ before, Unset source
  | none => ∀ source ∈ sources, Unset source

section FirstSet
variable {source : Option String} {sources : List (Option String)} {text : String}
  {result : Option String}

theorem not_unset_some (nonempty : text ≠ "") : ¬Unset (some text) := by
  rintro (h | h)
  · cases h
  · exact nonempty (Option.some.inj h)

@[simp] theorem firstSet_nil_iff : FirstSet [] result ↔ result = none := by
  cases result <;> simp [FirstSet]

theorem firstSet_cons_of_unset (unset : Unset source) :
    FirstSet (source :: sources) result ↔ FirstSet sources result := by
  cases result with
  | none => exact List.forall_mem_cons.trans (and_iff_right unset)
  | some text =>
    constructor
    · rintro ⟨nonempty, before, behind, split, unset_before⟩
      cases before with
      | nil =>
        obtain ⟨rfl, -⟩ := List.cons.inj split
        exact absurd unset (not_unset_some nonempty)
      | cons _ before =>
        exact ⟨nonempty, before, behind, (List.cons.inj split).2,
          (List.forall_mem_cons.1 unset_before).2⟩
    · rintro ⟨nonempty, before, behind, rfl, unset_before⟩
      exact ⟨nonempty, source :: before, behind, rfl,
        List.forall_mem_cons.2 ⟨unset, unset_before⟩⟩

theorem firstSet_cons_of_set (nonempty : text ≠ "") :
    FirstSet (some text :: sources) result ↔ result = some text := by
  have set := not_unset_some nonempty
  constructor
  · cases result with
    | none => exact fun h => absurd (h _ List.mem_cons_self) set
    | some text' =>
      rintro ⟨-, before, behind, split, unset_before⟩
      cases before with
      | nil => exact (List.cons.inj split).1.symm
      | cons _ before =>
        obtain ⟨rfl, -⟩ := List.cons.inj split
        exact absurd (unset_before _ List.mem_cons_self) set
  · rintro rfl
    exact ⟨nonempty, [], sources, rfl, fun _ h => absurd h List.not_mem_nil⟩

theorem firstSet_singleton_iff :
    FirstSet [some text] result ↔ (if text = "" then none else some text) = result := by
  by_cases empty : text = ""
  · rw [if_pos empty, firstSet_cons_of_unset (.inr (congrArg some empty)), firstSet_nil_iff,
      eq_comm]
  · rw [if_neg empty, firstSet_cons_of_set empty, eq_comm]

end FirstSet

section Resolve
variable {d : Design} {r : Registry} {text : String}

/-- The string registered under the name of the connection, if there is a name. -/
def registered (d : Design) (r : Registry) : Option String :=
  if d.connection.name = "" then none else r.get? d.connection.name

/-- The sources of the connection string, the one that wins first. -/
def sources (d : Design) (r : Registry) : List (Option String) :=
  [d.override, d.registered r, some d.connection.text]

/-- An empty string is registered where the sources are asked beyond the override. -/
structure Masked (d : Design) (r : Registry) : Prop where
  override : Unset d.override
  registered : d.registered r = some ""

theorem resolve_of_override (h : d.override = some text) (nonempty : text ≠ "") :
    d.resolve r = some text := by
  rw [resolve, h, Option.filter_some, if_pos (by simpa using nonempty)]

theorem resolve_of_unset (h : Unset d.override) : d.resolve r =
    (d.registered r).or (if d.connection.text = "" then none else some d.connection.text) := by
  have passed : d.override.filter (· ≠ "") = none := by
    rcases h with h | h <;> rw [h] <;> rfl
  rw [resolve, passed]
  change (match d.registered r with | some text => some text | none => _) = _
  cases d.registered r <;> rfl

theorem Masked.resolve (h : d.Masked r) : d.resolve r = some "" := by
  rw [resolve_of_unset h.override, h.registered, Option.some_or]

theorem resolve_eq_iff_firstSet (clear : ¬d.Masked r) (result : Option String) :
    d.resolve r = result ↔ FirstSet (d.sources r) result := by
  rw [sources]
  by_cases unset : Unset d.override
  · rw [firstSet_cons_of_unset unset, resolve_of_unset unset]
    cases found : d.registered r with
    | none => rw [Option.none_or, firstSet_cons_of_unset (.inl rfl), firstSet_singleton_iff]
    | some text =>
      have nonempty : text ≠ "" := by
        rintro rfl
        exact clear ⟨unset, found⟩
      rw [Option.some_or, firstSet_cons_of_set nonempty, eq_comm]
  · rw [Unset, not_or] at unset
    obtain ⟨text, htext⟩ := Option.ne_none_iff_exists'.1 unset.1
    have nonempty : text ≠ "" := by
      rintro rfl
      exact unset.2 htext
    rw [resolve_of_override htext nonempty, htext, firstSet_cons_of_set nonempty, eq_comm]

end Resolve

/-- The first source that is set gives the connection string, and there is none exactly when no
source is set, unless an empty string is registered and asked for. Then that is the answer, and
nowhere else is the answer empty. -/
theorem resolve_firstSet_unless_masked (d : Design) (r : Registry) :
    ((∀ result, d.resolve r = result ↔ FirstSet (d.sources r) result) ↔ ¬d.Masked r) ∧
      (d.resolve r = some "" ↔ d.Masked r) := by
  have not_empty : ¬FirstSet (d.sources r) (some "") := fun h => h.1 rfl
  by_cases masked : d.Masked r
  · have empty := masked.resolve
    exact ⟨iff_of_false (fun h => not_empty ((h _).1 empty)) fun clear => clear masked,
      iff_of_true empty masked⟩
  · have first := resolve_eq_iff_firstSet masked
    exact ⟨iff_of_true first masked,
      iff_of_false (fun empty => not_empty ((first _).1 empty)) masked⟩

/-- A design that names an entry of the registry and has a connection string of its own. -/
def reporting : Design := { connection := { name := "Main", text := "stored.db" } }

def emptyMain : Registry := Registry.empty.insert "Main" ""

/-- The empty entry hides the string of the document. -/
theorem not_firstSet_reporting :
    reporting.resolve emptyMain = some "" ∧
      FirstSet (reporting.sources emptyMain) (some "stored.db") ∧
      ¬FirstSet (reporting.sources emptyMain) (reporting.resolve emptyMain) := by
  have empty : reporting.resolve emptyMain = some "" := by decide +kernel
  refine ⟨empty, ⟨by decide, [none, some ""], [], by decide +kernel, ?_⟩, ?_⟩
  · intro source h
    simpa [Unset] using h
  · rw [empty]
    exact fun h => h.1 rfl

end Design
end EntityDesign
