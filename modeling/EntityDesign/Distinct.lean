/-! Making the names of a list pairwise distinct, from left to right. -/
namespace EntityDesign.Distinct

/-- What a nameless entry is called before its number. -/
def unnamed : String := "Column"

def numbered (base : String) (k : Nat) : String := base ++ toString k

/-- The first of `base1`, `base2`, … that is not taken. One more candidate than there are taken
names suffices. -/
def fresh (base : String) (taken : List String) : String :=
  (((List.range (taken.length + 1)).map fun k => numbered base (k + 1)).find? (· ∉ taken)).getD base

/-- The name for an entry that stands between the finished names `done` and the rest. -/
def rename (done : List String) (name : String) (rest : List String) : String :=
  if name = "" then fresh unnamed (done ++ rest)
  else if name ∈ done then fresh name (done ++ rest)
  else name

def namesFrom (done : List String) : List String → List String
  | [] => done
  | name :: rest => namesFrom (done ++ [rename done name rest]) rest

/-- Numbers nameless and repeated entries so that all names differ. -/
def names (raw : List String) : List String := namesFrom [] raw

@[simp] theorem namesFrom_nil (done : List String) : namesFrom done [] = done := rfl

@[simp] theorem length_namesFrom (done raw : List String) :
    (namesFrom done raw).length = done.length + raw.length := by
  induction raw generalizing done with
  | nil => simp
  | cons name rest ih => simp [namesFrom, ih]; omega

@[simp] theorem length_names (raw : List String) : (names raw).length = raw.length := by
  simp [names]

end EntityDesign.Distinct
