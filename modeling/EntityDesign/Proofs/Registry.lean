import EntityDesign.Proofs.Directory
import EntityDesign.Proofs.Yaml.Document
import EntityDesign.Storage

/-! A registry that is stored is loaded again, whatever its names and values are made of. -/
namespace EntityDesign.Registry
open Yaml

section Entries

/-- A name behind all others is added at the end. -/
theorem insertEntry_of_last {name value : String} {l : List (String × String)}
    (last : ∀ p ∈ l, p.1 < name) : insertEntry name value l = l ++ [(name, value)] := by
  induction l with
  | nil => rfl
  | cons p l ih =>
    obtain ⟨hp, last⟩ := List.forall_mem_cons.1 last
    rw [insertEntry, if_neg (String.lt_asymm hp), if_neg, ih last, List.cons_append]
    rintro rfl
    exact String.lt_irrefl _ hp

theorem entries_foldl_insert (r : Registry) {l : List (String × String)}
    (sorted : (r.entries ++ l).Pairwise (fun a b => a.1 < b.1)) :
    (l.foldl (fun r p => r.insert p.1 p.2) r).entries = r.entries ++ l := by
  induction l generalizing r with
  | nil => simp
  | cons p l ih =>
    have last : ∀ q ∈ r.entries, q.1 < p.1 := fun q hq =>
      (List.pairwise_append.1 sorted).2.2 q hq p List.mem_cons_self
    have hinsert : (r.insert p.1 p.2).entries = r.entries ++ [p] := insertEntry_of_last last
    rw [List.foldl_cons, ih _ (by rwa [hinsert, List.append_assoc]), hinsert, List.append_assoc]
    rfl

theorem ofList_entries (r : Registry) : ofList r.entries = r :=
  Registry.ext (entries_foldl_insert empty r.sorted)

end Entries

section Read

theorem mapM_ofFields (l : List (String × String)) :
    (Node.ofFields (l.map fun (name, value) => (name, .text value))).mapM
      (fun (name, value) => do return (← text name, ← text value)) = .ok l := by
  induction l with
  | nil => rfl
  | cons p l ih =>
    rw [List.map_cons, Node.ofFields, List.mapM_cons, ih]
    rfl

theorem ofConnections_mapping (l : List (String × String)) :
    ofConnections (.mapping (Node.ofFields (l.map fun (name, value) => (name, .text value)))) =
      .ok (ofList l) :=
  congrArg (Except.map ofList) (mapM_ofFields l)

/-- The value that stands for a registry is read as the registry. -/
theorem ofNode_data (r : Registry) : ofNode (Node.ofData r.data) = .ok r := by
  have connections := ofConnections_mapping r.entries
  rw [ofList_entries] at connections
  exact connections

/-- Printable text begins with no byte order mark. -/
theorem dropMark_of_printable {s : List Char} (h : ∀ c ∈ s, isPrintable c = true) :
    Text.dropMark s = s := by
  unfold Text.dropMark
  split
  · exact absurd (h _ List.mem_cons_self) (by decide)
  · rfl

theorem read_of_write (r : Registry) : read (Text.dropMark r.write.toList) = .ok r := by
  rw [write, dropMark_of_printable (printable_print r.data), read, read_print]
  exact ofNode_data r

end Read

section Storage
variable {dir dir' : Directory} {path : String} {r : Registry}

theorem save_eq_ok_iff :
    r.save path dir = .ok dir' ↔ dir.write path (.text r.write) = .ok dir' := by
  rw [save]
  cases dir.write path (.text r.write) <;> simp [Except.mapError]

theorem load_of_holds (h : dir.read path = .ok (.text r.write)) : load dir path = .ok r := by
  rw [load, h, ofFile, read_of_write]
  rfl

/-- Whether a registry can be stored depends on the path alone, and not on its names and values.
Once it is stored, its file holds its document, no other file has changed, and the path gives the
same registry again. -/
theorem save_load_exact (r : Registry) (path : String) (dir : Directory) :
    ((∃ dir', r.save path dir = .ok dir') ↔
      ∃ p, dir.place path = .ok p ∧ dir.entryAt p ≠ some .folder) ∧
    ∀ dir', r.save path dir = .ok dir' →
      dir.Replaced path (.text r.write) dir' ∧ load dir' path = .ok r ∧
        loadOrEmpty dir' path = .ok r := by
  refine ⟨?_, fun dir' h => ?_⟩
  · simp only [save_eq_ok_iff, Directory.write_eq_ok_iff]
    constructor
    · rintro ⟨dir', p, hp, hfile, -⟩
      exact ⟨p, hp, hfile⟩
    · rintro ⟨p, hp, hfile⟩
      exact ⟨_, p, hp, hfile, rfl⟩
  · have replaced := Directory.replaced_of_write (save_eq_ok_iff.1 h)
    have hload := load_of_holds replaced.holds
    refine ⟨replaced, hload, ?_⟩
    rw [loadOrEmpty, ofFileOrEmpty, ← load, hload]

/-- Names and values of every style: empty, padded, quoted, numeric, with marks and on several
lines. -/
def sample : Registry where
  entries := [("", "null"), ("a: b # c", " padded\t"), ("it's", "first\n  second\n\n"),
    ("key", "Data Source=app.db"), ("two\nlines", "\x00\u2028"), ("yes", "0x1F")]
  sorted := by decide +kernel

/-- The registry is stored beside another file and loaded again. -/
theorem save_load_sample : ∃ dir' : Directory,
    sample.save "connections.yaml" ⟨[(["notes.txt"], .file (.text "keep"))]⟩ = .ok dir' ∧
      load dir' "connections.yaml" = .ok sample ∧
      loadOrEmpty dir' "connections.yaml" = .ok sample := by
  obtain ⟨place, stored⟩ :=
    save_load_exact sample "connections.yaml" ⟨[(["notes.txt"], .file (.text "keep"))]⟩
  obtain ⟨dir', h⟩ := place.2 ⟨["connections.yaml"], by decide +kernel, by decide +kernel⟩
  exact ⟨dir', h, (stored dir' h).2⟩

end Storage
end EntityDesign.Registry
