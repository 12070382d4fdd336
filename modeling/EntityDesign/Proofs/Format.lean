import Mathlib.Data.List.Basic
import EntityDesign.Format
import EntityDesign.Proofs.Json.Value
import EntityDesign.Proofs.Yaml.Document

/-! What the formats keep. In JSON and in YAML different values have different texts, and the JSON
text of a value is read as an object or an array of all its parts. -/
namespace EntityDesign

section Data

theorem DbType.word_injective : Function.Injective DbType.word := by
  intro t t' h
  have hread := DbType.read_word t
  rw [h, DbType.read_word] at hread
  exact (Except.ok.inj hread).symm

theorem Data.texts_injective : Function.Injective Data.texts := by
  intro l l' h
  exact List.map_injective_iff.2 (fun _ _ => Data.text.inj) (Data.list.inj h)

theorem Parameter.data_injective : Function.Injective Parameter.data := by
  rintro ⟨name, hostType, dbType, isOutput⟩ ⟨name', hostType', dbType', isOutput'⟩ h
  simpa [data, DbType.word_injective.eq_iff] using h

theorem Column.data_injective : Function.Injective Column.data := by
  rintro ⟨name, hostType, dbType, isNullable⟩ ⟨name', hostType', dbType', isNullable'⟩ h
  simpa [data] using h

theorem Signature.data_injective : Function.Injective Signature.data := by
  rintro ⟨parameters, columns⟩ ⟨parameters', columns'⟩ h
  simpa [data, (List.map_injective_iff.2 Parameter.data_injective).eq_iff,
    (List.map_injective_iff.2 Column.data_injective).eq_iff] using h

/-- Mismatches of two kinds differ in the kind that they begin with. -/
theorem Mismatch.data_injective : Function.Injective Mismatch.data := by
  intro m m' h
  cases m <;> cases m' <;> simp_all [data]

theorem Failure.data_injective : Function.Injective Failure.data := by
  rintro ⟨query, message⟩ ⟨query', message'⟩ h
  simpa [data] using h

theorem ChangeReport.data_injective : Function.Injective ChangeReport.data := by
  rintro ⟨entity, accepted, columnsChanged, mismatches, ok, unfit, failures, suppressed⟩
    ⟨entity', accepted', columnsChanged', mismatches', ok', unfit', failures', suppressed'⟩ h
  simpa [data, Data.texts_injective.eq_iff,
    (List.map_injective_iff.2 Mismatch.data_injective).eq_iff,
    (List.map_injective_iff.2 Failure.data_injective).eq_iff] using h

end Data

section Objects
open Json

/-- The JSON object of a parameter. -/
def Parameter.object (p : Parameter) : Value :=
  .object [("name", .string p.name), ("sys_type", .string p.hostType),
    ("db_type", .string p.dbType.word), ("is_output", .boolean p.isOutput)]

/-- The JSON object of a column. -/
def Column.object (c : Column) : Value :=
  .object [("name", .string c.name), ("sys_type", .string c.hostType),
    ("db_type", .string c.dbType), ("is_nullable", .boolean c.isNullable)]

/-- The JSON object of a signature. -/
def Signature.object (s : Signature) : Value :=
  .object [("parameters", .array (s.parameters.map (·.object))),
    ("columns", .array (s.columns.map (·.object)))]

/-- The JSON object of a mismatch. -/
def Mismatch.object : Mismatch → Value
  | additional name hostType =>
    .object [("kind", .string "additional_column"), ("name", .string name),
      ("sys_type", .string hostType)]
  | differs name actual expected =>
    .object [("kind", .string "type_mismatch"), ("name", .string name),
      ("actual", .string actual), ("expected", .string expected)]
  | missing name hostType =>
    .object [("kind", .string "missing_column"), ("name", .string name),
      ("type_name", .string hostType)]

/-- The JSON object of a failure. -/
def Failure.object (f : Failure) : Value :=
  .object [("query", .string f.query), ("message", .string f.message)]

/-- The JSON object of a report. -/
def ChangeReport.object (r : ChangeReport) : Value :=
  .object [("entity", .string r.entity), ("accepted", .boolean r.accepted),
    ("columns_changed", .boolean r.columnsChanged),
    ("discrepancies", .array (r.mismatches.map (·.object))),
    ("ok", .array (r.ok.map .string)), ("errored", .array (r.unfit.map .string)),
    ("failures", .array (r.failures.map (·.object))), ("suppressed", .boolean r.suppressed)]

theorem Json.Value.ofItems_map {α : Type} {data : α → Data} {object : α → Value}
    (h : ∀ a, ofData (data a) = object a) (l : List α) : ofItems (l.map data) = l.map object := by
  induction l with
  | nil => rfl
  | cons a l ih => rw [List.map_cons, List.map_cons, ofItems, h, ih]

theorem Data.ofData_texts (l : List String) : Value.ofData (.texts l) = .array (l.map .string) :=
  congrArg Value.array (Value.ofItems_map (fun _ => rfl) l)

theorem Signature.ofData_data (s : Signature) : Value.ofData s.data = s.object := by
  simp only [data, object, Value.ofData, Value.ofFields]
  rw [Value.ofItems_map (fun p : Parameter => show Value.ofData p.data = p.object from rfl),
    Value.ofItems_map (fun c : Column => show Value.ofData c.data = c.object from rfl)]

theorem Mismatch.ofData_data (m : Mismatch) : Value.ofData m.data = m.object := by
  cases m <;> rfl

theorem ChangeReport.ofData_data (r : ChangeReport) : Value.ofData r.data = r.object := by
  simp only [data, object, Value.ofData, Value.ofFields, Data.ofData_texts]
  rw [Value.ofItems_map Mismatch.ofData_data,
    Value.ofItems_map (fun f : Failure => show Value.ofData f.data = f.object from rfl)]

end Objects

namespace Format

/-- A format in which different values have different texts. -/
structure Lossless (f : Format) : Prop where
  signature : Function.Injective fun s : Signature => s.format f
  mismatches : Function.Injective fun l : List Mismatch => Mismatch.format l f
  routines : Function.Injective fun names : List String => Routine.format names f
  report : Function.Injective fun r : ChangeReport => r.format f

/-- Nothing is lost where the text tells the data. -/
theorem lossless_of_render {f : Format} (h : ∀ {data data' : Data} {table table' : String},
    f.render data table = f.render data' table' → data = data') : f.Lossless where
  signature _ _ same := Signature.data_injective (h same)
  mismatches _ _ same := List.map_injective_iff.2 Mismatch.data_injective (Data.list.inj (h same))
  routines _ _ same := Data.texts_injective (h same)
  report _ _ same := ChangeReport.data_injective (h same)

/-- JSON and YAML lose nothing, and a JSON text is read as the object or array of the parts of its
value. -/
theorem json_yaml_lossless :
    json.Lossless ∧ yaml.Lossless ∧
      (∀ s : Signature, Json.read (s.format json) = some s.object) ∧
      (∀ l, Json.read (Mismatch.format l json) = some (.array (l.map (·.object)))) ∧
      (∀ names, Json.read (Routine.format names json) = some (.array (names.map .string))) ∧
      ∀ r : ChangeReport, Json.read (r.format json) = some r.object := by
  have hjson (data : Data) (table : String) : json.render data table = Json.print data := rfl
  refine ⟨lossless_of_render fun same => Json.print_injective same,
    lossless_of_render fun same => Yaml.print_injective same, fun s => ?_, fun l => ?_,
    fun names => ?_, fun r => ?_⟩
  · rw [Signature.format, hjson, Json.read_print, s.ofData_data]
  · rw [Mismatch.format, hjson, Json.read_print, Json.Value.ofData,
      Json.Value.ofItems_map Mismatch.ofData_data]
  · rw [Routine.format, hjson, Json.read_print, Data.ofData_texts]
  · rw [ChangeReport.format, hjson, Json.read_print, r.ofData_data]

end Format
end EntityDesign
