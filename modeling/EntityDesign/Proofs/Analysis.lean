import EntityDesign.Analysis
import EntityDesign.Entity
import EntityDesign.Proofs.Distinct
import EntityDesign.Proofs.Lists

/-! What an analysis finds. The columns stand for the rows of the result one by one, and whatever
the database calls them they make a record: named differently by identifiers, with known types. -/
namespace EntityDesign

/-- The column stands for the row: it has its types, and its identifier or a numbered one. -/
structure Column.Represents (row : ResultColumn) (c : Column) : Prop where
  name : Distinct.Renamed (Identifier.sanitize row.name) c.name
  hostType : c.hostType = (RelationalType.ofName row.relationalType).hostName row.allowsNull
  dbType : c.dbType = (RelationalType.ofName row.relationalType).db.word
  isNullable : c.isNullable = row.allowsNull

/-- The properties describe a record. -/
structure Property.RecordShape (ps : List Property) : Prop where
  distinct : (ps.map (·.name)).Nodup
  named : ∀ p ∈ ps, p.name ≠ ""
  safe : ∀ p ∈ ps, Identifier.sanitize p.name = p.name
  known : ∀ p ∈ ps, ∃ t, DbType.read p.dbType = .ok t

theorem Property.RecordShape.nil : RecordShape [] where
  distinct := List.nodup_nil
  named := by simp
  safe := by simp
  known := by simp

namespace Column

/-- Columns with new names keep all else. -/
theorem forall₂_zipWith_name {R : String → String → Prop} {cs : List Column} {names : List String}
    (h : List.Forall₂ R (cs.map (·.name)) names) :
    List.Forall₂ (fun c c' => R c.name c'.name ∧ c' = { c with name := c'.name }) cs
      (cs.zipWith (fun c name => { c with name }) names) := by
  induction cs generalizing names with
  | nil => exact .nil
  | cons c cs ih =>
    cases h with
    | cons head tail => exact .cons ⟨head, rfl⟩ (ih tail)

theorem map_name_zipWith_name {cs : List Column} {names : List String}
    (h : names.length = cs.length) :
    (cs.zipWith (fun c name => { c with name }) names).map (·.name) = names := by
  induction cs generalizing names with
  | nil => exact (List.eq_nil_of_length_eq_zero h).symm
  | cons c cs ih =>
    cases names with
    | nil => cases h
    | cons name names => exact congrArg (name :: ·) (ih (Nat.succ.inj h))

theorem map_name_distinct (cs : List Column) :
    (distinct cs).map (·.name) = Distinct.names (cs.map (·.name)) :=
  map_name_zipWith_name (by simp)

/-- The columns stand for the rows in their order. -/
theorem represents_ofResults (rows : List ResultColumn) :
    List.Forall₂ Represents rows (ofResults rows) := by
  have h := forall₂_zipWith_name
    (Distinct.renamed_names ((rows.map ofResult).map (·.name)))
  rw [List.forall₂_map_left_iff] at h
  refine h.imp fun row c hc => ?_
  obtain ⟨hname, hrest⟩ := hc
  rw [hrest]
  exact ⟨hname, rfl, rfl, rfl⟩

theorem Represents.safe {row : ResultColumn} {c : Column} (h : Represents row c) :
    Identifier.sanitize c.name = c.name :=
  h.name.sanitize (Identifier.sanitize_sanitize row.name)

/-- The properties that describe the columns of a result describe a record. -/
theorem recordShape_ofResults (rows : List ResultColumn) :
    Property.RecordShape ((ofResults rows).map .ofColumn) := by
  have represents {c : Column} (hc : c ∈ ofResults rows) : ∃ row ∈ rows, Represents row c :=
    exists_beside_right (represents_ofResults rows) hc
  have names : ((ofResults rows).map Property.ofColumn).map (·.name) =
      (ofResults rows).map (·.name) := by
    simp [Property.ofColumn]
  constructor
  case distinct =>
    rw [names, ofResults, map_name_distinct]
    exact Distinct.nodup_names _
  all_goals
    intro p hp
    obtain ⟨c, hc, rfl⟩ := List.mem_map.1 hp
    obtain ⟨row, -, hrow⟩ := represents hc
  case named => exact hrow.name.ne_empty
  case safe => exact hrow.safe
  case known => exact ⟨_, (congrArg DbType.read hrow.dbType).trans (DbType.read_word _)⟩

end Column

namespace Database
variable {σ : Type}

/-- An analysis succeeds when a connection is opened, the parameters are known and the result is
described; it takes its columns from the description. -/
theorem analyze_eq_ok_iff (db : Database σ) (command : String) (kind : CommandKind) (s : σ)
    (sig : Signature) : (db.analyze command kind s).1 = .ok sig ↔
      isBlankText command = false ∧ (db.connect s).1 = .ok () ∧ ∃ bound rows,
        (db.bind command kind (db.connect s).2).1 = .ok (sig.parameters, bound) ∧
        (db.describe command kind bound (db.bind command kind (db.connect s).2).2).1 = .ok rows ∧
        sig.columns = Column.ofResults rows := by
  unfold analyze signature
  cases hblank : isBlankText command with
  | true => simp
  | false =>
    rcases hconnect : db.connect s with ⟨fault | ⟨⟩, s₁⟩
    · simp
    · rcases hbind : db.bind command kind s₁ with ⟨fault | ⟨parameters, bound⟩, s₂⟩
      · simp [hbind]
      · rcases hdescribe : db.describe command kind bound s₂ with ⟨fault | rows, s₃⟩
        · simp [hbind, hdescribe]
        · obtain ⟨parameters', columns'⟩ := sig
          simpa [hbind, hdescribe] using fun _ => eq_comm

end Database
end EntityDesign
