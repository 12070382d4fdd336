import EntityDesign.Vocabulary

/-! What a database can be asked. An answer may move the state of the database, so that two equal
questions may have different answers. -/
namespace EntityDesign

/-- A row of the catalogue of routines. -/
structure Routine where
  type : String
  name : String
  deriving DecidableEq, Repr

/-- A declared parameter of a stored procedure. -/
structure DeclaredParameter where
  ordinal : Int
  /-- As declared, usually with its `@`. -/
  name : String
  relationalType : String
  mode : String
  deriving DecidableEq, Repr

/-- A column of a described result; computed columns may be nameless. -/
structure ResultColumn where
  name : String
  relationalType : String
  allowsNull : Bool
  deriving DecidableEq, Repr

/-- A parameter bound to a null of its type. -/
structure Binding where
  name : String
  dbType : DbType
  deriving DecidableEq, Repr

/-- A database behind one connection string. A failure is the message of the database. -/
structure Database (σ : Type) where
  connect : σ → Except String Unit × σ
  routines : σ → Except String (List Routine) × σ
  parameters : (procedure : String) → σ → Except String (List DeclaredParameter) × σ
  describe : (command : String) → CommandKind → List Binding → σ →
    Except String (List ResultColumn) × σ

end EntityDesign
