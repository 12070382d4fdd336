/-! Database-portable types, the two ways to read a command and the ways to execute it. -/
namespace EntityDesign

/-- The closed vocabularies whose words are stored in documents. -/
inductive Vocabulary where
  | dbType | commandKind | execution | connectionSource
  deriving DecidableEq, Repr

def Vocabulary.title : Vocabulary → String
  | dbType => "db type"
  | commandKind => "command type"
  | execution => "execute method"
  | connectionSource => "connection storage"

/-- A text that is no word of a vocabulary. -/
structure UnknownWord where
  vocabulary : Vocabulary
  text : String
  deriving DecidableEq, Repr

def UnknownWord.message (e : UnknownWord) : String :=
  "unknown " ++ e.vocabulary.title ++ ": " ++ e.text

/-- The value whose word is `text`. -/
def readWord {α : Type} (vocabulary : Vocabulary) (all : List α) (word : α → String)
    (text : String) : Except UnknownWord α :=
  match all.find? (word · == text) with
  | some a => .ok a
  | none => .error ⟨vocabulary, text⟩

/-- A text can be read if it is the word of a value. -/
theorem isOk_readWord_iff {α : Type} {vocabulary : Vocabulary} {all : List α} {word : α → String}
    {text : String} : (readWord vocabulary all word text).isOk = true ↔
      ∃ a ∈ all, word a = text := by
  rw [readWord]
  split
  · rename_i a found
    exact iff_of_true rfl ⟨a, List.mem_of_find?_eq_some found, by simpa using List.find?_some found⟩
  · rename_i missing
    refine iff_of_false Bool.false_ne_true ?_
    rintro ⟨a, ha, same⟩
    exact List.find?_eq_none.1 missing a ha (by simpa using same)

/-- Types used to bind parameters and to tag columns. -/
inductive DbType where
  | ansiString | binary | byte | boolean | currency | date | dateTime | decimal | double | guid
  | int16 | int32 | int64 | object | sByte | single | string | time | uInt16 | uInt32 | uInt64
  | varNumeric | ansiStringFixedLength | stringFixedLength | xml | dateTime2 | dateTimeOffset
  deriving DecidableEq, Repr, Inhabited

namespace DbType

def all : List DbType := [
  ansiString, binary, byte, boolean, currency, date, dateTime, decimal, double, guid,
  int16, int32, int64, object, sByte, single, string, time, uInt16, uInt32, uInt64,
  varNumeric, ansiStringFixedLength, stringFixedLength, xml, dateTime2, dateTimeOffset]

def word : DbType → String
  | ansiString => "AnsiString"
  | binary => "Binary"
  | byte => "Byte"
  | boolean => "Boolean"
  | currency => "Currency"
  | date => "Date"
  | dateTime => "DateTime"
  | decimal => "Decimal"
  | double => "Double"
  | guid => "Guid"
  | int16 => "Int16"
  | int32 => "Int32"
  | int64 => "Int64"
  | object => "Object"
  | sByte => "SByte"
  | single => "Single"
  | string => "String"
  | time => "Time"
  | uInt16 => "UInt16"
  | uInt32 => "UInt32"
  | uInt64 => "UInt64"
  | varNumeric => "VarNumeric"
  | ansiStringFixedLength => "AnsiStringFixedLength"
  | stringFixedLength => "StringFixedLength"
  | xml => "Xml"
  | dateTime2 => "DateTime2"
  | dateTimeOffset => "DateTimeOffset"

def read (text : String) : Except UnknownWord DbType := readWord .dbType all word text

theorem mem_all (t : DbType) : t ∈ all := by cases t <;> decide

@[simp] theorem read_word (t : DbType) : read t.word = .ok t := by cases t <;> rfl

theorem isOk_read_iff (text : String) : (read text).isOk = true ↔ ∃ t : DbType, t.word = text := by
  rw [read, isOk_readWord_iff]
  exact ⟨fun ⟨t, _, same⟩ => ⟨t, same⟩, fun ⟨t, same⟩ => ⟨t, mem_all t, same⟩⟩

end DbType

/-- How a command text is understood. -/
inductive CommandKind where
  | text | procedure
  deriving DecidableEq, Repr, Inhabited

namespace CommandKind

def all : List CommandKind := [text, procedure]

def word : CommandKind → String
  | text => "Text"
  | procedure => "StoredProcedure"

def read (s : String) : Except UnknownWord CommandKind := readWord .commandKind all word s

@[simp] theorem read_word (t : CommandKind) : read t.word = .ok t := by cases t <;> rfl

end CommandKind

/-- How a query is executed. Only readers return rows. -/
inductive Execution where
  | reader | scalar | nonQuery
  deriving DecidableEq, Repr, Inhabited

namespace Execution

def all : List Execution := [reader, scalar, nonQuery]

def word : Execution → String
  | reader => "Reader"
  | scalar => "Scalar"
  | nonQuery => "NonQuery"

def read (s : String) : Except UnknownWord Execution := readWord .execution all word s

@[simp] theorem read_word (m : Execution) : read m.word = .ok m := by cases m <;> rfl

end Execution

/-- Where a connection string is looked up at run time. -/
inductive ConnectionSource where
  | webConfig | settings
  deriving DecidableEq, Repr, Inhabited

namespace ConnectionSource

def all : List ConnectionSource := [webConfig, settings]

def word : ConnectionSource → String
  | webConfig => "webconfig"
  | settings => "settings"

def read (s : String) : Except UnknownWord ConnectionSource :=
  readWord .connectionSource all word s

@[simp] theorem read_word (s : ConnectionSource) : read s.word = .ok s := by cases s <;> rfl

end ConnectionSource
end EntityDesign
