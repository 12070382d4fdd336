import EntityDesign.Vocabulary

/-! Names of types: relational names as databases report them, and host names as generated code
spells them. -/
namespace EntityDesign

/-- What a relational type name means. -/
structure RelationalType where
  /-- The host name of its values. -/
  host : String
  /-- Whether the host name takes a nullable marker. -/
  isValue : Bool
  db : DbType
  deriving DecidableEq, Repr

namespace RelationalType

def table : List (String × RelationalType) := [
  ("bigint", ⟨"long", true, .int64⟩),
  ("smallint", ⟨"short", true, .int16⟩),
  ("int", ⟨"int", true, .int32⟩),
  ("tinyint", ⟨"byte", true, .byte⟩),
  ("bit", ⟨"bool", true, .boolean⟩),
  ("uniqueidentifier", ⟨"Guid", true, .guid⟩),
  ("smalldatetime", ⟨"DateTime", true, .dateTime⟩),
  ("datetime", ⟨"DateTime", true, .dateTime⟩),
  ("datetime2", ⟨"DateTime", true, .dateTime⟩),
  ("date", ⟨"DateTime", true, .dateTime⟩),
  ("time", ⟨"TimeSpan", true, .time⟩),
  ("datetimeoffset", ⟨"DateTimeOffset", true, .dateTimeOffset⟩),
  ("float", ⟨"double", true, .double⟩),
  ("real", ⟨"double", true, .single⟩),
  ("numeric", ⟨"decimal", true, .decimal⟩),
  ("decimal", ⟨"decimal", true, .decimal⟩),
  ("smallmoney", ⟨"decimal", true, .currency⟩),
  ("money", ⟨"decimal", true, .currency⟩),
  ("image", ⟨"byte[]", false, .binary⟩),
  ("binary", ⟨"byte[]", false, .binary⟩),
  ("varbinary", ⟨"byte[]", false, .binary⟩),
  ("timestamp", ⟨"byte[]", false, .binary⟩),
  ("varchar", ⟨"string", false, .ansiString⟩),
  ("text", ⟨"string", false, .ansiString⟩),
  ("nvarchar", ⟨"string", false, .string⟩),
  ("nchar", ⟨"string", false, .string⟩),
  ("ntext", ⟨"string", false, .string⟩),
  ("sql_variant", ⟨"string", false, .string⟩),
  ("sysname", ⟨"string", false, .string⟩),
  ("char", ⟨"string", false, .ansiStringFixedLength⟩),
  ("xml", ⟨"string", false, .xml⟩)]

/-- The meaning of a relational name; names are case-sensitive and unknown ones mean text. -/
def ofName (name : String) : RelationalType :=
  (table.lookup name).getD ⟨"string", false, .ansiString⟩

/-- The host name of a value of type `t` that may be null. -/
def hostName (t : RelationalType) (nullable : Bool) : String :=
  if nullable && t.isValue then t.host ++ "?" else t.host

end RelationalType

namespace HostName

/-- The host name of parameters whose type is not known. -/
def object : String := "object"

def table : List (String × DbType) := [
  ("byte", .byte), ("Byte", .byte),
  ("sbyte", .sByte), ("SByte", .sByte),
  ("short", .int16), ("Int16", .int16),
  ("ushort", .uInt16), ("UInt16", .uInt16),
  ("int", .int32), ("Int32", .int32),
  ("uint", .uInt32), ("UInt32", .uInt32),
  ("long", .int64), ("Int64", .int64),
  ("ulong", .uInt64), ("UInt64", .uInt64),
  ("float", .single),
  ("double", .double), ("Double", .double),
  ("decimal", .decimal), ("Decimal", .decimal),
  ("bool", .boolean), ("Boolean", .boolean),
  ("string", .string), ("String", .string),
  ("char", .stringFixedLength), ("Char", .stringFixedLength),
  ("Guid", .guid),
  ("DateTime", .dateTime),
  ("DateTimeOffset", .dateTimeOffset),
  ("byte[]", .binary)]

/-- A name without its trailing nullable markers. -/
def bare (name : String) : String :=
  String.ofList (name.toList.reverse.dropWhile (· == '?')).reverse

/-- Whether a name ends with the nullable marker. -/
def isNullable (name : String) : Bool := name.toList.getLast? == some '?'

/-- The database type of a host name, if the name is known. -/
def dbType? (name : String) : Option DbType := table.lookup (bare name)

end HostName
end EntityDesign
