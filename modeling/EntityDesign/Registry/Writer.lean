import EntityDesign.Registry
import EntityDesign.Yaml.Printer

/-! A registry as a YAML document. -/
namespace EntityDesign.Registry

def data (r : Registry) : Data :=
  .record [("connections", .record (r.entries.map fun (name, value) => (name, .text value)))]

def write (r : Registry) : String := Yaml.print r.data

end EntityDesign.Registry
