import StructuredData.Requirement.File
import StructuredData.Yaml.Object

/-!
# The reader for requirement tables

The reader of YAML with which the program loads requirement tables.  How deep a file may nest is
decided by the calls that are open when it is read; the depths here are those of a program that
loads its table first of all.
-/

namespace StructuredData

namespace RequirementTable

/-- How deep the nodes of a table file may nest, and how far merged mappings and values are
followed: each level of nodes takes two calls, the others one. -/
def yamlDepths : Yaml.Depths := { nodes := 480, merges := 960, values := 960 }

/-- The reader of YAML for table files. -/
def yamlReader : Yaml.Reader := Yaml.reader yamlDepths tableDepth

end RequirementTable

end StructuredData
