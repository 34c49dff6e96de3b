import ServiceStubs.Value

/-!
# Declarations

What a set of schema files declares, as a flat sequence. Only names are kept, and for a service
the rows of its methods. Names and rows are loose values, because declarations may also be
handed in by a caller.
-/

namespace ServiceStubs

/-- A method before it is checked: a marker, its name, the request and response types and the two
streaming flags. -/
abbrev Row := List Value

/-- One declaration of a schema file. -/
inductive Declaration where
  | package (name : Value)
  | message (name : Value)
  | enumeration (name : Value)
  | service (name : Value) (rows : List Row)

end ServiceStubs
