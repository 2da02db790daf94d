/-!
# TOML values

The tree that a TOML document stands for. Of the numbers only integers keep their value, of dates
and times only that they were there.
-/
namespace MeshRouting.Toml

inductive Scalar where
  | string (value : String)
  | integer (value : Int64)
  | float
  | boolean (value : Bool)
  | datetime
  deriving DecidableEq, Repr

/-- How a table came about: by a header of its own, on the way to the header of another table,
by a dotted key, or written out as a value. -/
inductive TableOrigin where
  | header
  | implied
  | dotted
  | inline
  deriving DecidableEq, Repr

/-- Tables in a row come from headers in double brackets. -/
inductive Node where
  | scalar (value : Scalar)
  | array (items : List Node)
  | table (origin : TableOrigin) (members : List (String × Node))
  | tables (items : List (List (String × Node)))
  deriving Repr

abbrev Members := List (String × Node)

end MeshRouting.Toml
