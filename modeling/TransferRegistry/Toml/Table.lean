import TransferRegistry.Toml.Value

/-!
# Tables of TOML

A document says piece by piece what is in its tables. `Toml.Table` is a table while it is put together: each table in
it remembers how it came about, since that decides what may still be added.

* `Toml.Table.open?` is a header `[a.b]`: it makes a table, or takes over one that so far was only on the way to
  others.
* `Toml.Table.append?` is a header `[[a.b]]`: it adds a table to an array of tables.
* `Toml.Table.assign?` is `a.b = value` below a header: it never changes what is there.
-/

namespace TransferRegistry.Toml

/-- How a table came about. -/
inductive TableOrigin where
  /-- On the way to the table of a header. -/
  | path
  /-- On the way to a value with a dotted key. -/
  | dotted
  /-- By a header of its own. -/
  | header
deriving DecidableEq

/-- What a key stands for. -/
inductive Entry where
  /-- A value that is complete. -/
  | value (v : Toml)
  | table (origin : TableOrigin) (entries : List (String × Entry))
  /-- Tables that headers added; what follows goes to the last of them. -/
  | tables (elements : List (List (String × Entry)))

/-- A table while it is put together. -/
abbrev Table := List (String × Entry)

namespace Table

/-- Gives a key another entry, in its place or at the end. -/
def put (t : Table) (key : String) (entry : Entry) : Table :=
  match t with
  | [] => [(key, entry)]
  | (k, e) :: rest => if k = key then (k, entry) :: rest else (k, e) :: put rest key entry

def changeLast? {α : Type} (f : α → Option α) : List α → Option (List α)
  | [] => none
  | [a] => (f a).map ([·])
  | a :: rest => (changeLast? f rest).map (a :: ·)

/-- Changes the table at a path; tables that are missing on the way are made. -/
def change? (f : Table → Option Table) : List String → Table → Option Table
  | [], t => f t
  | key :: path, t =>
    match t.lookup key with
    | none => (change? f path []).map fun inner => t.put key (.table .path inner)
    | some (.table origin inner) => (change? f path inner).map fun inner => t.put key (.table origin inner)
    | some (.tables elements) =>
      (changeLast? (change? f path) elements).map fun elements => t.put key (.tables elements)
    | some (.value _) => none

/-- The header of a table. -/
def open? (path : List String) (key : String) : Table → Option Table :=
  change? (fun t =>
    match t.lookup key with
    | none => some (t.put key (.table .header []))
    | some (.table .path inner) => some (t.put key (.table .header inner))
    | some _ => none) path

/-- The header of a table in an array. -/
def append? (path : List String) (key : String) : Table → Option Table :=
  change? (fun t =>
    match t.lookup key with
    | none => some (t.put key (.tables [[]]))
    | some (.tables elements) => some (t.put key (.tables (elements ++ [[]])))
    | some _ => none) path

/-- A new value of a key. -/
def define? (key : String) (v : Toml) (t : Table) : Option Table :=
  if (t.lookup key).isSome then none else some (t.put key (.value v))

/-- A new value of a dotted key, whose path goes on from a table that came about as `origin` says. The table that
gets the value has to be one of dotted keys. -/
def defineBelow? (key : String) (v : Toml) : List String → TableOrigin → Table → Option Table
  | [], origin, t => if origin = .dotted then define? key v t else none
  | k :: path, _, t =>
    match t.lookup k with
    | none => (defineBelow? key v path .dotted []).map fun inner => t.put k (.table .dotted inner)
    | some (.table .header _) => none
    | some (.table origin inner) =>
      (defineBelow? key v path origin inner).map fun inner => t.put k (.table origin inner)
    | some (.tables elements) =>
      (changeLast? (defineBelow? key v path .header) elements).map fun elements => t.put k (.tables elements)
    | some (.value _) => none

/-- A new value of a key with a path, in this table. -/
def assignHere? (path : List String) (key : String) (v : Toml) (t : Table) : Option Table :=
  match path with
  | [] => define? key v t
  | path => defineBelow? key v path .header t

/-- A new value of a key with a path, in the table of a header. -/
def assign? (header path : List String) (key : String) (v : Toml) : Table → Option Table :=
  change? (assignHere? path key v) header

mutual

/-- The entry when all is said. -/
def entryValue : Entry → Toml
  | .value v => v
  | .table _ entries => .table (entryValues entries)
  | .tables elements => .array (elementValues elements)

/-- The entries of a table when all is said. -/
def entryValues : List (String × Entry) → List (String × Toml)
  | [] => []
  | (key, e) :: rest => (key, entryValue e) :: entryValues rest

/-- The tables of an array when all is said. -/
def elementValues : List (List (String × Entry)) → List Toml
  | [] => []
  | t :: rest => .table (entryValues t) :: elementValues rest

end

/-- The table when all is said. -/
def toToml (t : Table) : Toml := .table (entryValues t)

end Table

end TransferRegistry.Toml
