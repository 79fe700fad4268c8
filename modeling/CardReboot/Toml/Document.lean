/-!
# TOML documents

Settings are texts, whole numbers, truth values, lists and tables; fractions and
dates are told apart from them and from each other, but what they say is not kept.

Tables come into being in three ways: by a header of their own, on the way to
another header, or by a dotted key.  A header may name a table only once, but it
may come after tables inside it.  Dotted keys reach only into tables that dotted
keys made.  A header in double brackets adds a table to a list, and a path
through such a list leads to its last table.  A key may be set only once.
-/

namespace CardReboot

/-- The values of a document. -/
inductive Toml
  | string (s : String)
  | integer (n : Int)
  | fraction
  | boolean (b : Bool)
  | date
  | array (items : List Toml)
  | table (entries : List (String × Toml))
  deriving Repr

/-- How a table came into being. -/
inductive TableOrigin
  | header
  | ancestor
  | dotted
  deriving DecidableEq, Repr

/-- What stands under a key while the document is read. -/
inductive TomlNode
  | value (v : Toml)
  | table (origin : TableOrigin) (entries : List (String × TomlNode))
  /-- A list of tables, the last one first. -/
  | tables (reversed : List TomlNode)

abbrev TomlEntries := List (String × TomlNode)

namespace TomlNode

mutual

def toToml : TomlNode → Toml
  | value v => v
  | table _ entries => .table (entriesToToml entries)
  | tables reversed => .array (listToToml reversed).reverse

def entriesToToml : List (String × TomlNode) → List (String × Toml)
  | [] => []
  | (key, node) :: rest => (key, toToml node) :: entriesToToml rest

def listToToml : List TomlNode → List Toml
  | [] => []
  | node :: rest => toToml node :: listToToml rest

end

end TomlNode

namespace TomlEntries

/-- Puts another node under a key. -/
def replace (key : String) (node : TomlNode) (entries : TomlEntries) : TomlEntries :=
  entries.map fun entry => if entry.1 = key then (key, node) else entry

/-- Puts a node under a key that is not taken. -/
def add? (key : String) (node : TomlNode) (entries : TomlEntries) : Option TomlEntries :=
  if (entries.lookup key).isSome then none else some (entries ++ [(key, node)])

/-- Changes the entries of the table at the end of a path, which is told whether
dotted keys made it.  Missing tables on the way are made. -/
def alter (byDots : Bool) (change : Bool → TomlEntries → Option TomlEntries) :
    List String → Bool → TomlEntries → Option TomlEntries
  | [], isDotted, entries => change isDotted entries
  | key :: rest, _, entries =>
      match entries.lookup key with
      | none => do
          let made ← alter byDots change rest byDots []
          some (entries ++ [(key, .table (if byDots then .dotted else .ancestor) made)])
      | some (.table origin inner) =>
          if byDots ∧ origin = .header then none
          else do
            let changed ← alter byDots change rest (origin == .dotted) inner
            some (replace key (.table origin changed) entries)
      | some (.tables (.table origin inner :: earlier)) => do
          let changed ← alter byDots change rest false inner
          some (replace key (.tables (.table origin changed :: earlier)) entries)
      | some _ => none

/-- Sets a key, given by the tables on the way and its own name. -/
def set? (path : List String) (key : String) (v : Toml) (isDotted : Bool)
    (entries : TomlEntries) : Option TomlEntries :=
  let change (isDotted : Bool) (entries : TomlEntries) : Option TomlEntries :=
    if isDotted = path.isEmpty then none else add? key (.value v) entries
  alter true change path isDotted entries

end TomlEntries

/-- A document as far as it has been read, and the header that is in force. -/
structure TomlDocument where
  entries : TomlEntries := []
  header : List String := []

namespace TomlDocument

def toToml (d : TomlDocument) : Toml := .table (TomlNode.entriesToToml d.entries)

/-- Sets a key of the table whose header is in force. -/
def set? (path : List String) (key : String) (v : Toml) (d : TomlDocument) :
    Option TomlDocument := do
  let entries ← TomlEntries.alter false (TomlEntries.set? path key v) d.header false d.entries
  some { d with entries := entries }

/-- Opens a table by its header. -/
def openTable? (path : List String) (key : String) (d : TomlDocument) :
    Option TomlDocument := do
  let change (_ : Bool) (entries : TomlEntries) : Option TomlEntries :=
    match entries.lookup key with
    | none => some (entries ++ [(key, .table .header [])])
    | some (.table .ancestor inner) =>
        some (TomlEntries.replace key (.table .header inner) entries)
    | some _ => none
  let entries ← TomlEntries.alter false change path false d.entries
  some ⟨entries, path ++ [key]⟩

/-- Adds a table to a list by its header. -/
def openListed? (path : List String) (key : String) (d : TomlDocument) :
    Option TomlDocument := do
  let fresh : TomlNode := .table .header []
  let change (_ : Bool) (entries : TomlEntries) : Option TomlEntries :=
    match entries.lookup key with
    | none => some (entries ++ [(key, .tables [fresh])])
    | some (.tables reversed) =>
        some (TomlEntries.replace key (.tables (fresh :: reversed)) entries)
    | some _ => none
  let entries ← TomlEntries.alter false change path false d.entries
  some ⟨entries, path ++ [key]⟩

end TomlDocument

end CardReboot
