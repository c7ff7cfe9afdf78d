import ClusterScaling.Document

/-!
# From statements to a document

A TOML text is a list of statements: headers, which open a table or
append one to an array of tables, and pairs, which put a value under a
path of names inside the table that was opened last. What a statement
means depends on how the tables on its path came to be, so the tree that
is built keeps the `Origin` of each table:

* a table is **declared** by its own header, once;
* a table is **implied** by a longer header, and may still be declared;
* a table is **dotted** by a pair with a longer path, and may be extended
  by other such pairs, but not be declared.

A name that has a value is never overwritten. Where the tree refuses a
statement the whole text is refused.
-/

namespace ClusterScaling.Toml

/-- How a table came to be. -/
inductive Origin where
  /-- By a header of its own, or as the root. -/
  | declared
  /-- By the header of a table inside it. -/
  | implied
  /-- By a pair that puts something inside it. -/
  | dotted
  deriving DecidableEq, Repr

/-- What stands under a name. -/
inductive Node where
  /-- A value, which may be a sequence or an inline table. -/
  | value (d : Document)
  /-- A table. -/
  | table (origin : Origin) (entries : List (String × Node))
  /-- An array of tables, the last one first. -/
  | tables (elements : List (List (String × Node)))
  deriving Inhabited

/-- What stands inside a table. -/
abbrev Entries := List (String × Node)

/-- What stands under a name. -/
def find? (name : String) : Entries → Option Node
  | [] => none
  | e :: es => if e.1 = name then some e.2 else find? name es

/-- Puts something under a name, in place of what stood there. -/
def put (name : String) (n : Node) : Entries → Entries
  | [] => [(name, n)]
  | e :: es => if e.1 = name then (name, n) :: es else e :: put name n es

/-- How a path is followed. -/
inductive Walk where
  /-- The way of a header: through tables of any origin. -/
  | header
  /-- The way of a pair: only through tables that no header declared. -/
  | pair
  deriving DecidableEq

/-- The origin of a table that a path calls into being. -/
def Walk.origin : Walk → Origin
  | header => .implied
  | pair => .dotted

/-- Changes the table at the end of a path. The change is told the origin
of the table. An array of tables on the way stands for its last table. -/
def change (walk : Walk) (f : Origin → Entries → Option Entries) (origin : Origin) :
    List String → Entries → Option Entries
  | [], es => f origin es
  | name :: path, es =>
    match find? name es with
    | none => do
      let inner ← change walk f walk.origin path []
      pure (put name (.table walk.origin inner) es)
    | some (.value _) => none
    | some (.table o inner) =>
      if walk = .pair ∧ o = .declared then none
      else do
        let inner ← change walk f o path inner
        pure (put name (.table o inner) es)
    | some (.tables []) => none
    | some (.tables (last :: before)) => do
      let last ← change walk f .declared path last
      pure (put name (.tables (last :: before)) es)

/-- The path to a table and a name in it. -/
def splitPath? (path : List String) : Option (List String × String) :=
  path.getLast?.map fun name => (path.dropLast, name)

/-- Puts a value under a path inside a table. A path of several names ends
in a table that such pairs made; a single name ends in the table itself. -/
def insertPair (path : List String) (d : Document) (es : Entries) : Option Entries :=
  match splitPath? path with
  | none => none
  | some (way, name) =>
    change .pair
      (fun o inner =>
        if (o = .dotted ↔ way ≠ []) ∧ (find? name inner).isNone then
          some (put name (.value d) inner)
        else none)
      .declared way es

/-- Declares a table. -/
def declare (path : List String) (es : Entries) : Option Entries :=
  match splitPath? path with
  | none => none
  | some (way, name) =>
    change .header
      (fun _ inner =>
        match find? name inner with
        | none => some (put name (.table .declared []) inner)
        | some (.table .implied es) => some (put name (.table .declared es) inner)
        | some _ => none)
      .declared way es

/-- Appends a table to an array of tables. -/
def append (path : List String) (es : Entries) : Option Entries :=
  match splitPath? path with
  | none => none
  | some (way, name) =>
    change .header
      (fun _ inner =>
        match find? name inner with
        | none => some (put name (.tables [[]]) inner)
        | some (.tables elements) => some (put name (.tables ([] :: elements)) inner)
        | some _ => none)
      .declared way es

/-- A statement. -/
inductive Statement where
  /-- A value under a path inside the open table. -/
  | pair (path : List String) (d : Document)
  /-- The header of a table. -/
  | table (path : List String)
  /-- The header of a table in an array. -/
  | element (path : List String)

/-- A tree under construction and the path of the open table. -/
structure Builder where
  /-- The tree. -/
  root : Entries
  /-- The path of the table that was opened last; empty for the root. -/
  open_ : List String

/-- Nothing has been said. -/
def Builder.start : Builder := ⟨[], []⟩

/-- One more statement. -/
def Builder.add (b : Builder) : Statement → Option Builder
  | .pair path d =>
    (change .header (fun _ es => insertPair path d es) .declared b.open_ b.root).map fun root =>
      { b with root }
  | .table path => (declare path b.root).map fun root => ⟨root, path⟩
  | .element path => (append path b.root).map fun root => ⟨root, path⟩

/-- The document of a node. -/
def Node.toDocument : Node → Document
  | value d => d
  | table _ entries => .mapping (entries.attach.map fun e => (e.1.1, toDocument e.1.2))
  | tables elements =>
    .sequence (elements.attach.map fun es =>
      .mapping (es.1.attach.map fun e => (e.1.1, toDocument e.1.2))).reverse
  termination_by n => sizeOf n
  decreasing_by
    · have h := List.sizeOf_lt_of_mem e.2
      have : sizeOf e.1.2 < sizeOf e.1 := by
        rcases e.1 with ⟨a, b⟩
        simp only [Prod.mk.sizeOf_spec]
        omega
      simp only [Node.table.sizeOf_spec]
      omega
    · have h := List.sizeOf_lt_of_mem e.2
      have h' := List.sizeOf_lt_of_mem es.2
      have : sizeOf e.1.2 < sizeOf e.1 := by
        rcases e.1 with ⟨a, b⟩
        simp only [Prod.mk.sizeOf_spec]
        omega
      simp only [Node.tables.sizeOf_spec]
      omega

/-- The document that statements make, if none of them is refused. -/
def ofStatements? (ss : List Statement) : Option Document :=
  (ss.foldlM Builder.add .start).map fun b => (Node.table .declared b.root).toDocument

/-- The inline table of the given pairs. -/
def ofPairs? (ps : List (List String × Document)) : Option Document :=
  (ps.foldlM (fun es p => insertPair p.1 p.2 es) []).map fun es =>
    (Node.table .declared es).toDocument

end ClusterScaling.Toml
