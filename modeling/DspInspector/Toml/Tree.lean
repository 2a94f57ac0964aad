import DspInspector.Toml.Value

/-!
# Documents as trees

A document is built statement by statement. A table may be opened by a header only once, but it may
have come into being before: on the way to another header, or by a dotted name. What is allowed
afterwards depends on how it came into being.
-/

namespace DspInspector.Toml

/-- How a table came into being. -/
inductive Origin where
  | header
  /-- On the way to the header of another table. -/
  | passed
  /-- On the way through a dotted name. -/
  | dotted
  deriving DecidableEq

/-- What a name stands for while a document is built. -/
inductive Node where
  | leaf (value : Value)
  | table (origin : Origin) (members : List (String × Node))
  /-- The tables that were opened under one name, and the last of them. -/
  | tables (earlier : List (List (String × Node))) (last : List (String × Node))

/-- The members of a table. -/
abbrev Members := List (String × Node)

namespace Members

/-- The members with another node under a name. -/
def put (name : String) (node : Node) (members : Members) : Members :=
  if (members.lookup name).isSome then
    members.map fun member => if member.1 = name then (name, node) else member
  else members ++ [(name, node)]

/-- Puts a value under a dotted name. Under the last part, there must not be anything, and what the
parts before it lead through must not have been opened by a header. `mayAdd` tells whether values may
be added to these members. -/
def assign (value : Value) : (mayAdd : Bool) → (names : List String) → Members → Option Members
  | _, [], _ => none
  | mayAdd, [name], members =>
    if mayAdd && (members.lookup name).isNone then some (members.put name (.leaf value)) else none
  | _, name :: names, members =>
    match members.lookup name with
    | none => do
      let inner ← assign value true names []
      some (members.put name (.table .dotted inner))
    | some (.leaf _) => none
    | some (.table .header _) => none
    | some (.table origin inner) => do
      let inner ← assign value (origin == .dotted) names inner
      some (members.put name (.table origin inner))
    | some (.tables earlier last) => do
      let last ← assign value false names last
      some (members.put name (.tables earlier last))

/-- Changes the members of the table that a path of headers leads to, the last one where there are
several. Tables on the way come into being. -/
def change (edit : Members → Option Members) : (path : List String) → Members → Option Members
  | [], members => edit members
  | name :: path, members =>
    match members.lookup name with
    | none => do
      let inner ← change edit path []
      some (members.put name (.table .passed inner))
    | some (.leaf _) => none
    | some (.table origin inner) => do
      let inner ← change edit path inner
      some (members.put name (.table origin inner))
    | some (.tables earlier last) => do
      let last ← change edit path last
      some (members.put name (.tables earlier last))

/-- Opens a table under a name. -/
def openTable (name : String) (members : Members) : Option Members :=
  match members.lookup name with
  | none => some (members.put name (.table .header []))
  | some (.table .passed inner) => some (members.put name (.table .header inner))
  | _ => none

/-- Opens one more table of an array under a name. -/
def openNext (name : String) (members : Members) : Option Members :=
  match members.lookup name with
  | none => some (members.put name (.tables [] []))
  | some (.tables earlier last) => some (members.put name (.tables (earlier ++ [last]) []))
  | _ => none

end Members

mutual

/-- What a node comes to when the document is complete. -/
def Node.value : Node → Value
  | .leaf value => value
  | .table _ members => .table (membersValue members)
  | .tables earlier last => .array (tablesValue earlier ++ [.table (membersValue last)])

/-- The members of a complete table. -/
def membersValue : List (String × Node) → List (String × Value)
  | [] => []
  | (name, node) :: members => (name, node.value) :: membersValue members

/-- The tables of a complete array. -/
def tablesValue : List (List (String × Node)) → List Value
  | [] => []
  | members :: tables => .table (membersValue members) :: tablesValue tables

end

/-- A statement of a document. -/
inductive Statement where
  | assign (names : List String) (value : Value)
  | openTable (path : List String)
  | openNext (path : List String)

/-- A document being built: everything so far, and the path of the table that is open. -/
structure Draft where
  root : Members
  path : List String

namespace Draft

/-- A document without statements. -/
def blank : Draft := ⟨[], []⟩

/-- Adds a statement. -/
def add (draft : Draft) : Statement → Option Draft
  | .assign names value => do
    let root ← Members.change (Members.assign value true names) draft.path draft.root
    some { draft with root }
  | .openTable path => do
    let name ← path.getLast?
    let root ← Members.change (Members.openTable name) path.dropLast draft.root
    some ⟨root, path⟩
  | .openNext path => do
    let name ← path.getLast?
    let root ← Members.change (Members.openNext name) path.dropLast draft.root
    some ⟨root, path⟩

end Draft

/-- The table that statements describe. -/
def tableOf (statements : List Statement) : Option Value := do
  let draft ← statements.foldlM Draft.add Draft.blank
  some (.table (membersValue draft.root))

end DspInspector.Toml
