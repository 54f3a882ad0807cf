/-!
# TOML values and documents

A document is a sequence of statements: fields, table headers and headers of tables in an array.
Reading them in turn builds up a tree in which every table remembers how it came about, because
that decides what may still be added to it. A header may state a table that was only implied by
longer headers; a dotted field may extend only tables that dotted fields made.
-/

namespace Subtitler

/-- A value. Floats and moments of time keep their text. -/
inductive Toml
  | text (s : String)
  | integer (n : Int)
  | float (text : String)
  | bool (b : Bool)
  | moment (text : String)
  | array (items : List Toml)
  | table (fields : List (String × Toml))
deriving Repr, Inhabited

namespace Toml

/-! ## Tables under construction -/

/-- How a table came about: by a header or braces, by a longer header, or by a dotted field. -/
inductive Origin
  | stated
  | implied
  | dotted
deriving DecidableEq, Repr

/-- What a name stands for while a document is read. An array of tables has at least one table. -/
inductive Node
  | value (v : Toml)
  | table (origin : Origin) (fields : List (String × Node))
  | tables (earlier : List (List (String × Node))) (last : List (String × Node))

/-- The fields of a table under construction. -/
abbrev Fields := List (String × Node)

/-- Replaces what a name stands for, or adds the name at the end. -/
def update (name : String) (f : Option Node → Option Node) : Fields → Option Fields
  | [] => (f none).map fun node => [(name, node)]
  | (other, node) :: rest =>
    if other = name then (f (some node)).map fun node => (other, node) :: rest
    else (update name f rest).map ((other, node) :: ·)

/-- Goes down a path of names and changes the fields of the table there. On the way an array of
tables stands for its last table, and missing tables are made; `dotted` says whether the path
belongs to a field or to a header. -/
def descend (dotted : Bool) (act : Origin → Fields → Option Fields) :
    List String → Origin → Fields → Option Fields
  | [], origin, fields => act origin fields
  | name :: path, _, fields =>
    update name
      (fun
        | none =>
          let origin := if dotted then .dotted else .implied
          (descend dotted act path origin []).map (.table origin)
        | some (.value _) => none
        | some (.table origin inner) =>
          if dotted ∧ origin = .stated then none
          else (descend dotted act path origin inner).map (.table origin)
        | some (.tables earlier last) =>
          (descend dotted act path .stated last).map (.tables earlier))
      fields

/-- A field: the path to its table, its name and its value. -/
structure Field where
  path : List String
  name : String
  value : Toml

/-- Adds a field to a table. A path leads only to tables that dotted fields made. -/
def addField (field : Field) : Fields → Option Fields :=
  descend true
    (fun origin fields =>
      if !field.path.isEmpty && origin != .dotted then none
      else
        update field.name
          (fun
            | none => some (.value field.value)
            | some _ => none)
          fields)
    field.path .stated

/-- A statement of a document. -/
inductive Statement
  | field (f : Field)
  | header (path : List String) (name : String)
  | item (path : List String) (name : String)

/-- A document so far: the path of the table that fields go to, and all fields. -/
structure Progress where
  current : List String
  fields : Fields

/-- Takes a statement into a document. -/
def Progress.add (p : Progress) : Statement → Option Progress
  | .field f => do
    let fields ← descend false (fun _ fields => addField f fields) p.current .stated p.fields
    some { p with fields }
  | .header path name => do
    let state : Option Node → Option Node
      | none => some (.table .stated [])
      | some (.table .implied fields) => some (.table .stated fields)
      | _ => none
    let fields ← descend false (fun _ => update name state) path .stated p.fields
    some ⟨path ++ [name], fields⟩
  | .item path name => do
    let append : Option Node → Option Node
      | none => some (.tables [] [])
      | some (.tables earlier last) => some (.tables (earlier ++ [last]) [])
      | _ => none
    let fields ← descend false (fun _ => update name append) path .stated p.fields
    some ⟨path ++ [name], fields⟩

/-! ## Finished tables -/

mutual

/-- The value that a node has become. -/
def Node.finish : Node → Toml
  | .value v => v
  | .table _ fields => .table (finishFields fields)
  | .tables earlier last => .array (finishTables earlier ++ [.table (finishFields last)])

/-- The values of finished fields. -/
def finishFields : List (String × Node) → List (String × Toml)
  | [] => []
  | (name, node) :: rest => (name, node.finish) :: finishFields rest

/-- The tables of a finished array. -/
def finishTables : List (List (String × Node)) → List Toml
  | [] => []
  | fields :: rest => .table (finishFields fields) :: finishTables rest

end

/-- The table that the given fields make up, if they agree with each other. -/
def ofFields? (fields : List Field) : Option Toml := do
  let made ← fields.foldlM (fun made field => addField field made) []
  some (.table (finishFields made))

/-- The table that a document describes, if its statements agree with each other. -/
def ofStatements? (statements : List Statement) : Option Toml := do
  let p ← statements.foldlM Progress.add ⟨[], []⟩
  some (.table (finishFields p.fields))

end Toml

end Subtitler
