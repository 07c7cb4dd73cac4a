/-!
TOML values, and tables as they are put together: by headers, by dotted keys and inline. A table may be
added to only in the way it came to be.
-/

namespace DeepLink.Toml

inductive Origin where
  | header | implied | dotted | inline
deriving DecidableEq, Repr

inductive Value where
  | string (text : String)
  | integer (value : Int)
  | float (text : String)
  | boolean (value : Bool)
  | moment (text : String)
  | array (items : List Value)
  | table (origin : Origin) (entries : List (String × Value))
  | rows (tables : List Value)
deriving Repr, Inhabited

abbrev Entries := List (String × Value)

def get? (name : String) (entries : Entries) : Option Value :=
  (entries.find? (·.1 = name)).map (·.2)

def set (name : String) (value : Value) : Entries → Entries
  | [] => [(name, value)]
  | (n, v) :: rest => if n = name then (n, value) :: rest else (n, v) :: set name value rest

/-- Changes the table under some keys, which are made where they are absent. A dotted key does not go
through a table with a header, and nothing goes into an inline table from outside. -/
def descend (dotted : Bool) (change : Origin → Entries → Option (Origin × Entries)) :
    List String → Origin → Entries → Option (Origin × Entries)
  | [], origin, entries => change origin entries
  | name :: rest, origin, entries => do
    let value ← match get? name entries with
      | none => do
        let (o, es) ← descend dotted change rest (if dotted then .dotted else .implied) []
        some (Value.table o es)
      | some (.table o es) =>
        if o = .inline ∨ dotted ∧ o = .header then none
        else do
          let (o, es) ← descend dotted change rest o es
          some (.table o es)
      | some (.rows tables) =>
        match tables.getLast? with
        | some (.table o es) => do
          let (o, es) ← descend dotted change rest o es
          some (.rows (tables.dropLast ++ [.table o es]))
        | _ => none
      | some _ => none
    some (origin, set name value entries)

def addValue (path : List String) (name : String) (value : Value) (origin : Origin) (entries : Entries) :
    Option (Origin × Entries) :=
  descend true (fun o es =>
    if (o = .dotted) = path.isEmpty then none
    else if (get? name es).isSome then none
    else some (o, es ++ [(name, value)])) path origin entries

def openTable (path : List String) (name : String) (origin : Origin) (entries : Entries) :
    Option (Origin × Entries) :=
  descend false (fun o es =>
    match get? name es with
    | none => some (o, es ++ [(name, .table .header [])])
    | some (.table .implied inner) => some (o, set name (.table .header inner) es)
    | some _ => none) path origin entries

def openRow (path : List String) (name : String) (origin : Origin) (entries : Entries) :
    Option (Origin × Entries) :=
  descend false (fun o es =>
    match get? name es with
    | none => some (o, es ++ [(name, .rows [.table .header []])])
    | some (.rows tables) => some (o, set name (.rows (tables ++ [.table .header []])) es)
    | some _ => none) path origin entries

def inlineTable (pairs : List (List String × String × Value)) : Option Entries := do
  let (_, entries) ← pairs.foldlM (fun (o, es) (path, name, value) => addValue path name value o es)
    (Origin.header, [])
  return entries

end DeepLink.Toml
