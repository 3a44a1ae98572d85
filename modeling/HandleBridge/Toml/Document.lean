import HandleBridge.Toml.Reader
import HandleBridge.Error
import HandleBridge.Text.Utf8

/-!
Reading documents. A document is a sequence of statements, and its tree is built statement by statement: a header
opens a table, the entries that follow go there, and the next header puts the table into its place. Its text is at hand,
or stands at the path of a file.
-/

namespace HandleBridge.Toml

/-- One statement of a document. -/
inductive Statement where
  /-- Opens a table. -/
  | header (key : Key)
  /-- Opens one more table of an array. -/
  | arrayHeader (key : Key)
  | entry (key : Key) (v : Value)

/-- Reads one statement with the rest of its line. -/
def statement? : Reads Statement
  | '[' :: '[' :: rest => do
    let (key,rest) ← key? rest
    return (.arrayHeader key,← lineTail? (← take? ']' (← take? ']' rest)))
  | '[' :: rest => do
    let (key,rest) ← key? rest
    return (.header key,← lineTail? (← take? ']' rest))
  | cs => do
    let ((key,v),rest) ← entry? (value? nestingLimit) cs
    return (.entry key v,← lineTail? rest)

/-- Reads the statements of a document; the fuel bounds the number of lines. -/
def statements? : (fuel : Nat) → Rest → Option (List Statement)
  | 0, _ => none
  | fuel + 1, cs =>
    match skipBlank cs with
    | [] => some []
    | '#' :: rest => do statements? fuel (← lineEnd? (rest.dropWhile isPlain))
    | '\n' :: rest => statements? fuel rest
    | '\r' :: '\n' :: rest => statements? fuel rest
    | cs => do
      let (statement,rest) ← statement? cs
      return statement :: (← statements? fuel rest)

/-- Where the entries that follow go. -/
inductive Place where
  | root
  | table (key : Key)
  | arrayItem (key : Key)

/-- Tree of the statements so far, without the open table. -/
structure Assembly where
  root : Entries := []
  place : Place := .root
  /-- Entries of the open table. -/
  entries : Entries := []

namespace Assembly

/-- Puts the open table into its place. -/
def close (a : Assembly) : Option Entries :=
  let table := Value.table .header a.entries
  match a.place with
  | .root => some a.entries
  | .table key => Descent.header.update key.path .header a.root fun _ entries => entries.addNew? key.name table
  | .arrayItem key =>
    Descent.header.update key.path .header a.root fun _ entries =>
      match entries.get? key.name with
      | none => some (entries.add key.name (.tables [table]))
      | some (.tables items) => some (entries.replace key.name (.tables (items ++ [table])))
      | some _ => none

/-- Opens a table. One that headers of inner tables have implied keeps its entries and moves to the end. -/
def openTable (root : Entries) (key : Key) : Option Assembly := do
  let kept := Descent.header.update key.path .header root fun _ entries =>
    match entries.get? key.name with
    | none => some entries
    | some (.table .implied _) => some (entries.erase key.name)
    | some _ => none
  return { root := ← kept, place := .table key, entries := implied key.path root }
where
  /-- Entries of the table if it was implied. -/
  implied : List String → Entries → Entries
    | [], entries =>
      match entries.get? key.name with
      | some (.table .implied inner) => inner
      | _ => []
    | name :: path, entries =>
      match entries.get? name with
      | some (.table _ inner) => implied path inner
      | some (.tables items) =>
        match items.getLast? with
        | some (.table _ inner) => implied path inner
        | _ => []
      | _ => []

/-- Opens one more table of an array. -/
def openItem (root : Entries) (key : Key) : Option Assembly := do
  let root ← Descent.header.update key.path .header root fun _ entries =>
    match entries.get? key.name with
    | none | some (.tables _) => some entries
    | some _ => none
  return { root, place := .arrayItem key }

/-- Takes in one statement. -/
def take (a : Assembly) : Statement → Option Assembly
  | .header key => do openTable (← a.close) key
  | .arrayHeader key => do openItem (← a.close) key
  | .entry key v => do return { a with entries := ← Descent.key.define .header a.entries key v }

end Assembly

/-- Tree of a sequence of statements. -/
def assemble (statements : List Statement) : Option Entries := do
  (← statements.foldlM Assembly.take {}).close

/-- Reads a document, which a byte order mark may precede. -/
def document? (text : String) : Option Value := do
  let cs := match text.toList with
    | '\uFEFF' :: rest => rest
    | cs => cs
  return .table .header (← assemble (← statements? (cs.length + 1) cs))

end HandleBridge.Toml

namespace HandleBridge

/-- Where a document comes from. -/
inductive Source where
  | text (content : String)
  | file (bytes : List UInt8)
  /-- A path at which there is nothing to read. -/
  | failing (fault : FileFault)

def Source.read : Source → Except FileFault String
  | text content => .ok content
  | file bytes =>
    match Text.Utf8.decode bytes with
    | .ok content => .ok content
    | .error _ => .error .notText
  | failing fault => .error fault

end HandleBridge
