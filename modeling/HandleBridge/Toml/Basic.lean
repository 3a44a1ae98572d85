import HandleBridge.Decimal.Double
import HandleBridge.Toml.Scan

/-!
Documents as trees: values, and tables that remember how they were written. What may be added to a table later
depends on its form, so the form is kept while a document is read and ignored afterwards.

A record is written as a table, or as an array of its fields in their order; fields that an array is too short for are
absent, and items beyond the fields are ignored.
-/

namespace HandleBridge.Toml

/-- How a table came to be. -/
inductive Form where
  /-- By a header of its own, or by being the document. -/
  | header
  /-- By the header of a table inside it. -/
  | implied
  /-- By a dotted key. -/
  | dotted
  /-- By braces. -/
  | braces
  /-- By a dotted key inside braces. -/
  | dottedInBraces
  deriving DecidableEq

/-- A value of a document. -/
inductive Value where
  | string (text : String)
  | integer (n : Int64)
  | float (x : Double)
  | boolean (b : Bool)
  /-- A date, a time or both; no setting has a use for which. -/
  | moment
  | array (items : List Value)
  /-- An array whose items are tables with headers of their own. -/
  | tables (items : List Value)
  | table (form : Form) (entries : List (String × Value))

/-- Entries of a table, in the order in which they were made. -/
abbrev Entries := List (String × Value)

namespace Entries

def get? (entries : Entries) (key : String) : Option Value := List.lookup key entries

def add (entries : Entries) (key : String) (v : Value) : Entries := entries ++ [(key,v)]

/-- The entries with a new one at the end, unless the key is taken. -/
def addNew? (entries : Entries) (key : String) (v : Value) : Option Entries :=
  if (entries.get? key).isSome then none else some (entries.add key v)

/-- The entries with another value under a key, in place. -/
def replace (entries : Entries) (key : String) (v : Value) : Entries :=
  entries.map fun entry => if entry.1 = key then (key,v) else entry

def erase (entries : Entries) (key : String) : Entries := entries.filter (·.1 ≠ key)

end Entries

/-- A key with the keys of the tables that lead to it. -/
structure Key where
  path : List String
  name : String
  deriving DecidableEq

namespace Value

def string? : Value → Option String
  | string text => some text
  | _ => none

def boolean? : Value → Option Bool
  | boolean b => some b
  | _ => none

/-- Number of an integer that is not negative. -/
def natural? : Value → Option UInt64
  | integer n => if 0 ≤ n then some n.toUInt64 else none
  | _ => none

def items? : Value → Option (List Value)
  | array items | tables items => some items
  | _ => none

/-- Whether the value is an array or a table without contents. -/
def isEmpty : Value → Bool
  | array items | tables items => items.isEmpty
  | table _ entries => entries.isEmpty
  | _ => false

/-- Choice of one name: the name as a string, or a table whose only entry is an empty one under the name. -/
def choice? : Value → Option String
  | string name => some name
  | table _ [(name,v)] => if v.isEmpty then some name else none
  | _ => none

/-- Whether the value is a string that says a date or time. -/
def saysMoment : Value → Bool
  | string text => isMoment text
  | _ => false

/-- Key with which a table begins that stands for a date or time. -/
def momentKey : String := "$__toml_private_datetime"

mutual

/-- Whether the value can be taken as data of any sort. A table that stands for a date or time has to say which; what
follows there is of no matter. -/
def isData : Value → Bool
  | array items => areData items
  | tables items => areData items
  | table _ ((key,v) :: rest) => if key = momentKey then v.saysMoment else v.isData && haveData rest
  | _ => true

def areData : List Value → Bool
  | [] => true
  | v :: rest => v.isData && areData rest

def haveData : List (String × Value) → Bool
  | [] => true
  | (_,v) :: rest => v.isData && haveData rest

end

/-- The value as data of any sort. -/
def data? (v : Value) : Option Value := if v.isData then some v else none

end Value

/-- Values of the fields of a record. -/
abbrev Fields := String → Option Value

/-- Takes a value for a record with the given fields. A closed record has no other entries. -/
def Value.fields? (names : List String) (closed : Bool) : Value → Option Fields
  | .table _ entries =>
    if closed && entries.any (fun entry => !names.contains entry.1) then none else some (Entries.get? entries)
  | .array items | .tables items => some fun name => (names.idxOf? name).bind (items[·]?)
  | _ => none

namespace Fields

variable {α : Type}

/-- Takes a field that may be absent. -/
def optional (fields : Fields) (name : String) (take : Value → Option α) : Option (Option α) :=
  match fields name with
  | some v => (take v).map some
  | none => some none

/-- Takes a field that has a default. -/
def withDefault (fields : Fields) (name : String) (default : α) (take : Value → Option α) : Option α :=
  (fields.optional name take).map (·.getD default)

/-- Takes a field that must not be absent. -/
def required (fields : Fields) (name : String) (take : Value → Option α) : Option α := fields name >>= take

end Fields

end HandleBridge.Toml
