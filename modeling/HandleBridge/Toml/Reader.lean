import HandleBridge.Toml.Basic

/-!
Reading values. In a number an underscore may stand between any two digits. Integers are those of 64 bits; a float
has digits on both sides of its point, and one too large to be finite is refused unless it is negative.

A string in double quotes has escapes, one in single quotes has none, and three quotes of either sort hold text of
several lines. A run of three to five quotes ends such text, all but the last three belonging to it.

Arrays may spread over lines and end in a comma, tables in braces may not. Where a table is written decides what may be
added to it, and `Descent` holds these rules for the three places where entries are made.
-/

namespace HandleBridge.Toml

/-- Takes digits of a base up to the first other character. An underscore has to be followed by a digit. -/
def moreDigits? (base : Nat) : Rest → Option (List Char × Rest)
  | [] => some ([],[])
  | '_' :: rest =>
    match rest with
    | [] => none
    | c :: rest =>
      if isDigit base c then (moreDigits? base rest).map fun (digits,rest) => (c :: digits,rest) else none
  | c :: rest =>
    if isDigit base c then (moreDigits? base rest).map fun (digits,rest) => (c :: digits,rest)
    else some ([],c :: rest)
where
  /-- Whether a character is a digit of the base. -/
  isDigit (base : Nat) (c : Char) : Bool := (Text.numeral? base [c]).isSome

/-- Takes at least one digit. -/
def digits? (base : Nat) (cs : Rest) : Option (List Char × Rest) := do
  let (digits,rest) ← if cs.head? = some '_' then none else moreDigits? base cs
  if digits.isEmpty then none else some (digits,rest)

/-- Takes a sign; without one the number is positive. -/
def sign : Rest → Bool × Rest
  | '-' :: rest => (true,rest)
  | '+' :: rest => (false,rest)
  | cs => (false,cs)

def number (base : Nat) (digits : List Char) : Nat := (Text.numeral? base digits).getD 0

/-- Integer of a sign and a magnitude, within 64 bits. -/
def integer? (negative : Bool) (magnitude : Nat) : Option Value :=
  let n : Int := if negative then -magnitude else magnitude
  if Int64.minValue.toInt ≤ n ∧ n ≤ Int64.maxValue.toInt then some (.integer (Int64.ofInt n)) else none

/-- Float of a sign and a decimal. -/
def float? (negative : Bool) (digits : Nat) (exponent : Int) : Option Value :=
  let magnitude := Decimal.nearestDouble digits exponent
  if negative then some (.float magnitude.negate)
  else if magnitude.isInfinite then none
  else some (.float magnitude)

/-- Takes the exponent of a float; zero if there is none. -/
def exponent? : Rest → Option (Int × Rest)
  | 'e' :: rest | 'E' :: rest => do
    let (negative,rest) := sign rest
    let (digits,rest) ← digits? 10 rest
    let n : Int := number 10 digits
    return (if negative then -n else n,rest)
  | cs => some (0,cs)

/-- Takes the digits before the point: a lone zero, or digits that start with another one. -/
def wholeDigits? : Rest → Option (List Char × Rest)
  | '0' :: rest => some (['0'],rest)
  | cs => digits? 10 cs

/-- Takes a decimal integer or a float, after its sign. -/
def decimal? (negative : Bool) (cs : Rest) : Option (Value × Rest) := do
  let (whole,rest) ← wholeDigits? cs
  match rest with
  | '.' :: rest =>
    let (fraction,rest) ← digits? 10 rest
    let (exponent,rest) ← exponent? rest
    return (← float? negative (number 10 (whole ++ fraction)) (exponent - fraction.length),rest)
  | 'e' :: _ | 'E' :: _ =>
    let (exponent,rest) ← exponent? rest
    return (← float? negative (number 10 whole) exponent,rest)
  | rest => return (← integer? negative (number 10 whole),rest)

/-- Takes an integer of another base, after its mark. -/
def basedInteger? (base : Nat) (cs : Rest) : Option (Value × Rest) := do
  let (digits,rest) ← digits? base cs
  return (← integer? false (number base digits),rest)

/-- Takes a number. The floats without digits are infinity and the one that is no number. -/
def number? : Rest → Option (Value × Rest)
  | '0' :: 'x' :: rest => basedInteger? 16 rest
  | '0' :: 'o' :: rest => basedInteger? 8 rest
  | '0' :: 'b' :: rest => basedInteger? 2 rest
  | cs =>
    let (negative,rest) := sign cs
    match rest with
    | 'i' :: 'n' :: 'f' :: rest => some (.float (signed negative .infinity),rest)
    | 'n' :: 'a' :: 'n' :: rest => some (.float (signed negative .nan),rest)
    | rest => decimal? negative rest
where
  /-- A double with a sign. -/
  signed (negative : Bool) (x : Double) : Double := if negative then x.negate else x

/-- Character that hexadecimal digits name; the two halves of a surrogate pair name none. -/
def scalar? (digits : List Char) : Option Char := do
  let n ← HandleBridge.Text.numeral? 16 digits
  if h : n.isValidChar then some (Char.ofNatAux n h) else none

/-- Character that a letter stands for after a backslash. -/
def escaped? (c : Char) : Option Char :=
  if c = 'b' then some '\x08' else if c = 't' then some '\t' else if c = 'n' then some '\n'
  else if c = 'f' then some '\x0c' else if c = 'r' then some '\r' else if c = '"' then some '"'
  else if c = '\\' then some '\\' else none

/-- Puts a character before text that was read. -/
def before (c : Char) (read : Option (List Char × Rest)) : Option (List Char × Rest) :=
  read.map fun (text,rest) => (c :: text,rest)

/-- Text in double quotes, after the opening one. -/
def quoted? : Rest → Option (List Char × Rest)
  | '"' :: rest => some ([],rest)
  | '\\' :: 'u' :: a :: b :: c :: d :: rest => do before (← scalar? [a,b,c,d]) (quoted? rest)
  | '\\' :: 'U' :: a :: b :: c :: d :: e :: f :: g :: h :: rest => do
    before (← scalar? [a,b,c,d,e,f,g,h]) (quoted? rest)
  | '\\' :: c :: rest => do before (← escaped? c) (quoted? rest)
  | c :: rest => if isPlain c then before c (quoted? rest) else none
  | [] => none

/-- Text in single quotes, after the opening one. -/
def literal? : Rest → Option (List Char × Rest)
  | '\'' :: rest => some ([],rest)
  | c :: rest => if isPlain c then before c (literal? rest) else none
  | [] => none

/-- What multi-line text has just seen. -/
inductive Joint where
  | text
  /-- A backslash and blanks, which a line end has to follow. -/
  | backslash
  /-- A line end after a backslash; blanks and further line ends are skipped. -/
  | gap
  deriving DecidableEq

/-- Text in three double quotes, after the opening ones. -/
def quotedLines? : Joint → Rest → Option (List Char × Rest)
  | .backslash, '\n' :: rest => quotedLines? .gap rest
  | .backslash, '\r' :: '\n' :: rest => quotedLines? .gap rest
  | .backslash, c :: rest => if isBlank c then quotedLines? .backslash rest else none
  | .gap, '\n' :: rest => quotedLines? .gap rest
  | .gap, '\r' :: '\n' :: rest => quotedLines? .gap rest
  | .gap, ' ' :: rest => quotedLines? .gap rest
  | .gap, '\t' :: rest => quotedLines? .gap rest
  | _, '"' :: '"' :: '"' :: '"' :: '"' :: '"' :: _ => none
  | _, '"' :: '"' :: '"' :: '"' :: '"' :: rest => some (['"','"'],rest)
  | _, '"' :: '"' :: '"' :: '"' :: rest => some (['"'],rest)
  | _, '"' :: '"' :: '"' :: rest => some ([],rest)
  | _, '\n' :: rest => before '\n' (quotedLines? .text rest)
  | _, '\r' :: '\n' :: rest => before '\n' (quotedLines? .text rest)
  | _, '\\' :: 'u' :: a :: b :: c :: d :: rest => do before (← scalar? [a,b,c,d]) (quotedLines? .text rest)
  | _, '\\' :: 'U' :: a :: b :: c :: d :: e :: f :: g :: h :: rest => do
    before (← scalar? [a,b,c,d,e,f,g,h]) (quotedLines? .text rest)
  | _, '\\' :: '\n' :: rest => quotedLines? .gap rest
  | _, '\\' :: '\r' :: '\n' :: rest => quotedLines? .gap rest
  | _, '\\' :: c :: rest =>
    if isBlank c then quotedLines? .backslash rest
    else do before (← escaped? c) (quotedLines? .text rest)
  | _, c :: rest => if isPlain c then before c (quotedLines? .text rest) else none
  | _, [] => none

/-- Text in three single quotes, after the opening ones. -/
def literalLines? : Rest → Option (List Char × Rest)
  | '\'' :: '\'' :: '\'' :: '\'' :: '\'' :: '\'' :: _ => none
  | '\'' :: '\'' :: '\'' :: '\'' :: '\'' :: rest => some (['\'','\''],rest)
  | '\'' :: '\'' :: '\'' :: '\'' :: rest => some (['\''],rest)
  | '\'' :: '\'' :: '\'' :: rest => some ([],rest)
  | '\n' :: rest => before '\n' (literalLines? rest)
  | '\r' :: '\n' :: rest => before '\n' (literalLines? rest)
  | c :: rest => if isPlain c then before c (literalLines? rest) else none
  | [] => none

/-- The characters after a line end that opens multi-line text. -/
def skipLineFeed (cs : Rest) : Rest := (lineFeed? cs).getD cs

/-- A string of any of the four sorts. -/
def string? : Rest → Option (String × Rest)
  | '"' :: '"' :: '"' :: rest => finish (quotedLines? .text (skipLineFeed rest))
  | '"' :: rest => finish (quoted? rest)
  | '\'' :: '\'' :: '\'' :: rest => finish (literalLines? (skipLineFeed rest))
  | '\'' :: rest => finish (literal? rest)
  | _ => none
where
  /-- Text that was read as a string. -/
  finish (read : Option (List Char × Rest)) : Option (String × Rest) :=
    read.map fun (text,rest) => (String.ofList text,rest)

/-- Characters of keys without quotes. -/
def isBare (c : Char) : Bool :=
  'a' ≤ c && c ≤ 'z' || 'A' ≤ c && c ≤ 'Z' || '0' ≤ c && c ≤ '9' || c = '_' || c = '-'

/-- One part of a key: a string of one line, or a run of bare characters. -/
def keyPart? : Rest → Option (String × Rest)
  | '"' :: rest => (quoted? rest).map fun (text,rest) => (String.ofList text,rest)
  | '\'' :: rest => (literal? rest).map fun (text,rest) => (String.ofList text,rest)
  | cs =>
    if (cs.takeWhile isBare).isEmpty then none
    else some (String.ofList (cs.takeWhile isBare),cs.dropWhile isBare)

/-- A key of at most `limit` parts with dots between them; blanks may stand around every part. -/
def dottedKey? : (limit : Nat) → Rest → Option (Key × Rest)
  | 0, _ => none
  | limit + 1, cs => do
    let (name,rest) ← keyPart? (skipBlank cs)
    match skipBlank rest with
    | '.' :: rest => (dottedKey? limit rest).map fun (key,rest) => ({ key with path := name :: key.path },rest)
    | rest => some (⟨[],name⟩,rest)

/-- How deep keys and values may nest. -/
def nestingLimit : Nat := 79

def key? (cs : Rest) : Option (Key × Rest) := dottedKey? nestingLimit cs

/-- On behalf of what a path is followed. -/
inductive Descent where
  /-- A header. -/
  | header
  /-- A dotted key on a line of its own. -/
  | key
  /-- A dotted key in braces. -/
  | keyInBraces
  deriving DecidableEq

namespace Descent

/-- Form of the tables that the path makes. -/
def creates : Descent → Form
  | header => .implied
  | key => .dotted
  | keyInBraces => .dottedInBraces

/-- Whether the path may lead through a table of the form. -/
def admits : Descent → Form → Bool
  | header, form => form = .header || form = .implied || form = .dotted
  | key, form => form = .implied || form = .dotted
  | keyInBraces, form => form = .dottedInBraces

/-- Changes the table at the end of a path, in a table of the given form and entries. Tables that are not there are
made, and of an array of tables the last one counts. -/
def update (descent : Descent) :
    (path : List String) → Form → Entries → (Form → Entries → Option Entries) → Option Entries
  | [], form, entries, change => change form entries
  | name :: path, _, entries, change =>
    match entries.get? name with
    | none => do
      return entries.add name (.table descent.creates (← descent.update path descent.creates [] change))
    | some (.table form inner) =>
      if descent.admits form then do
        return entries.replace name (.table form (← descent.update path form inner change))
      else none
    | some (.tables items) =>
      match items.getLast? with
      | some (.table form inner) => do
        let last ← descent.update path form inner change
        return entries.replace name (.tables (items.dropLast ++ [.table form last]))
      | _ => none
    | some _ => none

/-- Makes an entry under a key that is not taken. A dotted key adds to tables of dotted keys only. -/
def define (descent : Descent) (form : Form) (entries : Entries) (key : Key) (v : Value) : Option Entries :=
  descent.update key.path form entries fun form entries =>
    if form = descent.creates ↔ key.path = [] then none else entries.addNew? key.name v

end Descent

/-- Reader of one value. -/
abbrev Reads (α : Type) := Rest → Option (α × Rest)

/-- Reads the items of an array up to its closing bracket. -/
def items? (item : Reads Value) : (fuel : Nat) → Reads (List Value)
  | 0, _ => none
  | fuel + 1, cs => do
    let cs ← skipLines? false cs
    if let ']' :: rest := cs then return ([],rest)
    let (v,rest) ← item cs
    match ← skipLines? false rest with
    | ',' :: rest => (items? item fuel rest).map fun (vs,rest) => (v :: vs,rest)
    | ']' :: rest => return ([v],rest)
    | _ => none

/-- Reads a key with its value. -/
def entry? (item : Reads Value) (cs : Rest) : Option ((Key × Value) × Rest) := do
  let (key,rest) ← key? cs
  let (v,rest) ← item (skipBlank (← take? '=' rest))
  return ((key,v),rest)

/-- Reads the entries of a table in braces up to the closing one. -/
def braced? (item : Reads Value) : (fuel : Nat) → Entries → Reads Entries
  | 0, _, _ => none
  | fuel + 1, entries, cs => do
    let ((key,v),rest) ← entry? item cs
    let entries ← Descent.keyInBraces.define .braces entries key v
    match skipBlank rest with
    | ',' :: rest => braced? item fuel entries rest
    | '}' :: rest => return (entries,rest)
    | _ => none

/-- Reads a value that is one word, string, number, date or time. -/
def scalar (cs : Rest) : Option (Value × Rest) :=
  match cs with
  | '"' :: _ | '\'' :: _ => (string? cs).map fun (text,rest) => (.string text,rest)
  | 't' :: 'r' :: 'u' :: 'e' :: rest => some (.boolean true,rest)
  | 'f' :: 'a' :: 'l' :: 's' :: 'e' :: rest => some (.boolean false,rest)
  | cs =>
    match opening? cs with
    | some opening => opening.finish?.map fun rest => (.moment,rest)
    | none => number? cs

/-- Reads a value in which arrays and braces nest at most `depth` times. -/
def value? : (depth : Nat) → Reads Value
  | 0, '[' :: _ => none
  | 0, '{' :: _ => none
  | depth + 1, '[' :: rest => (items? (value? depth) (rest.length + 1) rest).map fun (vs,rest) => (.array vs,rest)
  | depth + 1, '{' :: rest =>
    match skipBlank rest with
    | '}' :: rest => some (.table .braces [],rest)
    | _ => (braced? (value? depth) (rest.length + 1) [] rest).map fun (es,rest) => (.table .braces es,rest)
  | _, cs => scalar cs

end HandleBridge.Toml
