/-!
The characters of a document. Scanners take the characters that are left and answer with those that are left after
them. They pass blanks, line ends and comments, and tell numerals, dates and times. A text that begins like a date or
time has to be one: four digits and a hyphen begin a date, two digits of an hour and a colon begin a time.
-/

namespace HandleBridge.Text

/-- Number that one hexadecimal digit of either case stands for. -/
def hexDigit? (c : Char) : Option Nat :=
  if '0' ≤ c ∧ c ≤ '9' then some (c.toNat - '0'.toNat)
  else if 'a' ≤ c ∧ c ≤ 'f' then some (c.toNat - 'a'.toNat + 10)
  else if 'A' ≤ c ∧ c ≤ 'F' then some (c.toNat - 'A'.toNat + 10)
  else none

/-- Number that a non-empty run of digits stands for in the given base. -/
def numeral? (base : Nat) : List Char → Option Nat
  | [] => none
  | digits => digits.foldlM step 0
where
  /-- Appends one digit, which has to lie below the base. -/
  step (value : Nat) (c : Char) : Option Nat := do
    let digit ← hexDigit? c
    if digit < base then some (value * base + digit) else none

end HandleBridge.Text

namespace HandleBridge.Toml

/-- Characters that are left to read. -/
abbrev Rest := List Char

/-- Blanks within a line. -/
def isBlank (c : Char) : Bool := c = ' ' || c = '\t'

/-- Characters that text may hold as they are: the tab and all that is not a control character. Control
characters are those of ASCII. -/
def isPlain (c : Char) : Bool := c = '\t' || ' ' ≤ c && c ≠ '\x7f'

def skipBlank (cs : Rest) : Rest := cs.dropWhile isBlank

/-- Takes a line feed, which a carriage return may precede. -/
def lineFeed? : Rest → Option Rest
  | '\n' :: rest => some rest
  | '\r' :: '\n' :: rest => some rest
  | _ => none

/-- Takes a line end or stops at the end of the document. -/
def lineEnd? : Rest → Option Rest
  | [] => some []
  | cs => lineFeed? cs

def skipComment : Rest → Rest
  | '#' :: rest => rest.dropWhile isPlain
  | cs => cs

/-- Takes the rest of a line that holds nothing more but a comment. -/
def lineTail? (cs : Rest) : Option Rest := lineEnd? (skipComment (skipBlank cs))

/-- Skips blanks, line ends and comments; every comment has to end with its line. -/
def skipLines? (inComment : Bool) : Rest → Option Rest
  | [] => if inComment then none else some []
  | '\n' :: rest => skipLines? false rest
  | '\r' :: '\n' :: rest => skipLines? false rest
  | c :: rest =>
    if inComment then if isPlain c then skipLines? true rest else none
    else if isBlank c then skipLines? false rest
    else if c = '#' then skipLines? true rest
    else some (c :: rest)

/-- Takes exactly `count` decimal digits, which follow the digits of `n`. -/
def fixedDigits? : (count n : Nat) → Rest → Option (Nat × Rest)
  | 0, n, cs => some (n,cs)
  | count + 1, n, c :: rest =>
    if c.isDigit then fixedDigits? count (10 * n + (c.toNat - '0'.toNat)) rest else none
  | _ + 1, _, [] => none

/-- Takes two digits of a number within bounds. -/
def pair? (least greatest : Nat) (cs : Rest) : Option (Nat × Rest) := do
  let (n,rest) ← fixedDigits? 2 0 cs
  if least ≤ n ∧ n ≤ greatest then some (n,rest) else none

def take? (c : Char) : Rest → Option Rest
  | d :: rest => if d = c then some rest else none
  | [] => none

def daysIn (year month : Nat) : Nat :=
  if month = 2 then if year % 4 = 0 ∧ (year % 100 ≠ 0 ∨ year % 400 = 0) then 29 else 28
  else if month = 4 ∨ month = 6 ∨ month = 9 ∨ month = 11 then 30
  else 31

/-- Takes the rest of a time after the colon that follows its hour. Seconds may have a fraction. -/
def clock? (cs : Rest) : Option Rest := do
  let (_,rest) ← pair? 0 59 cs
  let (_,rest) ← pair? 0 60 (← take? ':' rest)
  match rest with
  | '.' :: c :: rest => if c.isDigit then some (rest.dropWhile Char.isDigit) else some ('.' :: c :: rest)
  | rest => some rest

/-- Takes an hour with its colon. -/
def hour? (cs : Rest) : Option Rest := do take? ':' (← pair? 0 23 cs).2

/-- Takes the offset of a time if there is one. -/
def offset? : Rest → Option Rest
  | 'Z' :: rest | 'z' :: rest => some rest
  | '+' :: rest | '-' :: rest => do return (← pair? 0 59 (← hour? rest)).2
  | cs => some cs

/-- Takes the time of a date if there is one. -/
def timeOfDate? (cs : Rest) : Option Rest :=
  match cs with
  | 'T' :: rest | 't' :: rest | ' ' :: rest =>
    match hour? rest with
    | some rest => clock? rest >>= offset?
    | none => some cs
  | cs => some cs

/-- Takes the rest of a date after the hyphen that follows its year, and its time. -/
def date? (year : Nat) (cs : Rest) : Option Rest := do
  let (month,rest) ← pair? 1 12 cs
  let (_,rest) ← pair? 1 (daysIn year month) (← take? '-' rest)
  timeOfDate? rest

/-- How a date or time begins, with what is left after the beginning. -/
inductive Opening where
  | date (year : Nat) (rest : Rest)
  | time (rest : Rest)

/-- Beginning of a date or time. -/
def opening? (cs : Rest) : Option Opening :=
  match fixedDigits? 4 0 cs with
  | some (year,'-' :: rest) => some (.date year rest)
  | _ => (hour? cs).map .time

/-- Takes what follows the beginning of a date or time. -/
def Opening.finish? : Opening → Option Rest
  | date year rest => date? year rest
  | time rest => clock? rest

/-- Whether a text as a whole is a date or time. -/
def isMoment (text : String) : Bool :=
  match opening? text.toList with
  | some opening => opening.finish? = some []
  | none => false

end HandleBridge.Toml
