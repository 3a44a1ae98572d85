import HandleBridge.Proofs.Numerals
import HandleBridge.Toml.Document

/-!
Lines that are read as they were written. A line is blank, a header, or an entry of a flag or of a number, under a bare
name. The statements of a document of such lines are those of its lines, one by one (`statements?_lines`).
-/

namespace HandleBridge.Toml

variable {cs rest : List Char} {c : Char} {n : Nat}

/-- A line of a document. -/
inductive Line where
  | blank
  | header (name : String)
  | flag (name : String) (b : Bool)
  | number (name : String) (n : Nat)

namespace Line

/-- The value of a flag in words. -/
def word (b : Bool) : List Char := if b then ['t','r','u','e'] else ['f','a','l','s','e']

def entryChars (name : String) (value : List Char) : List Char :=
  name.toList ++ ' ' :: '=' :: ' ' :: (value ++ ['\n'])

def chars : Line → List Char
  | blank => ['\n']
  | header name => '[' :: (name.toList ++ [']','\n'])
  | flag name b => entryChars name (word b)
  | number name n => entryChars name (Nat.toDigits 10 n)

/-- The statement of the line; a blank one has none. -/
def statement? : Line → Option Statement
  | blank => none
  | header name => some (.header ⟨[],name⟩)
  | flag name b => some (.entry ⟨[],name⟩ (.boolean b))
  | number name n => some (.entry ⟨[],name⟩ (.integer (.ofNat n)))

/-- A name that needs no quotes. -/
def Bare (name : String) : Prop := name ≠ "" ∧ ∀ c ∈ name.toList, isBare c = true

instance (name : String) : Decidable (Bare name) :=
  decidable_of_iff (name ≠ "" ∧ name.toList.all isBare = true) (and_congr_right fun _ => List.all_eq_true)

/-- A line that can be read: names are bare, and numbers have 63 bits. -/
def Readable : Line → Prop
  | blank => True
  | header name => Bare name
  | flag name _ => Bare name
  | number name n => Bare name ∧ n < 2 ^ 63

end Line

/-- A name that is bare begins with a bare character. -/
theorem Line.Bare.cons {name : String} (bare : Line.Bare name) :
    ∃ c cs, name.toList = c :: cs ∧ isBare c = true ∧ ∀ d ∈ cs, isBare d = true := by
  cases same : name.toList with
  | nil => exact absurd (String.toList_eq_nil_iff.mp same) bare.1
  | cons c cs =>
    obtain ⟨first,others⟩ := List.forall_mem_cons.mp (same ▸ bare.2)
    exact ⟨c,cs,rfl,first,others⟩

theorem ne_of_isBare {d : Char} (bare : isBare c = true) (other : isBare d = false) : c ≠ d := by
  rintro rfl
  rw [bare] at other
  cases other

/-- A bare name is taken up to the first other character. -/
theorem keyPart?_bare {name : String} (bare : Line.Bare name) (other : isBare c = false) :
    keyPart? (name.toList ++ c :: rest) = some (name,c :: rest) := by
  have taken : (name.toList ++ c :: rest).takeWhile isBare = name.toList := by
    rw [List.takeWhile_append_of_pos bare.2,List.takeWhile_cons_of_neg (by simp [other]),List.append_nil]
  have left : (name.toList ++ c :: rest).dropWhile isBare = c :: rest := by
    rw [List.dropWhile_append_of_pos bare.2,List.dropWhile_cons_of_neg (by simp [other])]
  obtain ⟨d,ds,same,first,-⟩ := bare.cons
  have filled : name.toList.isEmpty = false := by rw [same]; rfl
  rw [keyPart?,taken,left,filled]
  · simp
  · rw [same]
    rintro more ⟨⟩
    cases first
  · rw [same]
    rintro more ⟨⟩
    cases first

/-- Blanks do not begin with a bare character. -/
theorem skipBlank_bare {name : String} (bare : Line.Bare name) : skipBlank (name.toList ++ rest) = name.toList ++ rest := by
  obtain ⟨d,ds,same,first,-⟩ := bare.cons
  have plain : isBlank d = false := by simp [isBlank,ne_of_isBare first (d := ' ') rfl,ne_of_isBare first (d := '\t') rfl]
  rw [same,List.cons_append,skipBlank,List.dropWhile_cons_of_neg (by simp [plain])]

/-- A bare name is a key of one part, unless a dot follows. -/
theorem key?_bare {name : String} (bare : Line.Bare name) (other : isBare c = false)
    (last : ∀ more, skipBlank (c :: rest) ≠ '.' :: more) :
    key? (name.toList ++ c :: rest) = some (⟨[],name⟩,skipBlank (c :: rest)) := by
  rw [key?,nestingLimit,dottedKey?,skipBlank_bare bare,keyPart?_bare bare other]
  -- As no dot follows, the part is the last one.
  simp only [Option.bind_eq_bind,Option.bind_some]

/-- The characters are read as the value when a line ends after them, and do not begin with a blank. -/
structure Shows (value : List Char) (v : Value) : Prop where
  solid : ∀ rest, skipBlank (value ++ '\n' :: rest) = value ++ '\n' :: rest
  reads : ∀ rest, value? nestingLimit (value ++ '\n' :: rest) = some (v,'\n' :: rest)

/-- What begins no array and no table is a scalar, however deep it lies. -/
theorem value?_of_ne {depth : Nat} (noArray : ∀ more, cs ≠ '[' :: more) (noTable : ∀ more, cs ≠ '{' :: more) :
    value? depth cs = scalar cs := by
  cases depth
  all_goals
    rw [value?]
    all_goals simp_all

theorem shows_word (b : Bool) : Shows (Line.word b) (.boolean b) := by
  cases b <;> exact ⟨fun _ => rfl,fun _ => rfl⟩

theorem shows_toDigits (fits : n < 2 ^ 63) : Shows (Nat.toDigits 10 n) (.integer (.ofNat n)) := by
  have all := allDigits_toDigits n
  constructor
  · intro rest
    cases same : Nat.toDigits 10 n with
    | nil => exact absurd same Nat.toDigits_ne_nil
    | cons c digits =>
      have digit : c.isDigit = true := all c (by simp [same])
      have plain : isBlank c = false := by
        simp [isBlank,ne_of_isDigit digit (d := ' ') rfl,ne_of_isDigit digit (d := '\t') rfl]
      rw [List.cons_append,skipBlank,List.dropWhile_cons_of_neg (by simp [plain])]
  · intro rest
    rw [value?_of_ne (fun _ => run_ne all rfl (by decide)) fun _ => run_ne all rfl (by decide)]
    exact scalar_line fits

/-- An entry is read from its line. -/
theorem entry?_line {name : String} {value : List Char} {v : Value} (bare : Line.Bare name) (shows' : Shows value v) :
    entry? (value? nestingLimit) (Line.entryChars name value ++ rest) = some ((⟨[],name⟩,v),'\n' :: rest) := by
  have written : Line.entryChars name value ++ rest = name.toList ++ ' ' :: ('=' :: ' ' :: (value ++ '\n' :: rest)) := by
    simp [Line.entryChars]
  have spaced : skipBlank (' ' :: (value ++ '\n' :: rest)) = value ++ '\n' :: rest := shows'.solid rest
  rw [written, entry?,key?_bare bare rfl (by rintro more ⟨⟩)]
  show (value? nestingLimit (skipBlank (' ' :: (value ++ '\n' :: rest)))).bind _ = _
  rw [spaced,shows'.reads]
  rfl

/-- A header is read from its line. -/
theorem statement?_header {name : String} (bare : Line.Bare name) :
    statement? ((Line.header name).chars ++ rest) = some (.header ⟨[],name⟩,rest) := by
  have written : (Line.header name).chars ++ rest = '[' :: (name.toList ++ ']' :: ('\n' :: rest)) := by
    simp [Line.chars]
  have read : key? (name.toList ++ ']' :: ('\n' :: rest)) = some (⟨[],name⟩,']' :: '\n' :: rest) :=
    key?_bare bare rfl (by rintro more ⟨⟩)
  rw [written,statement?]
  · rw [read]
    rfl
  · obtain ⟨c,cs,same,first,-⟩ := bare.cons
    rintro more again
    rw [same,List.cons_append] at again
    exact ne_of_isBare first rfl (List.cons.inj again).1

/-- An entry is read from its line. -/
theorem statement?_entry {name : String} {value : List Char} {v : Value} (bare : Line.Bare name) (shows' : Shows value v) :
    statement? (Line.entryChars name value ++ rest) = some (.entry ⟨[],name⟩ v,rest) := by
  obtain ⟨c,cs,same,first,-⟩ := bare.cons
  have noHeader (more : List Char) : Line.entryChars name value ++ rest ≠ '[' :: more := by
    intro again
    rw [Line.entryChars,same] at again
    exact ne_of_isBare first rfl (List.cons.inj again).1
  rw [statement?, entry?_line bare shows']
  · rfl
  · exact fun more => noHeader _
  · exact noHeader

/-- A line that begins with a character of a key or of a header is one statement. -/
theorem statements?_of_statement? {fuel : Nat} {s : Statement} (first : isBare c = true ∨ c = '[')
    (read : statement? (c :: cs) = some (s,rest)) : statements? (fuel + 1) (c :: cs) = (s :: ·) <$> statements? fuel rest := by
  have other (d : Char) (notBare : isBare d = false) (noHeader : d ≠ '[') : c ≠ d := by
    rintro rfl
    rcases first with bare | rfl
    · rw [bare] at notBare
      cases notBare
    · exact noHeader rfl
  have solid : skipBlank (c :: cs) = c :: cs := by
    have plain : isBlank c = false := by simp [isBlank,other ' ' rfl (by decide),other '\t' rfl (by decide)]
    rw [skipBlank,List.dropWhile_cons_of_neg (by simp [plain])]
  rw [statements?,solid]
  split
  · cases ‹_ = []›
  · exact absurd (List.cons.inj ‹_›).1 (other _ rfl (by decide))
  · exact absurd (List.cons.inj ‹_›).1 (other _ rfl (by decide))
  · exact absurd (List.cons.inj ‹_›).1 (other _ rfl (by decide))
  · rw [read]
    show (statements? fuel rest).bind _ = _
    cases statements? fuel rest <;> rfl

theorem statements?_entry {fuel : Nat} {name : String} {value : List Char} {v : Value} (bare : Line.Bare name)
    (shows' : Shows value v) : statements? (fuel + 1) (Line.entryChars name value ++ rest) =
      (Statement.entry ⟨[],name⟩ v :: ·) <$> statements? fuel rest := by
  obtain ⟨c,cs,same,first,-⟩ := bare.cons
  have read : statement? (Line.entryChars name value ++ rest) = some (.entry ⟨[],name⟩ v,rest) :=
    statement?_entry bare shows'
  rw [Line.entryChars,same] at read ⊢
  exact statements?_of_statement? (.inl first) read

/-- A line is read as its statement, and reading goes on with the next one. -/
theorem statements?_line {fuel : Nat} {line : Line} (readable : line.Readable) :
    statements? (fuel + 1) (line.chars ++ rest) = (line.statement?.toList ++ ·) <$> statements? fuel rest := by
  cases line with
  | blank => exact (id_map' (f := Option) _).symm
  | header name => exact statements?_of_statement? (.inr rfl) (statement?_header readable)
  | flag name b => exact statements?_entry readable (shows_word b)
  | number name n => exact statements?_entry readable.1 (shows_toDigits readable.2)

/-- Lines are read as their statements. -/
theorem statements?_lines {fuel : Nat} {lines : List Line} (readable : ∀ line ∈ lines, line.Readable)
    (enough : lines.length < fuel) : statements? fuel (lines.flatMap Line.chars) = some (lines.filterMap Line.statement?) := by
  induction lines generalizing fuel with
  | nil =>
    cases fuel with
    | zero => cases enough
    | succ fuel => rfl
  | cons line lines ih =>
    obtain ⟨first,others⟩ := List.forall_mem_cons.mp readable
    cases fuel with
    | zero => cases enough
    | succ fuel =>
      rw [List.flatMap_cons,statements?_line first,ih others (by simpa using enough),List.filterMap_cons]
      cases line.statement? <;> rfl

theorem length_le_flatMap (lines : List Line) : lines.length ≤ (lines.flatMap Line.chars).length := by
  induction lines with
  | nil => exact Nat.le_refl 0
  | cons line lines ih =>
    have filled : 0 < line.chars.length := by cases line <;> simp [Line.chars,Line.entryChars]
    simp only [List.flatMap_cons,List.length_append,List.length_cons]
    omega

/-- No line begins with a byte order mark. -/
theorem lines_ne_mark {lines : List Line} (readable : ∀ line ∈ lines, line.Readable) :
    lines.flatMap Line.chars ≠ '\uFEFF' :: cs := by
  intro same
  cases lines with
  | nil => cases same
  | cons line lines =>
    have first := readable line (by simp)
    have named {name : String} (bare : Line.Bare name) (rest : List Char) : name.toList ++ rest ≠ '\uFEFF' :: cs := by
      obtain ⟨c,more,isName,bare,-⟩ := bare.cons
      rw [isName]
      intro same
      exact ne_of_isBare bare rfl (List.cons.inj same).1
    cases line with
    | blank => exact absurd (List.cons.inj same).1 (by decide)
    | header name => exact absurd (List.cons.inj same).1 (by decide)
    | flag name b => exact named first _ (by simpa [Line.chars,Line.entryChars] using same)
    | number name n => exact named first.1 _ (by simpa [Line.chars,Line.entryChars] using same)

/-- The tree of a document of lines is that of their statements. -/
theorem document?_lines {text : String} {lines : List Line} (written : text.toList = lines.flatMap Line.chars)
    (readable : ∀ line ∈ lines, line.Readable) :
    document? text = (assemble (lines.filterMap Line.statement?)).map (.table .header) := by
  have enough := length_le_flatMap lines
  rw [document?,written]
  split
  · exact absurd ‹_› (lines_ne_mark readable)
  · rw [statements?_lines readable (by omega)]
    show (assemble _).bind _ = _
    cases assemble (lines.filterMap Line.statement?) <;> rfl

end HandleBridge.Toml
