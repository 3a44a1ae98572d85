import HandleBridge.Cli.Inspect
import HandleBridge.Proofs.RoundTrips
import HandleBridge.Proofs.TakenFields
import HandleBridge.Proofs.WrittenLines

/-!
Configurations that are written and read again. The text of a configuration is one of lines that are read as they were
written (`toList_render`), so its tree is known table by table, and what is taken from that tree is the configuration.
A limit of more than 63 bits is never written and never read.
-/

namespace HandleBridge

open Toml (Entries Line)

variable {v : Toml.Value} {s : HeapSettings} {c : Config} {text path toml : String} {source : Source}

/-- The limit, if there is one, has 63 bits. -/
def HeapSettings.Fits (s : HeapSettings) : Prop := ∀ limit, s.maxObjects = some limit → limit.toNat ≤ 2 ^ 63 - 1

namespace Config

/-- What becomes of a configuration that is written. -/
structure Survives (c : Config) : Prop where
  written : (∃ text, c.write = .ok text) ↔ c.heap.Fits
  /-- The text is read as the configuration, unless that is refused, and then for the same fault. -/
  reads : ∀ text, c.write = .ok text → Config.read text = c.validate.map fun _ => c

end Config

namespace Cli

/-- The outcome of a check that accepts what stands at the path and shows it as the text. -/
def accepted (path toml : String) : Outcome := ⟨lines [path ++ ": ok",""] ++ toml,none⟩

/-- What a check tells of a configuration, and what becomes of the text that it shows. -/
structure Confirms (path : String) (source : Source) : Prop where
  /-- A check fails only on what cannot be loaded. -/
  accepts : (check path source).failure = none ↔ ∃ c, Config.load source = .ok c
  shows : (check path source).failure = none → ∃ toml, check path source = accepted path toml
  /-- The text that is shown is accepted wherever it stands, as a text or as the bytes of a file, and shown again. -/
  again : ∀ toml, check path source = accepted path toml → ∀ other,
    check other (.text toml) = accepted other toml ∧
      check other (.file (Text.Utf8.encode toml)) = accepted other toml

end Cli

namespace Config

def lines (c : Config) : List Line :=
  [.flag "trace_calls" c.traceCalls,
    .blank,.header "validation",.flag "value_kinds" c.validation.valueKinds,
    .flag "element_classes" c.validation.elementClasses,
    .blank,.header "heap"]
    ++ (c.heap.maxObjects.map fun limit => Line.number "max_objects" limit.toNat).toList
    ++ [.flag "reuse_slots" c.heap.reuseSlots]

theorem toList_flag (b : Bool) : (flag b).toList = Line.word b := by cases b <;> rfl

/-- The text of a configuration consists of its lines. -/
theorem toList_render (c : Config) : c.render.toList = c.lines.flatMap Line.chars := by
  unfold render lines
  cases c.heap.maxObjects with
  | none =>
    simp only [toString,String.toList_append,toList_flag]
    simp [Line.chars,Line.entryChars]
  | some limit =>
    simp only [toString,String.toList_append,toList_flag,Nat.toList_repr]
    simp [Line.chars,Line.entryChars]

theorem readable_lines (fits : c.heap.Fits) : ∀ line ∈ c.lines, line.Readable := by
  have bare : Line.Bare "trace_calls" ∧ Line.Bare "validation" ∧ Line.Bare "value_kinds" ∧
      Line.Bare "element_classes" ∧ Line.Bare "heap" ∧ Line.Bare "max_objects" ∧ Line.Bare "reuse_slots" := by
    decide
  obtain ⟨trace,validation,kinds,classes,heap,objects,slots⟩ := bare
  unfold lines
  cases limited : c.heap.maxObjects with
  | none => simp [Line.Readable,trace,validation,kinds,classes,heap,slots]
  | some limit =>
    have within : limit.toNat < 2 ^ 63 := by
      have most := fits limit limited
      omega
    simpa [Line.Readable,trace,validation,kinds,classes,heap,objects,slots] using within

end Config

namespace HeapSettings

def entries (s : HeapSettings) : Entries :=
  (s.maxObjects.map fun limit => ("max_objects",Toml.Value.integer (.ofNat limit.toNat))).toList
    ++ [("reuse_slots",.boolean s.reuseSlots)]

theorem ofToml?_entries (fits : s.Fits) : ofToml? (.table .header s.entries) = some s := by
  obtain ⟨limit,reuse⟩ := s
  cases limit with
  | none => rfl
  | some limit =>
    have read : Toml.Value.natural? (.integer (.ofNat limit.toNat)) = some limit :=
      Toml.Value.natural?_eq_some_iff.mpr ⟨fits limit rfl,rfl⟩
    show (Option.map some (Toml.Value.natural? (.integer (.ofNat limit.toNat)))).bind _ = _
    rw [read]
    rfl

/-- A limit that was read has 63 bits. -/
theorem fits_of_ofToml? (read : ofToml? v = some s) : s.Fits := by
  simp only [ofToml?,Option.bind_eq_bind,Option.bind_eq_some_iff] at read
  obtain ⟨fields,-,limit,limited,reuse,-,done⟩ := read
  cases done
  intro most isLimit
  obtain ⟨-,rfl⟩ | ⟨v,written,-,natural,rfl⟩ := Toml.Fields.optional_eq_some_iff.mp limited
  · cases isLimit
  · cases isLimit
    exact (Toml.Value.natural?_eq_some_iff.mp natural).1

end HeapSettings

namespace Config

/-- The entries of a written configuration, table by table. -/
def entries (c : Config) : Entries :=
  [("trace_calls",.boolean c.traceCalls),
    ("validation",.table .header [("value_kinds",.boolean c.validation.valueKinds),
      ("element_classes",.boolean c.validation.elementClasses)]),
    ("heap",.table .header c.heap.entries)]

/-- The lines of a configuration make the tree of its entries. -/
theorem assemble_lines (c : Config) : Toml.assemble (c.lines.filterMap Line.statement?) = some c.entries := by
  unfold lines entries HeapSettings.entries
  cases c.heap.maxObjects <;> rfl

/-- The text of a configuration is read as that tree. -/
theorem document?_render (fits : c.heap.Fits) : Toml.document? c.render = some (.table .header c.entries) := by
  rw [Toml.document?_lines c.toList_render (readable_lines fits),assemble_lines]
  rfl

theorem ofToml?_entries (fits : c.heap.Fits) : ofToml? (.table .header c.entries) = some c := by
  have settings := HeapSettings.ofToml?_entries fits
  show ((Option.map some (HeapSettings.ofToml? (.table .header c.heap.entries))).map _).bind _ = _
  rw [settings]
  rfl

theorem fits_of_ofToml? (read : ofToml? v = some c) : c.heap.Fits := by
  simp only [ofToml?,Option.bind_eq_bind,Option.bind_eq_some_iff] at read
  obtain ⟨fields,-,trace,-,checks,-,heap,settings,done⟩ := read
  cases done
  obtain ⟨-,rfl⟩ | ⟨v,-,taken⟩ := Toml.Fields.withDefault_eq_some_iff.mp settings
  · rintro limit ⟨⟩
  · exact HeapSettings.fits_of_ofToml? taken

theorem any_greatestLimit_iff : c.heap.maxObjects.any (greatestLimit < ·) = false ↔ c.heap.Fits := by
  have greatest : greatestLimit.toNat = 2 ^ 63 - 1 := rfl
  simp [HeapSettings.Fits,Option.any_eq_false,UInt64.le_iff_toNat_le,greatest]

/-- A configuration is written exactly when its limit has 63 bits. -/
theorem write_eq_ok_iff : c.write = .ok text ↔ c.heap.Fits ∧ c.render = text := by
  rw [write,← any_greatestLimit_iff]
  cases c.heap.maxObjects.any (greatestLimit < ·) <;> simp

/-- The text of a configuration is read as the configuration, if that is accepted. -/
theorem read_render (fits : c.heap.Fits) : Config.read c.render = c.validate.map fun _ => c := by
  have decoded : (Toml.document? c.render >>= ofToml?) = some c := by
    rw [document?_render fits]
    exact ofToml?_entries fits
  rw [read,decoded]
  show c.validate.bind (fun _ => .ok c) = _
  cases c.validate <;> rfl

theorem survives (c : Config) : c.Survives where
  written := by simp [write_eq_ok_iff]
  reads := by
    intro text written
    obtain ⟨fits,rfl⟩ := write_eq_ok_iff.mp written
    exact read_render fits

/-- A configuration that was read can be written, and was accepted. -/
theorem of_read_eq_ok (done : Config.read text = .ok c) : c.heap.Fits ∧ c.validate = .ok () := by
  unfold read at done
  split at done
  · cases done
  · rename_i d decoded
    obtain ⟨tree,-,taken⟩ := Option.bind_eq_some_iff.mp decoded
    cases passed : d.validate with
    | error fault =>
      rw [passed] at done
      cases done
    | ok =>
      rw [passed] at done
      cases done
      exact ⟨fits_of_ofToml? taken,passed⟩

theorem load_eq_ok_iff : load source = .ok c ↔ ∃ text, source.read = .ok text ∧ Config.read text = .ok c := by
  unfold load
  cases source.read with
  | error fault =>
    constructor
    · rintro ⟨⟩
    · rintro ⟨text,⟨⟩,-⟩
  | ok text =>
    show (Config.read text).mapError _ = _ ↔ _
    cases done : Config.read text <;> simp [Except.mapError,done]

theorem load_of_write (written : c.write = .ok text) (valid : c.validate = .ok ()) (copy : source.read = .ok text) :
    load source = .ok c := by
  refine load_eq_ok_iff.mpr ⟨text,copy,?_⟩
  rw [(survives c).reads text written,valid]
  rfl

end Config

namespace Cli

/-- A check accepts and shows exactly the text of what was loaded. -/
theorem check_eq_accepted_iff :
    check path source = accepted path toml ↔ ∃ c, Config.load source = .ok c ∧ c.write = .ok toml := by
  unfold check accepted
  cases Config.load source with
  | error e => simp
  | ok c => cases written : c.write <;> simp [written]

/-- What was loaded is shown. -/
theorem check_of_load (done : Config.load source = .ok c) : check path source = accepted path c.render := by
  obtain ⟨text,-,read⟩ := Config.load_eq_ok_iff.mp done
  exact check_eq_accepted_iff.mpr ⟨c,done,Config.write_eq_ok_iff.mpr ⟨(Config.of_read_eq_ok read).1,rfl⟩⟩

theorem check_failure_iff : (check path source).failure = none ↔ ∃ c, Config.load source = .ok c := by
  constructor
  · intro passed
    unfold check at passed
    cases done : Config.load source with
    | ok c => exact ⟨c,rfl⟩
    | error e =>
      rw [done] at passed
      cases passed
  · rintro ⟨c,done⟩
    rw [check_of_load done]
    rfl

/-- A text that was shown is shown again. -/
theorem check_copy {copy : Source} (shown : check path source = accepted path toml) (same : copy.read = .ok toml)
    (other : String) : check other copy = accepted other toml := by
  obtain ⟨c,done,written⟩ := check_eq_accepted_iff.mp shown
  obtain ⟨text,-,read⟩ := Config.load_eq_ok_iff.mp done
  have valid := (Config.of_read_eq_ok read).2
  exact check_eq_accepted_iff.mpr ⟨c,Config.load_of_write written valid same,written⟩

theorem confirms (path : String) (source : Source) : Confirms path source where
  accepts := check_failure_iff
  shows := by
    intro passed
    obtain ⟨c,done⟩ := check_failure_iff.mp passed
    exact ⟨_,check_of_load done⟩
  again := by
    intro toml shown other
    have bytes : (Source.file (Text.Utf8.encode toml)).read = .ok toml := by rw [Source.read,Text.Utf8.decode_encode]
    exact ⟨check_copy shown rfl other,check_copy shown bytes other⟩

end Cli

/-- Every configuration with a limit of at most 63 bits can be written, and no other one; its text is read as the
configuration, or refused as that is. What a check accepts it shows in a text that it accepts and shows again. -/
theorem configs_survive : (∀ c : Config, c.Survives) ∧ ∀ path source, Cli.Confirms path source :=
  ⟨Config.survives,Cli.confirms⟩

/-- A configuration without room for objects is written, but its text is refused. -/
example : (Config.write { heap := { maxObjects := some 0 } }).toOption.map Config.read =
    some (.error .zeroCapacity) := by
  decide +kernel

end HandleBridge
