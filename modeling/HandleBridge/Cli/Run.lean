import HandleBridge.Cli.Inspect
import HandleBridge.Proxy.Sequence
import HandleBridge.Schema.Sample

/-!
Running commands. A command reads at most one file, and what it does is a function of what that file holds. The
demonstration works on the sample package: options in a list that does not own them, a copy that shares nothing with its
source, and a heap that is empty at the end.
-/

namespace HandleBridge.Cli

/-- A heap with the lines printed so far. -/
structure Demo.Stage where
  native : Native := {}
  printed : List String := []

/-- Work of a demonstration. -/
abbrev Demo (α : Type) := ExceptT Failure (StateM Demo.Stage) α

namespace Demo

/-- Runs a routine on the heap. -/
def always {α : Type} (b : Bridge) (r : Routine α) : Demo α :=
  ExceptT.lift fun stage =>
    let (a,native) := b.runInMemory r stage.native
    (a,{ stage with native })

/-- Runs work that may fail on the heap. -/
def act {α : Type} (b : Bridge) (a : Action α) : Demo α := do
  match ← always b a.run with
  | .ok x => return x
  | .error e => throw (.plain e)

def print (line : String) : Demo Unit :=
  modify fun stage => { stage with printed := stage.printed ++ [line] }

/-- Goes on only if something holds. -/
def ensure (holds : Bool) (otherwise : String) : Demo Unit :=
  if holds then pure () else throw (.surprise otherwise)

def option (name value : String) (b : Bridge) : Action ObjectProxy := do
  let o ← b.create Sample.optionValue.toView
  o.write b Sample.optionName name
  o.write b Sample.value value
  return o

def optionLine (b : Bridge) (o : ObjectProxy) : Action String := do
  let name : String ← o.read b Sample.optionName
  let value : String ← o.read b Sample.value
  return "  " ++ name ++ " = " ++ value

def printOptions (b : Bridge) (options : ObjectProxy) : Demo Unit := do
  let values ← act b (options.sequence b Sample.optionValues)
  let size ← act b (values.size b)
  print s!"ListOptionsValues ({size.toNat} entries):"
  let (_,items) ← act b (values.iterate b)
  for item in items do
    if let some o ← act b (liftExcept item) then print (← act b (optionLine b o))
where
  /-- What an iteration met as work that may fail. -/
  liftExcept {α : Type} (item : Except Error α) : Action α := item

/-- Makes the options of the demonstration and puts them into a list. -/
def fill (b : Bridge) (options : ObjectProxy) : Demo (List ObjectProxy) :=
  [("VISHNU_CLOSE_POLICY","1"),("VISHNU_TIMEOUT","3600")].mapM fun (name,value) => act b do
    let o ← option name value b
    let values ← options.sequence b Sample.optionValues
    values.pushBack b o
    return o

/-- Makes the settings for job outputs and prints them. -/
def outputs (b : Bridge) : Demo ObjectProxy := do
  let o ← act b do
    let o ← b.create Sample.jobOutputOptions.toView
    o.write b Sample.machineId "MA_1"
    o.write b Sample.outputDir "/tmp/outputs"
    o.write b Sample.days (7 : Int32)
    return o
  let machine : String ← act b (o.read b Sample.machineId)
  let dir : String ← act b (o.read b Sample.outputDir)
  let days : Int32 ← act b (o.read b Sample.days)
  print s!"JobOutputOptions: machine={machine} dir={dir} days={days.toInt}"
  return o

/-- Copies the settings and changes the copy. -/
def copy (b : Bridge) (source : ObjectProxy) : Demo ObjectProxy := do
  let copied ← act b do
    let copied ← source.duplicate b Sample.jobOutputOptions.toView
    copied.write b Sample.days (30 : Int32)
    return copied
  let days : Int32 ← act b (source.read b Sample.days)
  ensure (days = 7) "copy shares state with its source"
  return copied

/-- Copies the handles of the options to a list of their own. -/
def scratch (b : Bridge) (options : ObjectProxy) : Demo ListProxy := do
  let l ← act b (b.createList Sample.optionValue.toView)
  let size ← act b do
    l.insertAll b (← options.sequence b Sample.optionValues)
    l.size b
  print s!"Copied {size.toNat} option handles"
  return l

def run (b : Bridge) : Demo Unit := do
  let options ← act b (b.create Sample.listOptionsValues.toView)
  let owned ← fill b options
  printOptions b options
  let outputs ← outputs b
  let copied ← copy b outputs
  let scratch ← scratch b options
  always b (options.proxy.drop b)
  let heap := (← get).native.heap
  ensure (owned.all fun o => heap.isLive o.proxy.handle) "destroying the list owner destroyed its elements"
  print s!"Live before release: {heap.live}"
  ([scratch.proxy,copied.proxy,outputs.proxy] ++ owned.map (·.proxy)).forM fun p => always b (p.drop b)
  let heap := (← get).native.heap
  print s!"Heap: live={heap.live} created={heap.created} destroyed={heap.destroyed}"
  ensure (heap.live = 0) s!"{heap.live} native objects leaked"

end Demo

/-- Demonstrates proxies under the settings of a source, or under the usual ones. -/
def demo (source : Option Source) : Outcome :=
  let start : Except Error Bridge := do
    let config ← source.elim (.ok {}) Config.load
    return ⟨← Sample.package.mapError .schema,config⟩
  match start with
  | .error e => ⟨"",some (.plain e)⟩
  | .ok b =>
    let (result,stage) := (ExceptT.run (Demo.run b)).run {}
    let failure := match result with
      | .ok () => none
      | .error f => some f
    ⟨lines stage.printed,failure⟩

namespace Command

/-- Path of the file that a command reads. -/
def path? : Command → Option String
  | inspect schema _ => some schema
  | check config => some config
  | demo config => config
  | help _ | version => none

/-- Runs a command, given what stands at each path. -/
def run (look : String → Source) : Command → Outcome
  | inspect schema cls => Cli.inspect schema (look schema) cls
  | check config => Cli.check config (look config)
  | demo config => Cli.demo (config.map look)
  | help topic => ⟨topic.text,none⟩
  | version => ⟨versionText,none⟩

end Command

end HandleBridge.Cli
