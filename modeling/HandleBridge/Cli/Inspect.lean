import HandleBridge.Cli.Arguments
import HandleBridge.Config
import HandleBridge.Schema.Document

/-!
Showing documents: the classes of a schema with their feature tables, and the settings of a configuration. A command
leaves behind what it printed and the failure that ended it, if one did; a failure is shown with its cause below it,
indented line by line.
-/

namespace HandleBridge.Cli

/-- Why a command ended early. -/
inductive Failure where
  | plain (e : Error)
  /-- An error in a context of its own. -/
  | within (context : String) (cause : Error)
  /-- A demonstration that did not go as it should. -/
  | surprise (text : String)
  deriving DecidableEq

namespace Failure

/-- Text with blanks at the start of every line. -/
def indented (text : String) : String :=
  String.ofList ("    ".toList ++ text.toList.flatMap fun c => if c = '\n' then "\n    ".toList else [c])

/-- Error whose wording ends the report. -/
def last? : Failure → Option Error
  | plain e | within _ e => some e
  | surprise _ => none

def report (f : Failure) : String :=
  let text := match f with
    | plain e => e.message
    | within context e => context ++ "\n\nCaused by:\n" ++ indented e.message
    | surprise text => text
  "Error: " ++ text ++ if f.last?.any Error.endsOpen then "" else "\n"

end Failure

/-- What a command printed, and how it ended. -/
structure Outcome where
  printed : String
  failure : Option Failure := none

namespace Outcome

def code (o : Outcome) : UInt32 := if o.failure.isSome then 1 else 0

/-- What a command writes about its failure. -/
def complaint (o : Outcome) : String := (o.failure.map Failure.report).getD ""

end Outcome

/-- Exit code of a command line that is none. -/
def usageCode : UInt32 := 2

def padRight (width : Nat) (text : String) : String :=
  String.ofList (text.toList.rightpad width ' ')

def padLeft (width : Nat) (text : String) : String :=
  String.ofList (text.toList.leftpad width ' ')

def kindText : FeatureKind → String
  | .data kind => kind.name
  | .reference target true => "-> " ++ target ++ "[*]"
  | .reference target false => "-> " ++ target

def featureLine (f : Feature) : String :=
  "  " ++ padLeft 3 (toString f.id.index.toNat) ++ "  " ++ padRight 20 f.name ++ " " ++ kindText f.kind

def classLine (p : Package) (c : ClassType) : String :=
  let parent := match c.parent? >>= p.class? with
    | some parent => " extends " ++ parent.name
    | none => ""
  c.name ++ " (#" ++ c.id.display ++ ")" ++ parent ++ if c.isAbstract then " [abstract]" else ""

/-- Lines of a class, after an empty one. -/
def classLines (p : Package) (c : ClassType) : List String :=
  "" :: classLine p c :: c.features.map featureLine

/-- Lines of a package before its classes. -/
def packageLines (p : Package) : List String :=
  ["Package:  " ++ p.name] ++ (if p.uri = "" then [] else ["NS URI:   " ++ p.uri])
    ++ ["Classes:  " ++ toString p.classes.length]

/-- Shows the classes of a package, or one of them. -/
def showPackage (p : Package) (cls : Option String) : Outcome :=
  match cls with
  | none => ⟨lines (packageLines p ++ p.classes.flatMap (classLines p)),none⟩
  | some name =>
    match p.requireNamed name with
    | .ok c => ⟨lines (packageLines p ++ classLines p c),none⟩
    | .error e => ⟨lines (packageLines p),some (.plain e)⟩

/-- Shows the schema at a path. -/
def inspect (path : String) (source : Source) (cls : Option String) : Outcome :=
  match Package.load source with
  | .ok p => showPackage p cls
  | .error e => ⟨"",some (.within ("failed to load schema " ++ path) e)⟩

/-- Checks the configuration at a path and shows all its settings. -/
def check (path : String) (source : Source) : Outcome :=
  match Config.load source with
  | .error e => ⟨"",some (.within ("invalid configuration " ++ path) e)⟩
  | .ok c =>
    let printed := lines [path ++ ": ok",""]
    match c.write with
    | .ok text => ⟨printed ++ text,none⟩
    | .error fault => ⟨printed,some (.plain (.config fault))⟩

end HandleBridge.Cli
