/-!
Command lines and texts about them. A command line names one of three commands with its file and option, or asks for
help or for the version. Options may stand before and after the file, and after two hyphens nothing is an option any
more.
-/

namespace HandleBridge.Cli

/-- What help is about. -/
inductive Topic where
  | program
  | inspect
  | check
  | demo
  | help
  deriving DecidableEq

/-- What a command line asks for. -/
inductive Command where
  /-- Lists the classes of a schema, or one of them. -/
  | inspect (schema : String) (cls : Option String)
  /-- Checks a configuration. -/
  | check (config : String)
  /-- Demonstrates proxies, with the settings of a file. -/
  | demo (config : Option String)
  | help (topic : Topic)
  | version
  deriving DecidableEq

/-- Why a command line comes to no command. -/
inductive Halt where
  | usage
  /-- Help is asked for before anything is wrong. -/
  | help
  deriving DecidableEq

/-- What a command takes. -/
structure Signature where
  /-- Long name of the option; its short name is the same for all. -/
  option : List Char
  /-- Whether the option names a file, which an empty text cannot. -/
  namesFile : Bool
  /-- Whether the command takes a file by its place. -/
  takesFile : Bool

/-- What a command was given. -/
structure Given where
  option : Option String := none
  file : Option String := none

namespace Signature

def shortName : Char := 'c'

/-- Whether an argument has the form of an option, so that it is no value of one. -/
def isOption : List Char → Bool
  | '-' :: _ :: _ => true
  | _ => false

/-- Takes the value of the option, which may be given once. -/
def takeOption (s : Signature) (given : Given) (v : List Char) : Except Halt Given :=
  if given.option.isSome ∨ (s.namesFile ∧ v = []) then .error .usage
  else .ok { given with option := some (String.ofList v) }

def takeFile (s : Signature) (given : Given) (v : List Char) : Except Halt Given :=
  if !s.takesFile ∨ given.file.isSome ∨ v = [] then .error .usage
  else .ok { given with file := some (String.ofList v) }

/-- Text after the first equals sign, if there is one, and the text before it. -/
def splitEquals (cs : List Char) : List Char × Option (List Char) :=
  match cs.dropWhile (· ≠ '=') with
  | _ :: v => (cs.takeWhile (· ≠ '='),some v)
  | [] => (cs,none)

/-- What an argument of the form of an option stands for. -/
inductive Reading where
  | halt (h : Halt)
  /-- The option with its value in the same argument. -/
  | whole (v : List Char)
  /-- The option, whose value is the next argument. -/
  | awaiting

/-- Reads an argument of the form of an option. -/
def readOption (s : Signature) (arg : List Char) : Reading :=
  match arg with
  | '-' :: '-' :: long =>
    match splitEquals long with
    | (name,v) =>
      if name = s.option then v.elim .awaiting .whole
      else if name = "help".toList ∧ v = none then .halt .help
      else .halt .usage
  | '-' :: c :: rest =>
    if c = 'h' then .halt .help
    else if c ≠ shortName then .halt .usage
    else match rest with
      | [] => .awaiting
      | '=' :: v => .whole v
      | v => .whole v
  | _ => .halt .usage

/-- Reads the arguments of a command from left to right. -/
def read (s : Signature) (given : Given) : List (List Char) → Except Halt Given
  | [] => .ok given
  | arg :: rest =>
    if arg = ['-','-'] then rest.foldlM s.takeFile given
    else if !isOption arg then do s.read (← s.takeFile given arg) rest
    else match s.readOption arg, rest with
      | .halt h, _ => .error h
      | .whole v, rest => do s.read (← s.takeOption given v) rest
      | .awaiting, v :: rest => if isOption v then .error .usage else do s.read (← s.takeOption given v) rest
      | .awaiting, [] => .error .usage

end Signature

def inspectSignature : Signature := ⟨"class".toList,false,true⟩

def configSignature : Signature := ⟨"config".toList,true,false⟩

/-- Reads the arguments of a command that takes what the signature says. -/
def readCommand (s : Signature) (topic : Topic) (args : List String) (make : Given → Option Command) :
    Option Command :=
  match s.read {} (args.map String.toList) with
  | .ok given => make given
  | .error .help => some (.help topic)
  | .error .usage => none

def Topic.ofName? : String → Option Topic
  | "inspect" => some inspect
  | "check" => some check
  | "demo" => some demo
  | "help" => some help
  | _ => none

/-- Command of a command line; none if it is not one. -/
def Command.ofArguments? : List String → Option Command
  | "inspect" :: args =>
    readCommand inspectSignature .inspect args fun given => given.file.map (.inspect · given.option)
  | "check" :: args => readCommand configSignature .check args fun given => given.option.map .check
  | "demo" :: args => readCommand configSignature .demo args fun given => some (.demo given.option)
  | ["help"] | "--help" :: _ => some (.help .program)
  | ["help",name] => (Topic.ofName? name).map .help
  | "--version" :: _ => some .version
  | arg :: _ =>
    match arg.toList with
    | '-' :: 'h' :: _ => some (.help .program)
    | '-' :: 'V' :: _ => some .version
    | _ => none
  | [] => none

/-- Lines as one text, each with its end. -/
def lines (ls : List String) : String := String.join (ls.map (· ++ "\n"))

def versionText : String := "ecore-proxy 0.1.0\n"

def Topic.text : Topic → String
  | program => lines [
      "Inspect and exercise ecore-proxy schemas",
      "",
      "Usage: ecore-proxy <COMMAND>",
      "",
      "Commands:",
      "  inspect  List the classes and feature ids of a schema file",
      "  check    Validate a bridge configuration file",
      "  demo     Run the built-in model against the in-memory heap",
      "  help     Print this message or the help of the given subcommand(s)",
      "",
      "Options:",
      "  -h, --help     Print help",
      "  -V, --version  Print version"]
  | inspect => lines [
      "List the classes and feature ids of a schema file",
      "",
      "Usage: ecore-proxy inspect [OPTIONS] <SCHEMA>",
      "",
      "Arguments:",
      "  <SCHEMA>  Schema file (TOML)",
      "",
      "Options:",
      "  -c, --class <CLASS>  Only show this class",
      "  -h, --help           Print help"]
  | check => lines [
      "Validate a bridge configuration file",
      "",
      "Usage: ecore-proxy check --config <CONFIG>",
      "",
      "Options:",
      "  -c, --config <CONFIG>  Configuration file (TOML)",
      "  -h, --help             Print help"]
  | demo => lines [
      "Run the built-in model against the in-memory heap",
      "",
      "Usage: ecore-proxy demo [OPTIONS]",
      "",
      "Options:",
      "  -c, --config <CONFIG>  Configuration file (TOML); defaults apply when absent",
      "  -h, --help             Print help"]
  | help => lines [
      "Print this message or the help of the given subcommand(s)",
      "",
      "Usage: ecore-proxy help [COMMAND]...",
      "",
      "Arguments:",
      "  [COMMAND]...  Print help for the subcommand(s)"]

end HandleBridge.Cli
