import HandleBridge.Cli.Run

/-!
The command line.
-/

namespace HandleBridge

/-- Why a file could not be read. -/
def faultOf : IO.Error → FileFault
  | .noFileOrDirectory _ _ _ => .missing
  | .inappropriateType _ code _ => if code = 20 then .notDirectory else .directory
  | .invalidArgument _ code details => if code = 36 then .nameTooLong else .other details
  | e => .other e.toString

/-- What stands at a path of the file system. -/
def lookUp (path : String) : IO Source := do
  try
    let bytes ← IO.FS.readBinFile path
    return .file bytes.toList
  catch e => return .failing (faultOf e)

def runArguments (args : List String) : IO UInt32 := do
  match Cli.Command.ofArguments? args with
  | none =>
    IO.eprint (Cli.Topic.text .program)
    return Cli.usageCode
  | some command =>
    let source ← match command.path? with
      | some path => lookUp path
      | none => pure (.failing .missing)
    let outcome := command.run fun _ => source
    IO.print outcome.printed
    IO.eprint outcome.complaint
    return outcome.code

end HandleBridge

def main (args : List String) : IO UInt32 := HandleBridge.runArguments args
