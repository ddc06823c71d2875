import TextTemplate.CommandLine.Run

/-!
# The program

The outer layer of the command: it reads the files that a command line names, the
standard input where the template comes from there, and the environment, and
prints what the command answers.
-/

namespace TextTemplate

/-- The fault behind an error of the system. -/
def faultOf : IO.Error → ReadFault
  | .permissionDenied _ code text => .refused text code.toNat
  | .inappropriateType _ code text => .refused text code.toNat
  | .invalidArgument _ code text => .refused text code.toNat
  | .resourceExhausted _ code text => .refused text code.toNat
  | .otherError code text => .refused text code.toNat
  | _ => .notFound

/-- The bytes of a file. -/
def readBytes (path : String) : IO (Except ReadFault ByteArray) := do
  try
    return .ok (← IO.FS.readBinFile path)
  catch error =>
    return .error (faultOf error)

/-- The files of some paths. -/
def readFiles (paths : List String) : IO Files := do
  let entries ← paths.mapM fun path => do
    return (path, ← readBytes path)
  return fun path => (entries.lookup path).getD (.error .notFound)

/-- The variables of some names. -/
def readEnvironment (names : List String) : IO Environment := do
  let entries ← names.mapM fun name => do
    return (name, ← IO.getEnv name)
  return fun name => (entries.lookup name).join

/-- What a command line needs of the world around it. -/
def gather (line : List String) : IO Surroundings := do
  let environment ← readEnvironment localeVariables
  match Arguments.read line with
  | .error _ => return ⟨fun _ => .error .notFound, .empty, environment⟩
  | .ok arguments =>
      let files ← readFiles (arguments.config.toList ++ arguments.file.toList)
      let input ←
        if arguments.template.isNone && arguments.file.isNone then
          (← IO.getStdin).readBinToEnd
        else pure .empty
      return ⟨files, input, environment⟩

/-- Prints an outcome. -/
def Outcome.print (outcome : Outcome) : IO Unit := do
  let errors ← IO.getStderr
  for warning in outcome.warnings do
    errors.putStr ("WARN " ++ warning ++ "\n")
  errors.putStr outcome.errors
  let output ← IO.getStdout
  output.putStr outcome.output
  output.flush

end TextTemplate

/-- Answers a command line. -/
def main (line : List String) : IO UInt32 := do
  let surroundings ← TextTemplate.gather line
  let coloured ← (← IO.getStderr).isTty
  let outcome := TextTemplate.respond line surroundings coloured
  outcome.print
  return outcome.status.toUInt32
