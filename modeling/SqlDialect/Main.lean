import SqlDialect.CommandLine.Run

/-!
# The program

Gathers the surroundings of the process, lets `CommandLine.answer` decide, and writes what it
answers.
-/

namespace SqlDialect.CommandLine

/-- The variables that the program looks at. -/
def variableNames : List String :=
  ["CLICOLOR", "CLICOLOR_FORCE", "HOME", "NO_COLOR", "RUST_LOG", "SQLSHIFT_CONFIG",
    "XDG_CONFIG_HOME"]

/-- An error of the system, by its number; the system gives some numbers with a minus sign. -/
def systemError (code : UInt32) (reason : String) : ReadError :=
  let code := if code < 0x80000000 then code else 0 - code
  match code with
  | 2 => .notFound
  | 13 => .permissionDenied
  | 20 => .notDirectory
  | 21 => .isDirectory
  | 36 => .nameTooLong
  | code => .system reason code.toNat

/-- Why a file was not read. -/
def readError : IO.Error → ReadError
  | .otherError code reason | .resourceBusy code reason | .resourceVanished code reason
  | .unsupportedOperation code reason | .hardwareFault code reason
  | .unsatisfiedConstraints code reason | .illegalOperation code reason
  | .protocolError code reason | .timeExpired code reason => systemError code reason
  | .interrupted _ code reason | .noFileOrDirectory _ code reason => systemError code reason
  | .alreadyExists _ code reason | .invalidArgument _ code reason | .permissionDenied _ code reason
  | .resourceExhausted _ code reason | .inappropriateType _ code reason
  | .noSuchThing _ code reason => systemError code reason
  | .unexpectedEof => .system "unexpected end of file" 0
  | .userError reason => .system reason 0

/-- The path leads somewhere. -/
def leadsSomewhere (path : String) : IO Bool := do
  try
    let _ ← IO.FS.realPath path
    return true
  catch _ => return false

/-- Looks up a path on the disk. What is there and has nothing below it counts as a file, whether or
not it can be read; devices are not told apart from files. -/
def readDisk (path : String) : IO FileAnswer := do
  let isFile := (← leadsSomewhere path) && !(← leadsSomewhere (path ++ "/."))
  try
    return ⟨isFile, .ok (← IO.FS.readBinFile path)⟩
  catch e => return ⟨isFile, .error (readError e)⟩

/-- The directory of the user's configurations, as far as the environment gives it away. -/
def configDir? (environment : String → Option String) : Option String :=
  ((environment "XDG_CONFIG_HOME").filter (·.startsWith "/")).or
    (((environment "HOME").filter (!·.isEmpty)).map (below · ".config"))

/-- The paths that may hold the configuration of an invocation. -/
def configPaths (w : Surroundings) (inv : Arguments.Invocation) : List String :=
  match inv.config with
  | some path => [path]
  | none => localConfig :: (userConfig? w).toList

/-- The command reads a query from the standard input. -/
def readsInput : Arguments.Command → Bool
  | .translate none _ => true
  | .limit none _ _ => true
  | _ => false

/-- The surroundings of the process, as far as an invocation looks at them. -/
def gather (w : Surroundings) (inv : Arguments.Invocation) : IO Surroundings := do
  let files ← (configPaths w inv).mapM fun path => return (path, ← readDisk path)
  let input ← if readsInput inv.command then (← IO.getStdin).readBinToEnd else pure w.input
  return { w with files := fun path => (files.lookup path).getD (.refused .notFound), input }

end SqlDialect.CommandLine

open SqlDialect in
def main (args : List String) : IO UInt32 := do
  let values ← CommandLine.variableNames.filterMapM fun name =>
    return (← IO.getEnv name).map (name, ·)
  let environment (name : String) : Option String := values.lookup name
  let bare : CommandLine.Surroundings :=
    { environment
      files := fun _ => .refused .notFound
      configDir := CommandLine.configDir? environment
      input := .empty
      terminal := ← (← IO.getStdout).isTty
      complaint := fun _ e => e.message
      objection := fun _ => none
      notice := fun _ _ => "" }
  let w ←
    match Arguments.parse args (bare.environment "SQLSHIFT_CONFIG") with
    | .ok inv => CommandLine.gather bare inv
    | .error _ => pure bare
  let outcome := CommandLine.answer w args
  IO.print outcome.output
  IO.eprint outcome.errors
  return outcome.exit.toUInt32
