import SqlDialect.Clause
import SqlDialect.CommandLine.Arguments
import SqlDialect.Dialect.Json
import SqlDialect.FileTree
import SqlDialect.Log
import SqlDialect.Translator

/-!
# Running the program

The program sees its arguments and its `Surroundings`: the environment, the files and the standard
input, and the word of those it relies on. It answers with an `Outcome`: an exit code and what it
writes on its two outputs.

* `loadConfig` finds and reads the configuration;
* `execute` carries out a command; it fails at the first thing that goes wrong;
* `run` carries out an invocation and reports a failure;
* `answer` reads the arguments first.
-/

namespace SqlDialect.CommandLine

open Arguments

/-- What the program sees besides its arguments. -/
structure Surroundings where
  /-- The variables of the environment. -/
  environment : String → Option String
  /-- What there is under a path. -/
  files : String → FileAnswer
  /-- The directory of the user's configurations, if the user has one. -/
  configDir : Option String
  /-- The standard input. -/
  input : ByteArray
  /-- The standard output is a terminal. -/
  terminal : Bool
  /-- What the reader of documents says about a fault in a text. -/
  complaint : String → ConfigError → String
  /-- What the search engine has against a list of fragments of boolean columns. -/
  objection : Query.BooleanColumns.Objection
  /-- What the argument parser writes when there is nothing to carry out. -/
  notice : List String → Stop → String

/-- The answer of the program. -/
structure Outcome where
  exit : Nat
  output : String
  errors : String
  deriving DecidableEq, Repr

/-! ## Colours -/

/-- Colours are used when they are asked for, and on a terminal unless they are refused. -/
def Surroundings.colours (w : Surroundings) : Bool :=
  match w.environment "CLICOLOR_FORCE" with
  | some v =>
    if v != "0" then true
    else (w.environment "NO_COLOR").isNone && unforced
  | none => (w.environment "NO_COLOR").isNone && unforced
where
  /-- Colours without being asked for. -/
  unforced : Bool := w.environment "CLICOLOR" != some "0" && w.terminal

/-- Sets off a text by a terminal code. A code that ends all setting off inside the text is followed
by the code once more. -/
def paint (colours : Bool) (code text : String) : String :=
  if colours then
    let start := "\x1b[" ++ code ++ "m"
    let stop := "\x1b[0m"
    start ++ (stop ++ start).intercalate (text.splitOn stop) ++ stop
  else text

/-! ## What happens on the way -/

/-- Why a command fails: an error, perhaps in the course of something. -/
structure Failure where
  doing : Option String
  messages : List String
  deriving DecidableEq, Repr

/-- The wording of a failure: what was being done, the error, and its causes. -/
def Failure.text (f : Failure) : String := ": ".intercalate (f.doing.toList ++ f.messages)

/-- An error in the course of nothing in particular. -/
def Failure.plain (e : Error) : Failure := ⟨none, e.chain⟩

/-- A step of a command: it writes lines on the error output and fails or gives a result. -/
abbrev Step (α : Type) := ExceptT Failure (StateM (List String)) α

/-- Writes a line on the error output. -/
def say (line : String) : Step Unit := modify fun lines => lines ++ [line]

/-- Gives a result or fails with an error. -/
def orFail {ε α : Type} (failure : ε → Failure) : Except ε α → Step α
  | .ok a => return a
  | .error e => throw (failure e)

/-- Logs an event if the filter allows it. -/
def log (filter : Log.Filter) (e : Log.Event) : Step Unit :=
  if filter.allows e then say e.line else return ()

/-! ## The configuration -/

/-- The file of the configuration in the working directory. -/
def localConfig : String := "sqlshift.toml"

/-- A path below a directory. -/
def below (directory name : String) : String :=
  if directory.isEmpty || directory.endsWith "/" then directory ++ name
  else directory ++ "/" ++ name

/-- The user's configuration. -/
def userConfig? (w : Surroundings) : Option String :=
  w.configDir.map fun dir => below (below dir "sqlshift") "config.toml"

/-- The first configuration that is there: in the working directory, or the user's. -/
def discover? (w : Surroundings) : Option String :=
  if (w.files localConfig).isFile then some localConfig
  else (userConfig? w).filter fun path => (w.files path).isFile

/-- Reads the configuration in a file. -/
def readConfig (w : Surroundings) (path : String) : Except Error Config := do
  let text ← (w.files path).text.mapError Error.read
  (Config.parse text).mapError fun e => .config e (w.complaint text e)

/-- Reads the configuration: the one asked for, else one that is there, else the default. -/
def loadConfig (w : Surroundings) (filter : Log.Filter) (path : Option String) : Step Config :=
  match path.or (discover? w) with
  | none => return {}
  | some path => do
    let config ← orFail (fun e => ⟨some "loading config", e.chain⟩) (readConfig w path)
    log filter (.configLoaded path)
    return config

/-! ## The commands -/

/-- The text without the line ends at its end. -/
def trimLineEnds (s : String) : String :=
  String.ofList (s.toList.reverse.dropWhile fun c => c == '\n' || c == '\r').reverse

/-- The query in the arguments, else the one on the standard input. -/
def readQuery (w : Surroundings) : Option String → Step String
  | some query => return query
  | none =>
    match String.fromUTF8? w.input with
    | some text => return trimLineEnds text
    | none => throw ⟨some "reading query from stdin", [ReadError.message .notUtf8]⟩

/-- The dialect in the arguments, else that of the configuration. -/
def pickDialect (inv : Invocation) (config : Config) (name : Option String) :
    Except Error Dialect :=
  match name.or config.dialect, inv.strict with
  | some name, true => (Dialect.parse name).mapError fun e => .unknownDialect e.name
  | name, _ => .ok (Dialect.resolve name)

/-- The dialect of a command, reported if much is to be said. -/
def chooseDialect (w : Surroundings) (inv : Invocation) (config : Config)
    (name : Option String) : Step Dialect := do
  let d ← orFail Failure.plain (pickDialect inv config name)
  if inv.verbose then
    say (paint w.colours "2" "Dialect:" ++ " " ++ paint w.colours "36" d.name)
  return d

/-- A clause as output. -/
def clauseText (inv : Invocation) (d : Dialect) (clause : String) : String :=
  if inv.json then
    (Json.object [("clause", .string clause), ("dialect", d.toJson)]).pretty ++ "\n"
  else clause ++ "\n"

/-- A translated query as output. -/
def queryText (inv : Invocation) (query translated : String) : String :=
  if inv.json then
    (Json.object [("input", .string query), ("output", .string translated)]).pretty ++ "\n"
  else translated ++ "\n"

/-- A number with a blank before it if it has one digit. -/
def padded (n : Nat) : String := if n < 10 then s!" {n}" else toString n

/-- A numbered list of rules as output. -/
def ruleLines (colours : Bool) (ids : List String) : String :=
  String.join ((ids.zipIdx 1).map fun (id, n) =>
    padded n ++ ". " ++ paint colours "36" id ++ "\n")

/-- The rules as output. -/
def rulesText (w : Surroundings) (inv : Invocation) (ids : List String) : String :=
  if inv.json then (Json.array (ids.map Json.string)).pretty ++ "\n"
  else ruleLines w.colours ids

/-- The configuration without spelled-out booleans, if that is asked for. -/
def withoutBooleans (config : Config) (noBooleans : Bool) : Config :=
  if noBooleans then { config with booleans := { config.booleans with enabled := false } }
  else config

/-- Carries out a command with its configuration; the result is the output. -/
def perform (w : Surroundings) (filter : Log.Filter) (inv : Invocation) (config : Config) :
    Step String :=
  match inv.command with
  | .translate query noBooleans => do
    let translator ← orFail Failure.plain
      (Translator.ofConfig w.objection (withoutBooleans config noBooleans))
    let query ← readQuery w query
    if inv.verbose then
      say (paint w.colours "2" "Input:" ++ " " ++ paint w.colours "33" query)
    ((translator.report? query).elim [] Log.Event.ofReport).forM (log filter)
    return queryText inv query (translator.translate query)
  | .random dialect distinct => do
    let d ← chooseDialect w inv config dialect
    return clauseText inv d (Clause.orderByRandom d distinct)
  | .paging dialect offset pageSize => do
    let d ← chooseDialect w inv config dialect
    return clauseText inv d (Clause.paging d offset pageSize)
  | .top dialect count => do
    let d ← chooseDialect w inv config dialect
    return clauseText inv d (Clause.top d count)
  | .limit query dialect count => do
    let d ← chooseDialect w inv config dialect
    let query ← readQuery w query
    return clauseText inv d (Clause.appendLimit d query count)
  | .rules => do
    let translator ← orFail Failure.plain (Translator.ofConfig w.objection config)
    return rulesText w inv translator.pipeline.ids

/-- Loads the configuration and carries out the command. -/
def execute (w : Surroundings) (inv : Invocation) : Step String := do
  let filter := Log.Filter.choose (w.environment "RUST_LOG") inv.verbose
  let config ← loadConfig w filter inv.config
  perform w filter inv config

/-- Lines of text, each with its end. -/
def unlines (lines : List String) : String := String.join (lines.map (· ++ "\n"))

/-- Carries out an invocation. A failure is reported on the error output. -/
def run (w : Surroundings) (inv : Invocation) : Outcome :=
  match (execute w inv).run.run [] with
  | (.ok output, lines) => ⟨0, output, unlines lines⟩
  | (.error failure, lines) =>
    ⟨1, "", unlines (lines ++ [paint w.colours "1;31" "Error:" ++ " " ++ failure.text])⟩

/-- The name and version of the program. -/
def versionText : String := "sqlshift 0.3.0\n"

/-- Reads the arguments and carries out what they ask for. -/
def answer (w : Surroundings) (args : List String) : Outcome :=
  match Arguments.parse args (w.environment "SQLSHIFT_CONFIG") with
  | .ok inv => run w inv
  | .error .version => ⟨0, versionText, ""⟩
  | .error .help => ⟨0, w.notice args .help, ""⟩
  | .error .usage => ⟨2, "", w.notice args .usage⟩

end SqlDialect.CommandLine
