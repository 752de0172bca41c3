/-!
# The arguments of the program

The program has options of its own and commands with options of theirs; the program's options may
stand before and behind the command. An option has a long name and perhaps a short one, and takes a
value or not. A value follows its option (`--name value`, `-n value`) or is attached to it
(`--name=value`, `-nvalue`, `-n=value`). Behind `--` all arguments are positional.

* `Arguments.parse` reads the arguments as an `Invocation`, or says why there is none.
-/

namespace SqlDialect.Arguments

/-- What the program is asked to do. -/
inductive Command where
  | translate (query : Option String) (noBooleans : Bool)
  | random (dialect : Option String) (distinct : Bool)
  | paging (dialect : Option String) (offset pageSize : Int)
  | top (dialect : Option String) (count : Int)
  | limit (query : Option String) (dialect : Option String) (count : Int)
  | rules
  deriving DecidableEq, Repr

/-- A command with the options of the program. -/
structure Invocation where
  config : Option String
  strict : Bool
  json : Bool
  verbose : Bool
  command : Command
  deriving DecidableEq, Repr

/-- Why there is nothing to do: the arguments are wrong, or they ask for help or the version. -/
inductive Stop where
  | usage
  | help
  | version
  deriving DecidableEq, Repr

/-- What an option does. -/
inductive Kind where
  /-- It takes no value. -/
  | flag
  /-- It takes a value, one that `accepts` accepts. With `hyphens` the next argument is the value
  even if it starts with a hyphen. -/
  | value (hyphens : Bool) (accepts : String → Bool)
  /-- It stops everything else. -/
  | stop (why : Stop)

/-- An option. -/
structure Opt where
  long : String
  short : Option Char := none
  kind : Kind

/-- Reads a whole number of 64 bits: decimal digits, perhaps after a sign. -/
def parseInt? (s : String) : Option Int :=
  let (negative, ds) :=
    match s.toList with
    | '-' :: ds => (true, ds)
    | '+' :: ds => (false, ds)
    | ds => (false, ds)
  if ds.isEmpty || !ds.all Char.isDigit then none
  else
    let n : Int := ds.foldl (fun n d => 10 * n + (d.toNat - '0'.toNat)) 0
    let n := if negative then -n else n
    if -Nat.pow 2 63 ≤ n ∧ n < Nat.pow 2 63 then some n else none

/-- The options that the program itself and every command have. -/
def sharedOptions : List Opt :=
  [{ long := "config", kind := .value false fun v => !v.isEmpty },
    { long := "strict", kind := .flag },
    { long := "format", short := some 'f', kind := .value false ["text", "json"].contains },
    { long := "verbose", short := some 'v', kind := .flag },
    { long := "help", short := some 'h', kind := .stop .help }]

/-- The option for a dialect. -/
def dialectOption : Opt :=
  { long := "dialect", short := some 'd', kind := .value false fun _ => true }

/-- An option for a whole number. -/
def numberOption (long : String) (short : Option Char) : Opt :=
  { long, short, kind := .value true fun v => (parseInt? v).isSome }

/-- A command: its name, its own options, and whether a query may follow. -/
structure Grammar where
  name : String
  options : List Opt := []
  takesQuery : Bool := false

/-- The commands. -/
def commands : List Grammar :=
  [{ name := "translate", options := [{ long := "no-booleans", kind := .flag }],
     takesQuery := true },
    { name := "random", options := [dialectOption, { long := "distinct", kind := .flag }] },
    { name := "paging",
      options := [dialectOption, numberOption "offset" none, numberOption "page-size" none] },
    { name := "top", options := [dialectOption, numberOption "count" (some 'c')] },
    { name := "limit", options := [dialectOption, numberOption "count" (some 'c')],
      takesQuery := true },
    { name := "rules" }]

/-- What has been read at one level: the program's or the command's. -/
structure Matches where
  flags : List String := []
  values : List (String × String) := []
  query : Option String := none
  /-- An option that is still to be recorded, with its value once that is there. -/
  pending : Option (Opt × Option String) := none

namespace Matches

/-- The option was given. -/
def has (m : Matches) (long : String) : Bool :=
  m.flags.contains long || (m.values.lookup long).isSome

/-- Records an option; none may be given twice. -/
def record (m : Matches) (o : Opt) (value : Option String) : Except Stop Matches :=
  match o.kind, value with
  | .stop why, none => .error why
  | .flag, none =>
    if m.has o.long then .error .usage else .ok { m with flags := o.long :: m.flags }
  | .value _ accepts, some v =>
    if m.has o.long || !accepts v then .error .usage
    else .ok { m with values := (o.long, v) :: m.values }
  | _, _ => .error .usage

/-- Records the option that is still to be recorded. -/
def resolve (m : Matches) : Except Stop Matches :=
  match m.pending with
  | none => .ok m
  | some (o, value) => { m with pending := none }.record o value

/-- An option that waits for its value. -/
def waiting? (m : Matches) : Option Opt :=
  match m.pending with
  | some (o, none) => some o
  | _ => none

/-- The option that waits takes any argument as its value. -/
def takesAll (m : Matches) : Bool :=
  match m.waiting? with
  | some ⟨_, _, .value hyphens _⟩ => hyphens
  | _ => false

/-- Takes an option with its attached value, if any; one that needs a value may have to wait for
it. -/
def give (m : Matches) (o : Opt) (attached : Option String) : Except Stop Matches := do
  let m ← m.resolve
  match o.kind, attached with
  | .value _ _, none => return { m with pending := some (o, none) }
  | _, _ => m.record o attached

/-- Takes short options in one argument, from the text after the hyphen. -/
def giveShort (options : List Opt) : Matches → List Char → Except Stop Matches
  | m, [] => .ok m
  | m, c :: cs =>
    match options.find? fun o => o.short == some c with
    | none => .error .usage
    | some o =>
      match o.kind, cs with
      | .value _ _, [] => m.give o none
      | .value _ _, '=' :: v => m.give o (some (String.ofList v))
      | .value _ _, v => m.give o (some (String.ofList v))
      | _, cs => do giveShort options (← m.give o none) cs

/-- Takes a long option, from the text after the hyphens. -/
def giveLong (options : List Opt) (m : Matches) (text : List Char) : Except Stop Matches :=
  let name := String.ofList (text.takeWhile (· != '='))
  let attached :=
    match text.dropWhile (· != '=') with
    | [] => none
    | _ :: v => some (String.ofList v)
  match options.find? fun o => o.long == name with
  | none => .error .usage
  | some o => m.give o attached

/-- Takes a positional argument: a query, if one may stand here. -/
def givePositional (takesQuery : Bool) (m : Matches) (arg : String) : Except Stop Matches := do
  let m ← m.resolve
  if takesQuery && m.query.isNone then return { m with query := some arg } else .error .usage

/-- Takes one argument that is not a command. -/
def take (options : List Opt) (takesQuery : Bool) (m : Matches) (arg : String) :
    Except Stop Matches :=
  let asValue : Except Stop Matches :=
    match m.waiting? with
    | some o => .ok { m with pending := some (o, some arg) }
    | none => m.givePositional takesQuery arg
  if m.takesAll then asValue
  else
    match arg.toList with
    | '-' :: '-' :: text => m.giveLong options text
    | '-' :: c :: text => m.giveShort options (c :: text)
    | _ => asValue

/-- Takes the arguments of a command. -/
def takeAll (options : List Opt) (takesQuery : Bool) : Matches → List String →
    Except Stop Matches
  | m, [] => m.resolve
  | m, "--" :: args =>
    if m.takesAll then do
      takeAll options takesQuery (← m.take options takesQuery "--") args
    else if m.waiting?.isSome then .error .usage
    else do (← args.foldlM (givePositional takesQuery) m).resolve
  | m, arg :: args => do takeAll options takesQuery (← m.take options takesQuery arg) args

end Matches

/-- The options that may stand before a command. -/
def programOptions : List Opt :=
  sharedOptions ++ [{ long := "version", short := some 'V', kind := .stop .version }]

/-- What comes before the command, the command and what follows it. -/
structure Split where
  before : Matches
  command : Grammar
  after : List String

/-- The commands that help is asked for are known. -/
def helpFor : List String → Except Stop Split
  | [] => .error .help
  | [name] =>
    if name == "help" || commands.any fun g => g.name == name then .error .help
    else .error .usage
  | _ => .error .usage

/-- Finds the command. -/
def findCommand : Matches → List String → Except Stop Split
  | _, [] => .error .usage
  | m, arg :: args =>
    if m.waiting?.isNone && arg == "help" then helpFor args
    else
      match commands.find? fun g => m.waiting?.isNone && g.name == arg with
      | some command => .ok ⟨m, command, args⟩
      | none =>
        if arg == "--" then .error .usage
        else do findCommand (← m.take programOptions false arg) args

/-- A whole number that must be given. -/
def needInt (m : Matches) (long : String) : Except Stop Int :=
  match (m.values.lookup long).bind parseInt? with
  | some n => .ok n
  | none => .error .usage

/-- The command with what was given for it. -/
def commandOf (name : String) (m : Matches) : Except Stop Command :=
  let dialect := m.values.lookup "dialect"
  match name with
  | "translate" => .ok (.translate m.query (m.has "no-booleans"))
  | "random" => .ok (.random dialect (m.has "distinct"))
  | "paging" => do
    return .paging dialect (← needInt m "offset") (← needInt m "page-size")
  | "top" => do return .top dialect (← needInt m "count")
  | "limit" => do return .limit m.query dialect (← needInt m "count")
  | "rules" => .ok .rules
  | _ => .error .usage

/-- Reads the arguments. `configVariable` is the path of the configuration that the environment
gives; the arguments override it. Where an option stands before and behind the command, the one
behind it counts. -/
def parse (args : List String) (configVariable : Option String) : Except Stop Invocation := do
  let split ← findCommand {} args
  let own ← Matches.takeAll (sharedOptions ++ split.command.options) split.command.takesQuery {}
    split.after
  let command ← commandOf split.command.name own
  let shared ← split.before.resolve
  let given (long : String) : Option String :=
    (own.values.lookup long).or (shared.values.lookup long)
  if configVariable == some "" && !(own.has "config" && shared.has "config") then .error .usage
  return {
    config := (given "config").or configVariable
    strict := own.has "strict" || shared.has "strict"
    json := given "format" == some "json"
    verbose := own.has "verbose" || shared.has "verbose"
    command }

end SqlDialect.Arguments
