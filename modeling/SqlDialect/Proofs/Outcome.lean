import SqlDialect.CommandLine.Run

/-!
# How the program ends

A run of the program loads a configuration, perhaps chooses a dialect and reads a query, logs on the
way, and stops at the first failure. Here is said, apart from that order of events, what can be
wrong with an invocation and what it answers if nothing is.

* `Ends` — how a step ends and what it adds to the error output, with a rule for each way to build
  one.
* `Fault`, `fault?` — what can be wrong with an invocation, and what counts first.
* `Answers` — the result of a command under a configuration.
* `execute_of_fault`, `execute_of_no_fault` — a run fails with the first fault, or gives the result.
  The lines on the error output do not depend on the format.
* `answer_of_parse` — the exit code and the outputs for every command line that can be parsed.
-/

namespace SqlDialect.CommandLine

open Arguments

/-! ## Steps -/

section Steps

variable {α β : Type} {x : Step α} {k : α → Step β} {lines more : List String}

/-- The step ends with a result or a failure and adds lines to the error output, whatever stands
there already. -/
def Ends (x : Step α) (lines : List String) (r : Except Failure α) : Prop :=
  ∀ before, x.run.run before = (r, before ++ lines)

theorem ends_pure (a : α) : Ends (pure a) [] (.ok a) := by
  intro before
  rw [List.append_nil]
  rfl

theorem ends_throw (f : Failure) : Ends (throw f : Step α) [] (.error f) := by
  intro before
  rw [List.append_nil]
  rfl

theorem ends_say (line : String) : Ends (say line) [line] (.ok ()) := fun _ => rfl

theorem Ends.bind {a : α} {r : Except Failure β} (hx : Ends x lines (.ok a))
    (hk : Ends (k a) more r) : Ends (x >>= k) (lines ++ more) r := by
  intro before
  rw [ExceptT.run_bind, StateT.run_bind, hx before, ← List.append_assoc]
  exact hk (before ++ lines)

theorem Ends.bind_error {f : Failure} (hx : Ends x lines (.error f)) :
    Ends (x >>= k) lines (.error f) := by
  intro before
  rw [ExceptT.run_bind, StateT.run_bind, hx before]
  rfl

theorem ends_orFail_ok {ε : Type} (failure : ε → Failure) (a : α) :
    Ends (orFail failure (.ok a)) [] (.ok a) := ends_pure a

theorem ends_orFail_error {ε : Type} (failure : ε → Failure) (e : ε) :
    Ends (orFail failure (.error e) : Step α) [] (.error (failure e)) := ends_throw (failure e)

/-- The step does nothing but add lines to the error output. -/
def Passes (x : Step Unit) : Prop := ∃ lines, Ends x lines (.ok ())

theorem passes_log (filter : Log.Filter) (e : Log.Event) : Passes (log filter e) := by
  unfold log
  split
  · exact ⟨_, ends_say e.line⟩
  · exact ⟨_, ends_pure ()⟩

theorem passes_forM {ε : Type} {f : ε → Step Unit} (hf : ∀ e, Passes (f e)) (es : List ε) :
    Passes (es.forM f) := by
  induction es with
  | nil => exact ⟨_, ends_pure ()⟩
  | cons e es ih =>
    obtain ⟨lines, hlines⟩ := hf e
    obtain ⟨more, hmore⟩ := ih
    exact ⟨_, hlines.bind hmore⟩

/-- A line that is only written if much is to be said, and what comes next. -/
theorem ends_when (b : Bool) (line : String) (next : Unit → Step α) {r : Except Failure α}
    (h : Ends (next ()) more r) :
    Ends (if b then say line >>= next else next ()) ((if b then [line] else []) ++ more) r := by
  cases b with
  | true => exact (ends_say line).bind h
  | false => exact h

end Steps

/-! ## Faults -/

/-- What can be wrong with an invocation. -/
inductive Fault where
  /-- The configuration cannot be loaded. -/
  | config (cause : Error)
  /-- The list of boolean columns is refused. -/
  | columns (cause : Query.ColumnsError)
  /-- A dialect is not known. -/
  | dialect (name : String)
  /-- The standard input is not a text. -/
  | input
  deriving DecidableEq, Repr

/-- How a fault is reported. -/
def Fault.failure : Fault → Failure
  | config cause => ⟨some "loading config", cause.chain⟩
  | columns cause => .plain (.columns cause)
  | dialect name => .plain (.unknownDialect name)
  | input => ⟨some "reading query from stdin", [ReadError.message .notUtf8]⟩

/-- The configuration in force: of the file asked for, else of the one in the working directory,
else of the user's, else the default. -/
def configAt (w : Surroundings) : Option String → Except Error Config
  | some path => readConfig w path
  | none =>
    if (w.files localConfig).isFile then readConfig w localConfig
    else
      match userConfig? w with
      | some path => if (w.files path).isFile then readConfig w path else .ok {}
      | none => .ok {}

/-- Booleans are spelled out for a command: the configuration says so, and the command does not
refuse it. -/
def spellsBooleans (config : Config) : Command → Bool
  | .translate _ noBooleans => config.booleans.enabled && !noBooleans
  | .rules => config.booleans.enabled
  | _ => false

/-- The list of boolean columns is refused where booleans are spelled out. -/
def columnsFault? (w : Surroundings) (config : Config) (spelled : Bool) : Option Fault :=
  if spelled then
    match Query.BooleanColumns.ofList w.objection config.booleans.columns with
    | .error e => some (.columns e)
    | .ok _ => none
  else none

/-- The dialect that a command is given, for the commands that write a clause. -/
def dialectName? (config : Config) : Command → Option String
  | .random name _ | .paging name _ _ | .top name _ | .limit _ name _ => name.or config.dialect
  | _ => none

/-- A dialect is given and not known, and the invocation is strict. -/
def dialectFault? (strict : Bool) : Option String → Option Fault
  | some name => if strict && (Dialect.lookup? name).isNone then some (.dialect name) else none
  | none => none

/-- The query is not in the arguments, and the standard input is not a text. -/
def queryFault? (w : Surroundings) : Option String → Option Fault
  | some _ => none
  | none => if (String.fromUTF8? w.input).isNone then some .input else none

/-- The query of a command that takes one is missing. -/
def inputFault? (w : Surroundings) : Command → Option Fault
  | .translate query _ | .limit query _ _ => queryFault? w query
  | _ => none

/-- The first fault of a command under a configuration. -/
def commandFault? (w : Surroundings) (config : Config) (strict : Bool) (command : Command) :
    Option Fault :=
  (columnsFault? w config (spellsBooleans config command)).or
    ((dialectFault? strict (dialectName? config command)).or (inputFault? w command))

/-- The first fault of an invocation. -/
def fault? (w : Surroundings) (inv : Invocation) : Option Fault :=
  match configAt w inv.config with
  | .error e => some (.config e)
  | .ok config => commandFault? w config inv.strict inv.command

/-! ## Results -/

/-- What a command gives. -/
inductive Result where
  /-- A query and its translation. -/
  | query (input output : String)
  /-- A clause, or a query with one, in a dialect. -/
  | clause (d : Dialect) (text : String)
  /-- The names of rules. -/
  | rules (ids : List String)
  deriving DecidableEq, Repr

/-- The result as output. -/
def Result.text (w : Surroundings) (inv : Invocation) : Result → String
  | query input output => queryText inv input output
  | clause d text => clauseText inv d text
  | rules ids => rulesText w inv ids

/-- The query that a command is given: in its arguments, else on the standard input. -/
def givenQuery? (w : Surroundings) : Option String → Option String
  | some query => some query
  | none => (String.fromUTF8? w.input).map trimLineEnds

/-- The dialect in force: the one given, else that of the configuration, else the default. -/
def dialectOf (config : Config) (name : Option String) : Dialect :=
  .resolve (name.or config.dialect)

/-- The result of a command under a configuration. -/
inductive Answers (w : Surroundings) (config : Config) : Command → Result → Prop
  | translate {query : Option String} {noBooleans : Bool} {p : Pipeline} {s : String}
      (hp : (withoutBooleans config noBooleans).pipeline w.objection = .ok p)
      (hs : givenQuery? w query = some s) :
      Answers w config (.translate query noBooleans) (.query s (p.translate s))
  | random (name : Option String) (distinct : Bool) :
      Answers w config (.random name distinct)
        (.clause (dialectOf config name) (Clause.orderByRandom (dialectOf config name) distinct))
  | paging (name : Option String) (offset pageSize : Int) :
      Answers w config (.paging name offset pageSize)
        (.clause (dialectOf config name) (Clause.paging (dialectOf config name) offset pageSize))
  | top (name : Option String) (count : Int) :
      Answers w config (.top name count)
        (.clause (dialectOf config name) (Clause.top (dialectOf config name) count))
  | limit {query : Option String} {s : String} (hs : givenQuery? w query = some s)
      (name : Option String) (count : Int) :
      Answers w config (.limit query name count)
        (.clause (dialectOf config name) (Clause.appendLimit (dialectOf config name) s count))
  | rules {p : Pipeline} (hp : config.pipeline w.objection = .ok p) :
      Answers w config .rules (.rules p.ids)

/-! ## The steps of a run -/

section Run

variable {w : Surroundings} {inv : Invocation} {config : Config}

/-- Where the configuration is looked for. -/
theorem configAt_eq (w : Surroundings) (path : Option String) :
    configAt w path = match path.or (discover? w) with
      | some path => readConfig w path
      | none => .ok {} := by
  cases path with
  | some path => rfl
  | none =>
    rw [Option.none_or, configAt, discover?]
    split
    · rfl
    · cases userConfig? w with
      | none => rfl
      | some path =>
        simp only [Option.filter_some]
        split <;> rfl

theorem loadConfig_of_ok {path : Option String} (h : configAt w path = .ok config)
    (filter : Log.Filter) : ∃ lines, Ends (loadConfig w filter path) lines (.ok config) := by
  rw [configAt_eq] at h
  unfold loadConfig
  cases hpath : path.or (discover? w) with
  | none =>
    rw [hpath] at h
    cases h
    exact ⟨_, ends_pure _⟩
  | some path =>
    simp only [hpath] at h
    obtain ⟨lines, hlines⟩ := passes_log filter (.configLoaded path)
    simp only [h]
    exact ⟨_, (ends_orFail_ok _ config).bind (hlines.bind (ends_pure config))⟩

theorem loadConfig_of_error {path : Option String} {e : Error} (h : configAt w path = .error e)
    (filter : Log.Filter) :
    Ends (loadConfig w filter path) [] (.error (Fault.config e).failure) := by
  rw [configAt_eq] at h
  unfold loadConfig
  cases hpath : path.or (discover? w) with
  | none =>
    rw [hpath] at h
    cases h
  | some path =>
    simp only [hpath] at h
    simp only [h]
    exact (ends_orFail_error _ e).bind_error

/-- A dialect that is not known is an error if the invocation is strict, and the default if not. -/
theorem pickDialect_eq (inv : Invocation) (config : Config) (name : Option String) :
    pickDialect inv config name = match name.or config.dialect with
      | some spelling =>
        if inv.strict && (Dialect.lookup? spelling).isNone then .error (.unknownDialect spelling)
        else .ok (dialectOf config name)
      | none => .ok (dialectOf config name) := by
  unfold pickDialect dialectOf
  cases name.or config.dialect with
  | none => rfl
  | some spelling =>
    cases inv.strict with
    | false => rfl
    | true =>
      simp only [Dialect.parse, Dialect.resolve, Option.bind_some]
      cases Dialect.lookup? spelling <;> rfl

theorem chooseDialect_of_fault (w : Surroundings) (inv : Invocation) (config : Config)
    {name : Option String} {f : Fault}
    (h : dialectFault? inv.strict (name.or config.dialect) = some f) :
    Ends (chooseDialect w inv config name) [] (.error f.failure) := by
  have hpick := pickDialect_eq inv config name
  unfold chooseDialect
  cases hname : name.or config.dialect with
  | none =>
    rw [hname] at h
    cases h
  | some spelling =>
    simp only [hname, dialectFault?] at h hpick
    split at h
    · rename_i hunknown
      cases h
      rw [hpick, if_pos hunknown]
      exact (ends_orFail_error _ _).bind_error
    · cases h

theorem chooseDialect_of_no_fault (w : Surroundings) (inv : Invocation) (config : Config)
    {name : Option String} (h : dialectFault? inv.strict (name.or config.dialect) = none) :
    ∃ lines, Ends (chooseDialect w inv config name) lines (.ok (dialectOf config name)) := by
  have hpick : pickDialect inv config name = .ok (dialectOf config name) := by
    rw [pickDialect_eq]
    cases hname : name.or config.dialect with
    | none => rfl
    | some spelling =>
      simp only [hname, dialectFault?] at h
      split at h
      · cases h
      · rename_i hknown
        exact if_neg hknown
  unfold chooseDialect
  rw [hpick]
  exact ⟨_, (ends_orFail_ok _ _).bind (ends_when inv.verbose _ (fun _ => pure _) (ends_pure _))⟩

theorem readQuery_of_fault {query : Option String} {f : Fault} (h : queryFault? w query = some f) :
    Ends (readQuery w query) [] (.error f.failure) := by
  cases query with
  | some query => cases h
  | none =>
    cases hinput : String.fromUTF8? w.input with
    | none =>
      obtain rfl : Fault.input = f := by simpa [queryFault?, hinput] using h
      simp only [readQuery, hinput]
      exact ends_throw _
    | some text => simp [queryFault?, hinput] at h

theorem readQuery_of_no_fault {query : Option String} (h : queryFault? w query = none) :
    ∃ s, givenQuery? w query = some s ∧ Ends (readQuery w query) [] (.ok s) := by
  cases query with
  | some query => exact ⟨query, rfl, ends_pure query⟩
  | none =>
    cases hinput : String.fromUTF8? w.input with
    | none => simp [queryFault?, hinput] at h
    | some text =>
      refine ⟨trimLineEnds text, by rw [givenQuery?, hinput]; rfl, ?_⟩
      simp only [readQuery, hinput]
      exact ends_pure _

/-- The pipeline of a command, with the rule for boolean columns if booleans are spelled out. -/
theorem pipeline_withoutBooleans (objection : Query.BooleanColumns.Objection) (config : Config)
    (noBooleans : Bool) :
    (withoutBooleans config noBooleans).pipeline objection =
      if config.booleans.enabled && !noBooleans then
        (Query.BooleanColumns.ofList objection config.booleans.columns).map fun c =>
          .standard (some c)
      else .ok (.standard none) := by
  obtain ⟨dialect, enabled, columns⟩ := config
  cases noBooleans <;> cases enabled <;>
    simp [withoutBooleans, Config.pipeline, Config.booleanColumns, Except.map]
  cases Query.BooleanColumns.ofList objection columns <;> rfl

theorem ofConfig_of_fault (config : Config) (noBooleans : Bool) {f : Fault}
    (h : columnsFault? w config (config.booleans.enabled && !noBooleans) = some f) :
    Ends (orFail Failure.plain
        (Translator.ofConfig w.objection (withoutBooleans config noBooleans))) []
      (.error f.failure) := by
  have hpipeline := pipeline_withoutBooleans w.objection config noBooleans
  unfold columnsFault? at h
  split at h
  · rename_i hspelled
    split at h
    · rename_i e he
      cases h
      rw [if_pos hspelled, he] at hpipeline
      rw [Translator.ofConfig, hpipeline]
      exact ends_orFail_error _ _
    · cases h
  · cases h

theorem ofConfig_of_no_fault (config : Config) (noBooleans : Bool)
    (h : columnsFault? w config (config.booleans.enabled && !noBooleans) = none) :
    ∃ p, (withoutBooleans config noBooleans).pipeline w.objection = .ok p ∧
      Ends (orFail Failure.plain
          (Translator.ofConfig w.objection (withoutBooleans config noBooleans))) []
        (.ok ⟨p⟩) := by
  have hpipeline := pipeline_withoutBooleans w.objection config noBooleans
  have hok : ∃ p, (withoutBooleans config noBooleans).pipeline w.objection = .ok p := by
    rw [hpipeline]
    unfold columnsFault? at h
    split at h
    · rename_i hspelled
      rw [if_pos hspelled]
      split at h
      · cases h
      · rename_i columns hcolumns
        exact ⟨_, by rw [hcolumns]; rfl⟩
    · rename_i hspelled
      exact ⟨_, if_neg hspelled⟩
  obtain ⟨p, hp⟩ := hok
  refine ⟨p, hp, ?_⟩
  rw [Translator.ofConfig, hp]
  exact ends_orFail_ok _ _

/-- Carrying out a command fails with its first fault. -/
theorem perform_of_fault (filter : Log.Filter) (inv : Invocation) {command : Command} {f : Fault}
    (h : commandFault? w config inv.strict command = some f) :
    ∃ lines, ∀ json,
      Ends (perform w filter { inv with json, command } config) lines (.error f.failure) := by
  -- each command has only some of the faults; the first of them stops it where it is found
  cases command with
  | translate query noBooleans =>
    have h : (columnsFault? w config (config.booleans.enabled && !noBooleans)).or
        (queryFault? w query) = some f := h
    rcases Option.or_eq_some_iff.1 h with hcolumns | ⟨hcolumns, hquery⟩
    · exact ⟨_, fun json => (ofConfig_of_fault config noBooleans hcolumns).bind_error⟩
    · obtain ⟨p, -, hp⟩ := ofConfig_of_no_fault config noBooleans hcolumns
      exact ⟨_, fun json => hp.bind (readQuery_of_fault hquery).bind_error⟩
  | random name distinct | paging name offset pageSize | top name count =>
    have h : (dialectFault? inv.strict (name.or config.dialect)).or none = some f := h
    rw [Option.or_none] at h
    exact ⟨_, fun json => (chooseDialect_of_fault w _ config h).bind_error⟩
  | limit query name count =>
    have h : (dialectFault? inv.strict (name.or config.dialect)).or (queryFault? w query) =
        some f := h
    rcases Option.or_eq_some_iff.1 h with hdialect | ⟨hdialect, hquery⟩
    · exact ⟨_, fun json => (chooseDialect_of_fault w _ config hdialect).bind_error⟩
    · obtain ⟨lines, hlines⟩ := chooseDialect_of_no_fault w inv config hdialect
      exact ⟨_, fun json => hlines.bind (readQuery_of_fault hquery).bind_error⟩
  | rules =>
    have h : (columnsFault? w config config.booleans.enabled).or none = some f := h
    rw [Option.or_none, ← Bool.and_true config.booleans.enabled] at h
    exact ⟨_, fun json => (ofConfig_of_fault config false h).bind_error⟩

/-- A command that does nothing but write a clause of its dialect. -/
theorem clause_of_no_fault (w : Surroundings) (inv : Invocation) {name : Option String}
    (h : (dialectFault? inv.strict (name.or config.dialect)).or none = none)
    (clause : Dialect → String) :
    ∃ lines, ∀ json,
      Ends (do
          let d ← chooseDialect w { inv with json } config name
          return clauseText { inv with json } d (clause d)) lines
        (.ok (clauseText { inv with json } (dialectOf config name)
          (clause (dialectOf config name)))) := by
  rw [Option.or_none] at h
  obtain ⟨lines, hlines⟩ := chooseDialect_of_no_fault w inv config h
  exact ⟨_, fun json => hlines.bind (ends_pure _)⟩

/-- Carrying out a command without a fault gives its result. -/
theorem perform_of_no_fault (filter : Log.Filter) (inv : Invocation) {command : Command}
    (h : commandFault? w config inv.strict command = none) :
    ∃ r lines, Answers w config command r ∧
      ∀ json, Ends (perform w filter { inv with json, command } config) lines
        (.ok (r.text w { inv with json })) := by
  cases command with
  | translate query noBooleans =>
    have h : (columnsFault? w config (config.booleans.enabled && !noBooleans)).or
        (queryFault? w query) = none := h
    obtain ⟨hcolumns, hquery⟩ := Option.or_eq_none_iff.1 h
    obtain ⟨p, hp, htranslator⟩ := ofConfig_of_no_fault config noBooleans hcolumns
    obtain ⟨s, hs, hread⟩ := readQuery_of_no_fault hquery
    have hanswer : Answers w config (.translate query noBooleans)
        (.query s (Translator.translate ⟨p⟩ s)) := by
      rw [Translator.translate_eq]
      exact .translate hp hs
    -- between the query and the answer there is only logging
    obtain ⟨lines, hlines⟩ := passes_forM (passes_log filter)
      ((Translator.report? ⟨p⟩ s).elim [] Log.Event.ofReport)
    exact ⟨_, _, hanswer, fun json => htranslator.bind (hread.bind
      (ends_when inv.verbose _ (fun _ => _) (hlines.bind (ends_pure _))))⟩
  | random name distinct =>
    obtain ⟨lines, hlines⟩ := clause_of_no_fault w inv h (Clause.orderByRandom · distinct)
    exact ⟨_, lines, .random name distinct, hlines⟩
  | paging name offset pageSize =>
    obtain ⟨lines, hlines⟩ := clause_of_no_fault w inv h (Clause.paging · offset pageSize)
    exact ⟨_, lines, .paging name offset pageSize, hlines⟩
  | top name count =>
    obtain ⟨lines, hlines⟩ := clause_of_no_fault w inv h (Clause.top · count)
    exact ⟨_, lines, .top name count, hlines⟩
  | limit query name count =>
    have h : (dialectFault? inv.strict (name.or config.dialect)).or (queryFault? w query) =
        none := h
    obtain ⟨hdialect, hquery⟩ := Option.or_eq_none_iff.1 h
    obtain ⟨lines, hlines⟩ := chooseDialect_of_no_fault w inv config hdialect
    obtain ⟨s, hs, hread⟩ := readQuery_of_no_fault hquery
    exact ⟨_, _, .limit hs name count, fun json => hlines.bind (hread.bind (ends_pure _))⟩
  | rules =>
    have h : (columnsFault? w config config.booleans.enabled).or none = none := h
    rw [Option.or_none, ← Bool.and_true config.booleans.enabled] at h
    obtain ⟨p, hp, htranslator⟩ := ofConfig_of_no_fault config false h
    exact ⟨_, _, .rules hp, fun json => htranslator.bind (ends_pure _)⟩

/-- A run fails with the first fault of its invocation. -/
theorem execute_of_fault {inv : Invocation} {f : Fault} (h : fault? w inv = some f) :
    ∃ lines, ∀ json, Ends (execute w { inv with json }) lines (.error f.failure) := by
  let filter := Log.Filter.choose (w.environment "RUST_LOG") inv.verbose
  unfold fault? at h
  cases hconfig : configAt w inv.config with
  | error e =>
    rw [hconfig] at h
    cases h
    exact ⟨_, fun json => (loadConfig_of_error hconfig filter).bind_error⟩
  | ok config =>
    simp only [hconfig] at h
    obtain ⟨lines, hlines⟩ := loadConfig_of_ok hconfig filter
    obtain ⟨more, hmore⟩ := perform_of_fault filter inv h
    exact ⟨_, fun json => hlines.bind (hmore json)⟩

/-- A run without a fault gives the result of its command. -/
theorem execute_of_no_fault {inv : Invocation} (h : fault? w inv = none) :
    ∃ config r lines, configAt w inv.config = .ok config ∧ Answers w config inv.command r ∧
      ∀ json, Ends (execute w { inv with json }) lines (.ok (r.text w { inv with json })) := by
  let filter := Log.Filter.choose (w.environment "RUST_LOG") inv.verbose
  unfold fault? at h
  cases hconfig : configAt w inv.config with
  | error e =>
    rw [hconfig] at h
    cases h
  | ok config =>
    simp only [hconfig] at h
    obtain ⟨lines, hlines⟩ := loadConfig_of_ok hconfig filter
    obtain ⟨r, more, hanswer, hmore⟩ := perform_of_no_fault filter inv h
    exact ⟨config, r, _, rfl, hanswer, fun json => hlines.bind (hmore json)⟩

/-- A run that ends well leaves the result on the standard output. -/
theorem run_of_ok {inv : Invocation} {lines : List String} {output : String}
    (h : Ends (execute w inv) lines (.ok output)) : run w inv = ⟨0, output, unlines lines⟩ := by
  rw [run, h []]
  rfl

/-- The last line of a run that fails. -/
def Fault.line (w : Surroundings) (f : Fault) : String :=
  paint w.colours "1;31" "Error:" ++ " " ++ f.failure.text

/-- A run that fails leaves the standard output empty. -/
theorem run_of_error {inv : Invocation} {lines : List String} {f : Fault}
    (h : Ends (execute w inv) lines (.error f.failure)) :
    run w inv = ⟨1, "", unlines (lines ++ [f.line w])⟩ := by
  rw [run, h []]
  rfl

end Run

/-! ## Answers -/

/-- A command has one result. -/
theorem Answers.unique {w : Surroundings} {config : Config} {command : Command} {r r' : Result}
    (h : Answers w config command r) (h' : Answers w config command r') : r' = r := by
  cases h with
  | translate hp hs =>
    cases h' with
    | translate hp' hs' =>
      cases hp.symm.trans hp'
      cases hs.symm.trans hs'
      rfl
  | random | paging | top =>
    cases h'
    rfl
  | limit hs =>
    cases h' with
    | limit hs' =>
      cases hs.symm.trans hs'
      rfl
  | rules hp =>
    cases h' with
    | rules hp' =>
      cases hp.symm.trans hp'
      rfl

/-- Surroundings without variables and files, in which nobody objects to anything. -/
def Surroundings.bare (input : ByteArray) : Surroundings where
  environment _ := none
  files _ := .refused .notFound
  configDir := none
  input := input
  terminal := false
  complaint _ _ := ""
  objection _ := none
  notice _ _ := ""

end SqlDialect.CommandLine
