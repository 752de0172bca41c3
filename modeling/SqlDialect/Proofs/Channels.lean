import Mathlib.Data.List.DropRight
import SqlDialect.Proofs.JsonRoundTrip
import SqlDialect.Proofs.Outcome

/-!
# Channels and formats

A query can be given in the arguments or on the standard input, and the answer can be written as
text or as JSON. Neither changes what the answer is.

* `trimLineEnds_append` — what is cut off the standard input are the line ends at its end.
* `QueryCommand` — the commands that take a query.
* `run_input` — a query on the standard input is treated as one in the arguments.
* `Answers.text_json` — the answer can be read back from its text in JSON.
* `run_query` — both channels and both formats give the same answer.
-/

namespace SqlDialect.CommandLine

open Arguments

/-! ## The standard input -/

/-- The characters that end a line. -/
def lineEnds : List Char := ['\n', '\r']

/-- Line ends at the end of a text are cut off, and nothing else is. -/
theorem trimLineEnds_append {s t : String} (hs : ∀ c, s.toList.getLast? = some c → c ∉ lineEnds)
    (ht : ∀ c ∈ t.toList, c ∈ lineEnds) : trimLineEnds (s ++ t) = s := by
  have hends : ∀ c, (c == '\n' || c == '\r') = true ↔ c ∈ lineEnds := by
    intro c
    simp [lineEnds]
  have hcut : (s ++ t).toList.reverse.dropWhile (fun c => c == '\n' || c == '\r') =
      s.toList.reverse.dropWhile fun c => c == '\n' || c == '\r' := by
    rw [String.toList_append, List.reverse_append]
    exact List.dropWhile_append_of_pos fun c hc => (hends c).2 (ht c (List.mem_reverse.1 hc))
  have hkeep : s.toList.rdropWhile (fun c => c == '\n' || c == '\r') = s.toList := by
    rw [List.rdropWhile_eq_self_iff]
    intro hne hlast
    exact hs _ (List.getLast?_eq_some_getLast hne) ((hends _).1 hlast)
  rw [trimLineEnds, hcut]
  exact (congrArg String.ofList hkeep).trans String.ofList_toList

/-- The bytes of a text are read as that text. -/
theorem fromUTF8?_toUTF8 (s : String) : String.fromUTF8? s.toUTF8 = some s := by
  have hvalid : s.toUTF8.IsValidUTF8 := s.isValidUTF8
  rw [String.fromUTF8?, dif_pos hvalid]
  rfl

/-- A command that takes a query, without its query. -/
inductive QueryCommand where
  | translate (noBooleans : Bool)
  | limit (dialect : Option String) (count : Int)
  deriving DecidableEq, Repr

namespace QueryCommand

/-- The command with a query in its arguments, or without one. -/
def on : QueryCommand → Option String → Command
  | translate noBooleans, query => .translate query noBooleans
  | limit dialect count, query => .limit query dialect count

/-- The member of the answer in JSON that is the answer in text. -/
def answerName : QueryCommand → String
  | translate _ => "output"
  | limit _ _ => "clause"

/-- The members of the answer in JSON that are the query. -/
def queryNames : QueryCommand → List String
  | translate _ => ["input"]
  | limit _ _ => []

end QueryCommand

/-- A query on the standard input is treated as one in the arguments. -/
theorem run_input (w : Surroundings) (inv : Invocation) (c : QueryCommand) {s : String}
    {input : ByteArray} (h : givenQuery? { w with input } none = some s) :
    run { w with input } { inv with command := c.on none } =
      run w { inv with command := c.on (some s) } := by
  have hread : readQuery { w with input } none = readQuery w (some s) := by
    obtain ⟨text, htext, rfl⟩ := Option.map_eq_some_iff.1 h
    simp only [readQuery, htext]
  have hexecute : execute { w with input } { inv with command := c.on none } =
      execute w { inv with command := c.on (some s) } := by
    unfold execute
    refine bind_congr fun config => ?_
    -- the surroundings differ in the input alone, and only the query is read from there
    cases c with
    | translate noBooleans =>
      simp only [QueryCommand.on, perform, hread]
      rfl
    | limit dialect count =>
      simp only [QueryCommand.on, perform, hread]
      rfl
  unfold run
  rw [hexecute]
  rfl

/-! ## The format -/

/-- Two strings under two names are read back from the output. -/
theorem parse?_pair {a b : String} (hab : a ≠ b) (x y : String) :
    Json.parse? ((Json.object [(a, .string x), (b, .string y)]).pretty ++ "\n") =
      some (.object [(a, .string x), (b, .string y)]) := by
  have hnames : ([(a, x), (b, y)].map Prod.fst).Nodup := by simp [hab]
  exact Json.parse?_pretty (Json.readsBack_strings hnames) (by decide)

/-- The answer in text is a member of the answer in JSON. -/
theorem Answers.text_json {w : Surroundings} {config : Config} {c : QueryCommand} {s : String}
    {r : Result} (h : Answers w config (c.on (some s)) r) (inv : Invocation) :
    ∃ y v, r.text w { inv with json := false } = y ++ "\n" ∧
      Json.parse? (r.text w { inv with json := true }) = some v ∧
      v.lookup? c.answerName = some (.string y) ∧
      ∀ name ∈ c.queryNames, v.lookup? name = some (.string s) := by
  cases c with
  | translate noBooleans =>
    cases h with
    | translate hp hs =>
      cases hs
      refine ⟨_, _, rfl, parse?_pair (by decide) _ _, rfl, ?_⟩
      intro name hname
      obtain rfl := List.mem_singleton.1 hname
      rfl
  | limit dialect count =>
    cases h with
    | limit hs => exact ⟨_, _, rfl, parse?_pair (by decide) _ _, rfl, nofun⟩

/-- **The channel and the format do not change the answer.** Let a query not end with a line end. On
the standard input, with any line ends behind it, it gives the same exit code and the same outputs
as in the arguments. As text and as JSON it gives the same exit code and the same error output; on a
success the text is the answer and a line end, and JSON has the answer and, for a translation, the
query. -/
theorem run_query (w : Surroundings) (inv : Invocation) (c : QueryCommand) (s t : String)
    (hs : ∀ e, s.toList.getLast? = some e → e ∉ lineEnds) (ht : ∀ e ∈ t.toList, e ∈ lineEnds) :
    run { w with input := (s ++ t).toUTF8 } { inv with command := c.on none } =
      run w { inv with command := c.on (some s) } ∧
    let text := run w { inv with json := false, command := c.on (some s) }
    let json := run w { inv with json := true, command := c.on (some s) }
    text.exit = json.exit ∧ text.errors = json.errors ∧
      (text.exit = 0 → ∃ y v, text.output = y ++ "\n" ∧ Json.parse? json.output = some v ∧
        v.lookup? c.answerName = some (.string y) ∧
        ∀ name ∈ c.queryNames, v.lookup? name = some (.string s)) := by
  have hgiven : givenQuery? { w with input := (s ++ t).toUTF8 } none = some s := by
    rw [givenQuery?, fromUTF8?_toUTF8, Option.map_some, trimLineEnds_append hs ht]
  refine ⟨run_input w inv c hgiven, ?_⟩
  intro text json
  cases hf : fault? w { inv with command := c.on (some s) } with
  | some f =>
    obtain ⟨lines, hlines⟩ := execute_of_fault hf
    have htext : text = ⟨1, "", _⟩ := run_of_error (hlines false)
    have hjson : json = ⟨1, "", _⟩ := run_of_error (hlines true)
    rw [htext, hjson]
    exact ⟨rfl, rfl, fun hzero => absurd hzero Nat.one_ne_zero⟩
  | none =>
    obtain ⟨config, r, lines, -, hr, hlines⟩ := execute_of_no_fault hf
    have htext : text = ⟨0, _, _⟩ := run_of_ok (hlines false)
    have hjson : json = ⟨0, _, _⟩ := run_of_ok (hlines true)
    rw [htext, hjson]
    exact ⟨rfl, rfl, fun _ => hr.text_json _⟩

theorem run_query_quoted_limit :
    run (.bare ("SELECT \"a\"\nFROM t" ++ "\r\n\n").toUTF8)
        ⟨none, true, true, false, .limit none (some "pg") 5⟩ =
      run (.bare .empty)
        ⟨none, true, true, false, .limit (some "SELECT \"a\"\nFROM t") (some "pg") 5⟩ ∧
    ∃ v, Json.parse? (run (.bare .empty)
        ⟨none, true, true, false, .limit (some "SELECT \"a\"\nFROM t") (some "pg") 5⟩).output =
          some v ∧
      v.lookup? "clause" = some (.string "SELECT \"a\"\nFROM t LIMIT 5") := by
  have hs : ∀ e, "SELECT \"a\"\nFROM t".toList.getLast? = some e → e ∉ lineEnds := by
    intro e he
    cases he.symm.trans (show _ = some 't' by decide)
    decide
  have ht : ∀ e ∈ "\r\n\n".toList, e ∈ lineEnds := by simp [lineEnds]
  have h := run_query (.bare .empty) ⟨none, true, true, false, .rules⟩ (.limit (some "pg") 5)
    "SELECT \"a\"\nFROM t" "\r\n\n" hs ht
  refine ⟨h.1, ?_⟩
  obtain ⟨y, v, htext, hjson, hy, -⟩ := h.2.2.2 rfl
  obtain rfl : "SELECT \"a\"\nFROM t LIMIT 5" = y := (String.append_left_inj "\n").1 htext
  exact ⟨v, hjson, hy⟩

end SqlDialect.CommandLine
