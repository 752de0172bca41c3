import SqlDialect.Log.Directive

/-!
# Log filters

A `Filter` is a list of directives; of those that fit an event the most specific one decides.
`Filter.parse?` reads directives, separated by commas; `Filter.choose` finds the filter in force.
-/

namespace SqlDialect.Log

/-- Directives; a later one replaces an earlier one for the same target and fields. -/
structure Filter where
  directives : List Directive

namespace Filter

/-- Reads directives, separated by commas. -/
def parse? (text : String) : Option Filter := do
  let parts := (text.splitOn ",").filter fun p => !p.isEmpty
  let ds ← parts.mapM fun p => Directive.parse? p.toList
  return ⟨ds⟩

/-- The directive that decides about an event: the most specific one, the last of several. -/
def deciding? (f : Filter) (e : Event) : Option Directive :=
  (f.directives.filter (·.fits e)).foldl
    (fun best d =>
      match best with
      | none => some d
      | some b => if (d.order b).isGE then some d else some b) none

/-- The event is logged. -/
def allows (f : Filter) (e : Event) : Bool :=
  match f.deciding? e with
  | none => false
  | some d => e.level.rank ≤ d.level.rank

/-- The filter in force: the directives given, if they can be read; otherwise by whether much is to
be said. -/
def choose (given : Option String) (verbose : Bool) : Filter :=
  let fallback : Filter :=
    if verbose then ⟨[{ target := some "sqlshift".toList, level := .debug }]⟩
    else ⟨[{ level := .warn }]⟩
  ((given.bind parse?).getD fallback)

end Filter

end SqlDialect.Log
