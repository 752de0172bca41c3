import SqlDialect.Proofs.Characters
import SqlDialect.Proofs.Constructs

/-!
# Scanners and letter case

No scanner tells a capital letter of ASCII from a small one.

* `lower` — a text in lower case.
* `…_lower` — each step of a scanner takes the same from a text in lower case.
* `CaseBlind` — so does a whole scanner, and hence a sweep finds the same constructs (`hits_lower`)
  and writes the same (`lower_replaceAll_lower`).
* `…_caseBlind` — the scanners of the rules are of this kind.
-/

namespace SqlDialect.Text

/-- The text with the letters of ASCII in lower case. -/
def lower (s : List Char) : List Char := s.map Char.toLower

@[simp]
theorem lower_nil : lower [] = [] := rfl

@[simp]
theorem lower_cons (c : Char) (s : List Char) : lower (c :: s) = c.toLower :: lower s := rfl

@[simp]
theorem lower_append (s t : List Char) : lower (s ++ t) = lower s ++ lower t := List.map_append

@[simp]
theorem length_lower (s : List Char) : (lower s).length = s.length := List.length_map _

theorem lower_take (n : Nat) (s : List Char) : lower (s.take n) = (lower s).take n := List.map_take

@[simp]
theorem lower_lower (s : List Char) : lower (lower s) = lower s := by
  unfold lower
  rw [List.map_map]
  congr 1
  funext c
  exact toLower_toLower c

theorem toLower_beq (c sign : Char) (h : sign.isAlpha = false) :
    (c.toLower == sign) = (c == sign) := by
  rw [Bool.eq_iff_iff, beq_iff_eq, beq_iff_eq]
  exact toLower_eq_iff h

theorem count_sign_lower {sign : Char} (h : sign.isAlpha = false) (s : List Char) :
    (lower s).count sign = s.count sign := by
  induction s with
  | nil => rfl
  | cons c s ih => rw [lower_cons, List.count_cons, List.count_cons, ih, toLower_beq c sign h]

theorem takeWhile_lower {p : Char → Bool} (hp : ∀ c, p c.toLower = p c) (s : List Char) :
    (lower s).takeWhile p = lower (s.takeWhile p) := by
  unfold lower
  rw [List.takeWhile_map]
  congr 2
  funext c
  exact hp c

theorem dropWhile_lower {p : Char → Bool} (hp : ∀ c, p c.toLower = p c) (s : List Char) :
    (lower s).dropWhile p = lower (s.dropWhile p) := by
  unfold lower
  rw [List.dropWhile_map]
  congr 2
  funext c
  exact hp c

/-! ## Steps of scanners -/

@[simp]
theorem atWordStart_lower (before : Option Char) :
    atWordStart (before.map Char.toLower) = atWordStart before := by
  cases before with
  | none => rfl
  | some c => simp [atWordStart, isWord_toLower]

@[simp]
theorem atWordEnd_lower (s : List Char) : atWordEnd (lower s) = atWordEnd s := by
  cases s with
  | nil => rfl
  | cons c s => simp [atWordEnd, isWord_toLower]

@[simp]
theorem skipBlanks_lower (s : List Char) : skipBlanks (lower s) = lower (skipBlanks s) :=
  dropWhile_lower isBlank_toLower s

@[simp]
theorem skipBlanks1?_lower (s : List Char) :
    skipBlanks1? (lower s) = (skipBlanks1? s).map lower := by
  cases s with
  | nil => rfl
  | cons c s =>
    simp only [lower_cons, skipBlanks1?, isBlank_toLower, skipBlanks_lower]
    split <;> rfl

theorem trimEnd_lower (s : List Char) : trimEnd (lower s) = lower (trimEnd s) := by
  have hreverse : ∀ t : List Char, (lower t).reverse = lower t.reverse := fun t =>
    List.map_reverse.symm
  unfold trimEnd
  rw [hreverse, dropWhile_lower isBlank_toLower, hreverse]

@[simp]
theorem trim_lower (s : List Char) : trim (lower s) = lower (trim s) := by
  unfold trim
  rw [skipBlanks_lower, trimEnd_lower]

@[simp]
theorem dropFolded?_lower (word s : List Char) :
    dropFolded? word (lower s) = (dropFolded? word s).map lower := by
  induction word generalizing s with
  | nil => rfl
  | cons d word ih =>
    cases s with
    | nil => rfl
    | cons c s =>
      have hletter : sameLetter d c.toLower = sameLetter d c := by
        unfold sameLetter
        rw [fold_toLower]
      simp only [lower_cons, dropFolded?, hletter, ih]
      split <;> rfl

end SqlDialect.Text

namespace SqlDialect.Scan

open Text

@[simp]
theorem keyword?_lower (word s : List Char) :
    keyword? word (lower s) = (keyword? word s).map lower :=
  dropFolded?_lower word s

@[simp]
theorem symbol?_lower {sign : Char} (h : sign.isAlpha = false) (s : List Char) :
    symbol? sign (lower s) = (symbol? sign s).map lower := by
  cases s with
  | nil => rfl
  | cons c s =>
    simp only [lower_cons, symbol?, toLower_eq_iff h]
    split <;> rfl

@[simp]
theorem oneOf?_lower {a b : List Char → Option (List Char)} (ha : ∀ s, a (lower s) = (a s).map lower)
    (hb : ∀ s, b (lower s) = (b s).map lower) (s : List Char) :
    oneOf? a b (lower s) = (oneOf? a b s).map lower := by
  unfold oneOf?
  rw [ha, hb, Option.map_or]

@[simp]
theorem opt?_lower {a : List Char → Option (List Char)} (ha : ∀ s, a (lower s) = (a s).map lower)
    (s : List Char) : opt? a (lower s) = lower (opt? a s) := by
  unfold opt?
  rw [ha]
  cases a s <;> rfl

@[simp]
theorem digits?_lower (s : List Char) :
    digits? (lower s) = (digits? s).map (Prod.map lower lower) := by
  unfold digits?
  rw [takeWhile_lower isDigit_toLower, dropWhile_lower isDigit_toLower]
  cases s.takeWhile isDigit <;> rfl

theorem enclosed?_lower {stops : List Char} {closing : Char}
    (hs : ∀ c ∈ closing :: stops, c.isAlpha = false) (s : List Char) :
    enclosed? stops closing (lower s) = (enclosed? stops closing s).map (Prod.map lower lower) := by
  obtain ⟨hclosing, hstops⟩ := List.forall_mem_cons.1 hs
  have hstop : ∀ c : Char, (!stops.contains c.toLower) = !stops.contains c := by
    intro c
    congr 1
    rw [Bool.eq_iff_iff, List.contains_iff_mem, List.contains_iff_mem]
    constructor
    · intro hm
      rwa [(toLower_eq_iff (hstops _ hm)).1 rfl]
    · intro hm
      rwa [(toLower_eq_iff (hstops _ hm)).2 rfl]
  unfold enclosed? upTo
  rw [takeWhile_lower (p := fun c => !stops.contains c) hstop,
    dropWhile_lower (p := fun c => !stops.contains c) hstop, symbol?_lower hclosing]
  cases symbol? closing (s.dropWhile fun c => !stops.contains c) <;> rfl

theorem enclosed1?_lower {stops : List Char} {closing : Char}
    (hs : ∀ c ∈ closing :: stops, c.isAlpha = false) (s : List Char) :
    enclosed1? stops closing (lower s) = (enclosed1? stops closing s).map (Prod.map lower lower) := by
  unfold enclosed1?
  rw [enclosed?_lower hs]
  cases enclosed? stops closing s with
  | none => rfl
  | some r =>
    obtain ⟨body, rest⟩ := r
    cases body <;> rfl

@[simp]
theorem bareArgument?_lower (raw : List Char) :
    bareArgument? (lower raw) = (bareArgument? raw).map lower := by
  unfold bareArgument?
  rw [trim_lower]
  cases trim raw with
  | nil =>
    have hlast : (lower raw).getLast? = raw.getLast?.map Char.toLower := List.getLast?_map
    simp only [lower_nil, hlast]
    cases raw.getLast? <;> rfl
  | cons c s => rfl

/-! ## Sweeps -/

/-- At a place in lower case the scanner reads the same, up to letter case. -/
def CaseBlind {α : Type} (scan : Scanner α) (low : α → α) : Prop :=
  ∀ before s, scan (before.map Char.toLower) (lower s) = (scan before s).map (Prod.map low lower)

/-- A piece with its character or its construct in lower case. -/
def Piece.lower {α : Type} (low : α → α) : Piece α → Piece α
  | .keep c => .keep c.toLower
  | .hit a => .hit (low a)

variable {α : Type} {scan : Scanner α} {low : α → α}

theorem piecesFrom_lower (h : CaseBlind scan low) (pending : Nat) (before : Option Char)
    (s : List Char) : piecesFrom scan pending (before.map Char.toLower) (lower s) =
      (piecesFrom scan pending before s).map (Piece.lower low) := by
  induction s generalizing pending before with
  | nil => rfl
  | cons c s ih =>
    cases pending with
    | succ pending => exact ih pending (some c)
    | zero =>
      have hplace := h before (c :: s)
      rw [lower_cons] at hplace ⊢
      rw [piecesFrom, piecesFrom, hplace]
      cases scan before (c :: s) with
      | none => exact congrArg _ (ih 0 (some c))
      | some r =>
        have hrest := ih (s.length - r.2.length) (some c)
        simp only [Option.map_some, Prod.map, length_lower, List.map_cons]
        exact congrArg _ hrest

theorem pieces_lower (h : CaseBlind scan low) (s : List Char) :
    pieces scan (lower s) = (pieces scan s).map (Piece.lower low) :=
  piecesFrom_lower h 0 none s

/-- The constructs found in lower case are those found, in lower case. -/
theorem hits_lower (h : CaseBlind scan low) (s : List Char) :
    hits scan (lower s) = (hits scan s).map low := by
  unfold hits
  rw [pieces_lower h, List.filterMap_map, List.map_filterMap]
  congr 1
  funext p
  cases p <;> rfl

theorem occurs_lower (h : CaseBlind scan low) (s : List Char) :
    occurs scan (lower s) = occurs scan s := by
  unfold occurs first?
  rw [hits_lower h]
  cases hits scan s <;> rfl

theorem count_lower (h : CaseBlind scan low) (s : List Char) :
    count scan (lower s) = count scan s := by
  unfold count
  rw [hits_lower h, List.length_map]

/-- If the letter case of a construct does not matter for what is written, up to letter case, a sweep
can be done in lower case. -/
theorem lower_replaceAll_lower (h : CaseBlind scan low) {write : α → List Char}
    (hwrite : ∀ a, lower (write (low a)) = lower (write a)) (s : List Char) :
    lower (replaceAll scan write (lower s)) = lower (replaceAll scan write s) := by
  have hpiece : ∀ p : Piece α,
      lower (Piece.render write (p.lower low)) = lower (Piece.render write p) := by
    intro p
    cases p with
    | keep c => exact congrArg (fun d => [d]) (toLower_toLower c)
    | hit a => exact hwrite a
  unfold replaceAll
  rw [pieces_lower h]
  induction pieces scan s with
  | nil => rfl
  | cons p ps ih =>
    rw [List.map_cons, List.flatMap_cons, List.flatMap_cons, lower_append, lower_append, hpiece, ih]

end SqlDialect.Scan

namespace SqlDialect.Query

open Scan Text

/-! ## Scanners -/

theorem tableHint_caseBlind : CaseBlind tableHint id := by
  intro before s
  simp [tableHint, enclosed1?_lower, Option.bind_map, Option.map_bind]

theorem bracketedName_caseBlind : CaseBlind bracketedName lower := by
  intro before s
  simp [bracketedName, enclosed1?_lower, Option.bind_map, Option.map_bind]

theorem newidCall_caseBlind : CaseBlind newidCall id := by
  intro before s
  simp [newidCall, Option.bind_map, Option.map_bind]

@[simp]
theorem rowsWord?_lower (s : List Char) : rowsWord? (lower s) = (rowsWord? s).map lower := by
  simp [rowsWord?, Function.comp_def]

/-- A fetch clause in lower case. -/
def FetchClause.lower (f : FetchClause) : FetchClause := ⟨Text.lower f.offset, Text.lower f.rows⟩

theorem fetchClause_caseBlind : CaseBlind fetchClause FetchClause.lower := by
  intro before s
  simp [fetchClause, FetchClause.lower, Option.bind_map, Option.map_bind, Function.comp_def]

theorem monthNameCall_caseBlind : CaseBlind monthNameCall lower := by
  intro before s
  simp [monthNameCall, enclosed?_lower, Option.bind_map, Option.map_bind]

theorem monthCall_caseBlind : CaseBlind monthCall lower := by
  intro before s
  simp [monthCall, enclosed1?_lower, Option.bind_map, Option.map_bind]

theorem dateTextCall_caseBlind : CaseBlind dateTextCall lower := by
  intro before s
  simp [dateTextCall, enclosed?_lower, Option.bind_map, Option.map_bind]

theorem callHead_caseBlind : CaseBlind callHead id := by
  intro before s
  simp [callHead, Option.bind_map, Option.map_bind]

theorem openCall_caseBlind (name : List Char) : CaseBlind (openCall name) id := by
  intro before s
  simp [openCall, Option.bind_map, Option.map_bind]

theorem rowLimit_caseBlind : CaseBlind rowLimit id := by
  intro before s
  simp [rowLimit, Option.bind_map, Option.map_bind]

/-- `DISTINCT` is set apart in lower case as well. -/
theorem distinctWord_lower (s : List Char) :
    distinctWord (lower s) = Prod.map lower lower (distinctWord s) := by
  have hread : (keyword? "distinct".toList (lower s)).bind skipBlanks1? =
      ((keyword? "distinct".toList s).bind skipBlanks1?).map lower := by
    rw [keyword?_lower, Option.bind_map, Option.map_bind]
    congr 1
    funext t
    exact skipBlanks1?_lower t
  unfold distinctWord
  rw [hread]
  cases (keyword? "distinct".toList s).bind skipBlanks1? with
  | none => rfl
  | some rest => simp [lower_take]

theorem topRows?_lower (s : List Char) :
    topRows? (lower s) = (topRows? s).map (Prod.map lower lower) := by
  unfold topRows?
  rw [symbol?_lower rfl]
  cases symbol? '(' s with
  | none => simp [Option.bind_map, Option.map_bind]
  | some t => simp [Option.bind_map, Option.map_bind]

/-- What `SELECT TOP` says, in lower case. -/
def SelectTop.lower (t : SelectTop) : SelectTop := ⟨Text.lower t.distinct, Text.lower t.count⟩

theorem selectTop_caseBlind : CaseBlind selectTop SelectTop.lower := by
  intro before s
  simp [selectTop, SelectTop.lower, distinctWord_lower, topRows?_lower, Option.bind_map,
    Option.map_bind, Function.comp_def]

theorem closeLiteral?_lower (s : List Char) :
    closeLiteral? (lower s) = (closeLiteral? s).map (Prod.map lower lower) := by
  have hquote : '\''.toLower = '\'' := rfl
  fun_induction closeLiteral? s with
  | case1 => rfl
  | case2 s body rest hs ih =>
    simp [closeLiteral?, ih, hs]
  | case3 s hs ih =>
    simp [closeLiteral?, ih, hs]
  | case4 s hs =>
    cases s with
    | nil => rfl
    | cons d s =>
      have hd : d.toLower ≠ '\'' := fun e => hs s rfl (by rw [(toLower_eq_iff rfl).1 e])
      rw [lower_cons, lower_cons, hquote, closeLiteral?]
      · simp
      · rintro t - e
        exact hd (List.cons.inj e).1
  | case5 c s hs hc ih =>
    have hc' : c.toLower ≠ '\'' := fun e => hc ((toLower_eq_iff rfl).1 e)
    rw [lower_cons, closeLiteral?, if_neg hc', ih, Option.map_map, Option.map_map]
    · rfl
    · intro t e
      exact absurd e hc'

theorem literal?_lower (s : List Char) :
    literal? (lower s) = (literal? s).map (Prod.map lower lower) := by
  cases s with
  | nil => rfl
  | cons c s =>
    simp only [lower_cons, literal?, toLower_eq_iff (show '\''.isAlpha = false from rfl),
      closeLiteral?_lower]
    split
    · cases closeLiteral? s <;> rfl
    · rfl

theorem literalSum_caseBlind : CaseBlind literalSum (Prod.map lower lower) := by
  intro before s
  simp [literalSum, literal?_lower, Option.bind_map, Option.map_bind]

@[simp]
theorem closeName?_lower (s : List Char) : closeName? (lower s) = (closeName? s).map lower := by
  have hquote : ∀ c : Char, (c.toLower != '"') = (c != '"') := by
    intro c
    rw [bne, bne, toLower_beq c '"' rfl]
  unfold closeName?
  rw [dropWhile_lower hquote, symbol?_lower rfl]

theorem fragmentEnds_lower (columns : BooleanColumns) (s : List Char) :
    fragmentEnds columns (lower s) = (fragmentEnds columns s).map lower := by
  unfold fragmentEnds
  rw [List.map_filterMap]
  congr 1
  funext f
  simp [Option.bind_map, Option.map_bind]

theorem namePlaces_lower (s : List Char) : namePlaces (lower s) = (namePlaces s).map lower := by
  induction s with
  | nil => rfl
  | cons c s ih =>
    simp only [lower_cons, namePlaces, toLower_eq_iff (show '"'.isAlpha = false from rfl),
      List.map_cons, ih]
    split <;> rfl

theorem nameEnds_lower (columns : BooleanColumns) (s : List Char) :
    nameEnds columns (lower s) = (nameEnds columns s).map lower := by
  unfold nameEnds
  rw [namePlaces_lower, ← List.map_reverse, List.flatMap_map, List.map_flatMap]
  congr 1
  funext t
  exact fragmentEnds_lower columns t

@[simp]
theorem afterQualifier?_lower (s : List Char) :
    afterQualifier? (lower s) = (afterQualifier? s).map lower := by
  simp [afterQualifier?, enclosed1?_lower, Option.bind_map, Option.map_bind]

theorem columnEnds_lower (columns : BooleanColumns) (s : List Char) :
    columnEnds columns (lower s) = (columnEnds columns s).map lower := by
  unfold columnEnds
  rw [symbol?_lower rfl]
  cases symbol? '"' s with
  | none => rfl
  | some t =>
    simp only [Option.map_some, afterQualifier?_lower, nameEnds_lower, List.map_append]
    cases afterQualifier? t with
    | none => rfl
    | some u => simp [nameEnds_lower]

theorem comparedWith?_lower {digit : Char} (hd : digit.isAlpha = false) (s : List Char) :
    comparedWith? digit (lower s) = (comparedWith? digit s).map (Prod.map lower lower) := by
  have hstop : ∀ c : Char, [')', ',', ';'].contains c.toLower = [')', ',', ';'].contains c := by
    intro c
    simp [toLower_eq_iff]
  unfold comparedWith?
  simp only [skipBlanks_lower, symbol?_lower (show '='.isAlpha = false from rfl), symbol?_lower hd,
    Option.bind_eq_bind, Option.bind_map, Option.map_bind, Function.comp_def]
  congr 1
  funext t
  congr 1
  funext u
  cases u with
  | nil => rfl
  | cons c u =>
    simp only [lower_cons, isBlank_toLower, hstop]
    split <;> rfl

/-- A comparison in lower case. -/
def FlagComparison.lower (f : FlagComparison) : FlagComparison :=
  ⟨Text.lower f.column, Text.lower f.stop⟩

theorem flagComparison_caseBlind (columns : BooleanColumns) {digit : Char}
    (hd : digit.isAlpha = false) : CaseBlind (flagComparison columns digit) FlagComparison.lower := by
  intro before s
  unfold flagComparison
  simp [columnEnds_lower, List.findSome?_map, comparedWith?_lower hd, lower_take,
    FlagComparison.lower, Option.bind_map, Option.map_bind, Function.comp_def]

/-! ## The rule for `TOP` -/

theorem topCount?_lower (s : List Char) : topCount? (lower s) = (topCount? s).map lower := by
  unfold topCount? first?
  rw [hits_lower selectTop_caseBlind, List.head?_map, Option.map_map, Option.map_map]
  rfl

theorem hasRowLimit_lower (s : List Char) : hasRowLimit (lower s) = hasRowLimit s :=
  occurs_lower rowLimit_caseBlind s

theorem TailScan.cons_toLower (c : Char) (t : TailScan) : t.cons c.toLower = t.cons c := by
  have hsign := toLower_beq c
  simp only [TailScan.cons, bne, isBlank_toLower, hsign '-' rfl, hsign ';' rfl, hsign '\'' rfl,
    hsign '\n' rfl]

theorem splitScan_lower (s : List Char) :
    splitScan (lower s) = Prod.map id (Prod.map lower lower) (splitScan s) := by
  induction s with
  | nil => rfl
  | cons c s ih =>
    simp only [lower_cons, splitScan, ih, Prod.map, id, TailScan.cons_toLower]
    split <;> rfl

theorem splitTail_lower (s : List Char) :
    splitTail (lower s) = Prod.map lower lower (splitTail s) := by
  unfold splitTail
  rw [splitScan_lower]
  rfl

end SqlDialect.Query
