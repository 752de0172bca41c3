import SqlDialect.Rule
import SqlDialect.Proofs.Characters
import SqlDialect.Proofs.Constructs

/-!
# What constructs weigh

Each rule takes something away that no later rule puts back. This is measured by giving weights to
characters: a text weighs what its characters weigh, in any letter case, and blanks weigh nothing.

* `weight` — the weight of a text.
* `…Text.weight_add_le` — how much lighter a construct gets when it is written anew. The blanks and
  the argument of the construct do not matter, only the signs and keywords that are fixed.
* `weight_replaceAll_add_le` — a text gets lighter by that much for each construct in it.
* `wordWeight` — counts `w`, `p` and `[`. The rules up to the one for `TOP` each take one of these
  away, and no rule adds one.
* `signWeight` — counts `+`, `1` and `0`, and `x`, `g`, `c` and quotes against them. The other rules
  make a text lighter in this sense.
-/

namespace SqlDialect.Query

open Scan Text

/-! ## Weights -/

/-- The weight of a text, where a character weighs the same in any letter case. -/
def weight (w : Char → Int) : List Char → Int
  | [] => 0
  | c :: s => w (fold c) + weight w s

/-- Blanks weigh nothing. -/
def IgnoresBlanks (w : Char → Int) : Prop := ∀ c, isBlank c = true → w (fold c) = 0

variable {w : Char → Int}

theorem weight_nil : weight w [] = 0 := rfl

theorem weight_cons (c : Char) (s : List Char) : weight w (c :: s) = w (fold c) + weight w s := rfl

theorem weight_append (s t : List Char) : weight w (s ++ t) = weight w s + weight w t := by
  induction s with
  | nil => rw [List.nil_append, weight_nil, Int.zero_add]
  | cons c s ih => rw [List.cons_append, weight_cons, weight_cons, ih, Int.add_assoc]

theorem weight_eq_zero {s : List Char} (h : ∀ c ∈ s, w (fold c) = 0) : weight w s = 0 := by
  induction s with
  | nil => rfl
  | cons c s ih =>
    rw [weight_cons, h c (by simp), ih fun d hd => h d (by simp [hd])]
    rfl

theorem weight_nonneg (hw : ∀ c, 0 ≤ w c) (s : List Char) : 0 ≤ weight w s := by
  induction s with
  | nil => exact Int.le_refl 0
  | cons c s ih =>
    have hc := hw (fold c)
    rw [weight_cons]
    omega

theorem Blanks.weight {b : List Char} (h : Blanks b) (hw : IgnoresBlanks w) : weight w b = 0 :=
  weight_eq_zero fun c hc => hw c (h c hc)

/-- A keyword weighs the same in any letter case. -/
theorem Spells.weight {word : String} {t : List Char} (h : Spells word t) (w : Char → Int) :
    weight w t = weight w word.toList := by
  have hfold : ∀ s : List Char, Query.weight w s = (s.map fold).foldr (fun c n => w c + n) 0 := by
    intro s
    induction s with
    | nil => rfl
    | cons c s ih => rw [weight_cons, ih, List.map_cons, List.foldr_cons]
  unfold Spells at h
  rw [hfold, hfold, h]

/-- If every construct gets lighter by `k`, a text does so for each construct in it. -/
theorem weight_replaceAll_add_le {α : Type} {scan : Scanner α} {write : α → List Char}
    {Shape : Option Char → List Char → α → List Char → Prop} (hscan : Reads scan Shape) {k : Nat}
    (h : ∀ before text a rest, Shape before text a rest → weight w (write a) + k ≤ weight w text)
    (s : List Char) : weight w (replaceAll scan write s) + (k * count scan s : Nat) ≤ weight w s := by
  unfold replaceAll count hits pieces
  refine piecesFrom_induction hscan (motive := fun _ s ps =>
    weight w (ps.flatMap (Piece.render write)) + (k * (ps.filterMap Piece.value?).length : Nat) ≤
      weight w s) ?_ ?_ ?_ none s
  · intro _
    simp [weight]
  · intro before c s ps _ ih
    rw [List.flatMap_cons, List.filterMap_cons_none rfl, weight_append, weight_cons]
    have hkeep : weight w (Piece.render write (.keep c)) = w (fold c) := by
      simp [Piece.render, weight]
    omega
  · intro before text a rest ps _ hshape ih
    have hone := h before text a rest hshape
    have hlen : ((Piece.hit a :: ps).filterMap Piece.value?).length =
        (ps.filterMap Piece.value?).length + 1 := rfl
    rw [List.flatMap_cons, weight_append, weight_append, hlen, Nat.mul_add, Nat.mul_one]
    change weight w (write a) + _ + _ ≤ _
    omega

/-! ## Constructs -/

theorem MonthNameCallText.weight_add_le {text arg : List Char} (h : MonthNameCallText text arg)
    (hw : IgnoresBlanks w) {k : Nat}
    (hk : weight w "TO_CHAR(, 'Month')".toList + k ≤ weight w "datename(month,)".toList) :
    weight w (monthNameText arg) + k ≤ weight w text := by
  obtain @⟨name, b₁, b₂, month, b₃, b₄, arg, b₅, hname, hb₁, hb₂, hmonth, hb₃, hb₄, hb₅, -⟩ := h
  have hnew : "TO_CHAR(, 'Month')".toList = "TO_CHAR(".toList ++ ", 'Month')".toList := by decide
  have hold : "datename(month,)".toList =
      "datename".toList ++ ['('] ++ "month".toList ++ [','] ++ [')'] := by decide
  rw [hnew, hold] at hk
  unfold monthNameText
  simp only [weight_append, hname.weight, hmonth.weight, hb₁.weight hw, hb₂.weight hw, hb₃.weight hw,
    hb₄.weight hw, hb₅.weight hw] at hk ⊢
  omega

theorem MonthCallText.weight_add_le {text arg : List Char} (h : MonthCallText text arg)
    (hw : IgnoresBlanks w) {k : Nat}
    (hk : weight w "EXTRACT(MONTH FROM )".toList + k ≤ weight w "month()".toList) :
    weight w (monthText arg) + k ≤ weight w text := by
  obtain @⟨month, b, arg, hmonth, hb, -⟩ := h
  have hnew : "EXTRACT(MONTH FROM )".toList = "EXTRACT(MONTH FROM ".toList ++ ")".toList := by decide
  have hold : "month()".toList = "month".toList ++ ['('] ++ [')'] := by decide
  rw [hnew, hold] at hk
  unfold monthText
  simp only [weight_append, hmonth.weight, hb.weight hw] at hk ⊢
  omega

theorem DateTextCallText.weight_add_le {text arg : List Char} (h : DateTextCallText text arg)
    (hw : IgnoresBlanks w) {k : Nat}
    (hk : weight w "TO_CHAR(, 'YYYY-MM-DD')".toList + k ≤ weight w "convert(varchar(10),)".toList) :
    weight w (dateText arg) + k ≤ weight w text := by
  obtain @⟨name, b₁, b₂, type, b₃, b₄, b₅, b₆, b₇, arg, b₈, hname, hblanks, htype, -⟩ := h
  simp only [List.forall_mem_cons] at hblanks
  obtain ⟨hb₁, hb₂, hb₃, hb₄, hb₅, hb₆, hb₇, hb₈, -⟩ := hblanks
  have hnew : "TO_CHAR(, 'YYYY-MM-DD')".toList = "TO_CHAR(".toList ++ ", 'YYYY-MM-DD')".toList := by
    decide
  have hold : "convert(varchar(10),)".toList = "convert".toList ++ ['('] ++ "varchar".toList ++ ['('] ++
      ['1', '0'] ++ [')'] ++ [','] ++ [')'] := by decide
  rw [hnew, hold] at hk
  unfold dateText
  simp only [weight_append, hname.weight, htype.weight, hb₁.weight hw, hb₂.weight hw, hb₃.weight hw,
    hb₄.weight hw, hb₅.weight hw, hb₆.weight hw, hb₇.weight hw, hb₈.weight hw] at hk ⊢
  omega

theorem OpenCallText.weight_add_le {name : String} {text : List Char} (h : OpenCallText name text)
    (hw : IgnoresBlanks w) {new : List Char} {k : Nat}
    (hk : weight w new + k ≤ weight w (name.toList ++ ['('])) : weight w new + k ≤ weight w text := by
  obtain ⟨hword, hb⟩ := h
  rw [weight_append] at hk
  rw [weight_append, weight_append, hword.weight, hb.weight hw]
  omega

theorem LiteralSumText.weight_add_le {text : List Char} {sum : List Char × List Char}
    (h : LiteralSumText text sum) (hw : IgnoresBlanks w) {k : Nat}
    (hk : weight w " || ".toList + k ≤ weight w ['+']) :
    weight w (concatText sum) + k ≤ weight w text := by
  obtain ⟨-, hb₁, hb₂, -⟩ := h
  unfold concatText
  simp only [weight_append, hb₁.weight hw, hb₂.weight hw]
  omega

theorem FlagComparisonText.weight_add_le {digit : Char} {text rest value : List Char}
    {f : FlagComparison} (h : FlagComparisonText digit text f rest) (hw : IgnoresBlanks w) {k : Nat}
    (hk : weight w (" = ".toList ++ value) + k ≤ weight w ['=', digit]) :
    weight w (f.comparedTo value) + k ≤ weight w text := by
  obtain @⟨name, b₁, b₂, stop, rest, hb₁, hb₂, -⟩ := h
  have hold : ['=', digit] = ['='] ++ [digit] := rfl
  rw [hold] at hk
  unfold FlagComparison.comparedTo
  simp only [weight_append, hb₁.weight hw, hb₂.weight hw] at hk ⊢
  omega

theorem NewidCallText.weight_add_le {text : List Char} (h : NewidCallText text)
    (hw : IgnoresBlanks w) {k : Nat}
    (hk : weight w "RANDOM()".toList + k ≤ weight w "newid()".toList) :
    weight w "RANDOM()".toList + k ≤ weight w text := by
  obtain ⟨hword, hb₁, hb₂⟩ := h
  have hold : "newid()".toList = "newid".toList ++ ['('] ++ [')'] := by decide
  rw [hold] at hk
  simp only [weight_append, hword.weight, hb₁.weight hw, hb₂.weight hw] at hk ⊢
  omega

theorem BracketedNameText.weight_add_le {text name : List Char} (h : BracketedNameText text name)
    {k : Nat} (hk : weight w ['"', '"'] + k ≤ weight w ['[', ']']) :
    weight w ('"' :: name ++ ['"']) + k ≤ weight w text := by
  obtain ⟨-⟩ := h
  simp only [weight_append, weight_cons, weight_nil] at hk ⊢
  omega

/-! The constructs up to `TOP` lose text, so what they lose must not weigh less than nothing. -/

theorem TableHintText.weight_add_le {text : List Char} (h : TableHintText text)
    (hpos : ∀ c, 0 ≤ w c) {k : Nat} (hk : k ≤ weight w "with".toList) :
    weight w [] + k ≤ weight w text := by
  obtain @⟨b₁, word, b₂, list, -, -, hword, -⟩ := h
  have hrest := weight_nonneg hpos
  have h₁ := hrest b₁
  have h₂ := hrest (b₂ ++ ['('] ++ list ++ [')'])
  simp only [weight_append, weight_nil, hword.weight] at h₂ ⊢
  omega

theorem SpellsRows.le_weight {text : List Char} (h : SpellsRows text) (hpos : ∀ c, 0 ≤ w c) :
    weight w "row".toList ≤ weight w text := by
  rcases h with h | h
  · exact Int.le_of_eq (h.weight w).symm
  · have hrows : "rows".toList = "row".toList ++ "s".toList := by decide
    have hs := weight_nonneg hpos "s".toList
    rw [h.weight, hrows, weight_append]
    omega

theorem FetchClauseText.weight_add_le {text : List Char} {f : FetchClause} (h : FetchClauseText text f)
    (hw : IgnoresBlanks w) (hpos : ∀ c, 0 ≤ w c) {k : Nat}
    (hk : weight w (" OFFSET ".toList ++ " LIMIT ".toList) + k ≤
      weight w ("offset".toList ++ "row".toList ++ "fetch".toList ++ "row".toList ++ "only".toList)) :
    weight w f.asLimit + k ≤ weight w text := by
  obtain @⟨b₁, offset, b₂, m, b₃, rows₁, b₄, fetch, b₅, next, b₆, n, b₇, rows₂, b₈, only, -, hblanks,
    hoffset, -, hrows₁, hfetch, -, -, hrows₂, honly⟩ := h
  simp only [List.forall_mem_cons] at hblanks
  obtain ⟨hb₁, hb₂, hb₃, hb₄, hb₅, hb₆, hb₇, hb₈, -⟩ := hblanks
  have hnext := weight_nonneg hpos next
  have hrows₁ := hrows₁.le_weight hpos
  have hrows₂ := hrows₂.le_weight hpos
  unfold FetchClause.asLimit
  simp only [weight_append, hoffset.weight, hfetch.weight, honly.weight, hb₁.weight hw, hb₂.weight hw,
    hb₃.weight hw, hb₄.weight hw, hb₅.weight hw, hb₆.weight hw, hb₇.weight hw, hb₈.weight hw] at hk ⊢
  omega

theorem SelectTopText.weight_add_le {text : List Char} {t : SelectTop} (h : SelectTopText text t)
    (hpos : ∀ c, 0 ≤ w c) {k : Nat}
    (hk : weight w "SELECT ".toList + k ≤ weight w ("select".toList ++ "top".toList)) :
    weight w t.bare + k ≤ weight w text := by
  obtain @⟨select, b₁, distinct, top, b₂, rows, n, hselect, -, -, -, htop, -, -⟩ := h
  have h₁ := weight_nonneg hpos b₁
  have h₂ := weight_nonneg hpos b₂
  have hrows := weight_nonneg hpos rows
  unfold SelectTop.bare
  simp only [weight_append, hselect.weight, htop.weight] at hk ⊢
  omega

/-! ## Two weights -/

/-- Counts the letters of `WITH`, `NEWID`, `ROWS` and `TOP` that no rule writes, and brackets. -/
def wordWeight (c : Char) : Int := if c ∈ ['w', 'p', '['] then 1 else 0

/-- Counts the signs that the rules behind the one for `TOP` take away, and against them the letters
and quotes that these rules bring in. -/
def signWeight (c : Char) : Int :=
  if c ∈ ['+', '1', '0'] then 1 else if c ∈ ['x', 'g', 'c', '\''] then -1 else 0

theorem wordWeight_nonneg (c : Char) : 0 ≤ wordWeight c := by
  unfold wordWeight
  split <;> decide

theorem not_mem_of_isBlank {signs : List Char} (h : signs.all (fun d => !isBlank d) = true)
    {c : Char} (hc : isBlank c = true) : c ∉ signs := by
  intro hm
  have hsign := List.all_eq_true.1 h c hm
  rw [hc] at hsign
  cases hsign

theorem wordWeight_ignoresBlanks : IgnoresBlanks wordWeight := by
  intro c hc
  have hnot : c ∉ ['w', 'p', '['] := not_mem_of_isBlank (by decide) hc
  unfold wordWeight
  rw [(fold_of_isBlank hc).1, if_neg hnot]

theorem signWeight_ignoresBlanks : IgnoresBlanks signWeight := by
  intro c hc
  have htaken : c ∉ ['+', '1', '0'] := not_mem_of_isBlank (by decide) hc
  have hbrought : c ∉ ['x', 'g', 'c', '\''] := not_mem_of_isBlank (by decide) hc
  unfold signWeight
  rw [(fold_of_isBlank hc).1, if_neg htaken, if_neg hbrought]

/-- Digits have no weight among the words. -/
theorem Digits.wordWeight {n : List Char} (h : Digits n) : weight wordWeight n = 0 := by
  refine weight_eq_zero fun c hc => ?_
  have hdigit := h.2 c hc
  unfold Query.wordWeight
  rw [if_neg]
  intro hm
  have hlt : (fold c).toNat < 128 := by
    have hall : ['w', 'p', '['].all (fun d => d.toNat < 128) = true := by decide
    simpa using List.all_eq_true.1 hall _ hm
  rcases ascii_or_of_fold_ascii hlt with hascii | rfl | rfl
  · rw [isDigit_of_lt hascii] at hdigit
    revert hdigit hm
    exact ascii_cases (P := fun c => c.isDigit = true → fold c ∈ ['w', 'p', '['] → False)
      (by decide) hascii
  · revert hdigit
    decide
  · revert hdigit
    decide

end SqlDialect.Query
