import SqlDialect.Text.CodeRange

/-!
# Blanks

* `isBlank`: white space in the wide sense, line ends and the spaces of all scripts included;
* `skipBlanks`, `skipBlanks1?`, `trim` remove blanks at the ends of a text.
-/

namespace SqlDialect.Text

/-- All white space. -/
def blankRanges : List (Nat × Nat) :=
  [(0x9, 0xD), (0x20, 0x20), (0x85, 0x85), (0xA0, 0xA0), (0x1680, 0x1680), (0x2000, 0x200A),
   (0x2028, 0x2029), (0x202F, 0x202F), (0x205F, 0x205F), (0x3000, 0x3000)]

/-- White space, line ends included. -/
def isBlank (c : Char) : Bool := inRanges blankRanges c

/-- The text from its first character that is not blank. -/
def skipBlanks (s : List Char) : List Char := s.dropWhile isBlank

/-- As `skipBlanks`, but there must be a blank to skip. -/
def skipBlanks1? : List Char → Option (List Char)
  | [] => none
  | c :: s => if isBlank c then some (skipBlanks s) else none

/-- Only blanks are skipped. -/
theorem exists_blanks_append_skipBlanks (s : List Char) :
    ∃ b, s = b ++ skipBlanks s ∧ ∀ c ∈ b, isBlank c = true :=
  ⟨s.takeWhile isBlank, List.takeWhile_append_dropWhile.symm, fun c hc => by
    have h := List.all_takeWhile (l := s) (p := isBlank)
    exact List.all_eq_true.1 h c hc⟩

/-- All blanks are skipped. -/
theorem isBlank_head_skipBlanks {s t : List Char} {c : Char} (h : skipBlanks s = c :: t) :
    isBlank c = false := by
  induction s with
  | nil => simp [skipBlanks] at h
  | cons d s ih =>
    by_cases hd : isBlank d = true
    · exact ih (by simpa [skipBlanks, hd] using h)
    · simp only [skipBlanks, List.dropWhile_cons, hd] at h
      obtain ⟨rfl, _⟩ := List.cons.inj h
      simpa using hd

/-- Blanks in front do not matter. -/
theorem skipBlanks_append {b : List Char} (s : List Char) (h : ∀ c ∈ b, isBlank c = true) :
    skipBlanks (b ++ s) = skipBlanks s := by
  induction b with
  | nil => rfl
  | cons c b ih =>
    have hc : isBlank c = true := h c (by simp)
    simpa [skipBlanks, hc] using ih fun d hd => h d (by simp [hd])

/-- The text without the blanks at its end. -/
def trimEnd (s : List Char) : List Char := (s.reverse.dropWhile isBlank).reverse

/-- The text without the blanks at either end. -/
def trim (s : List Char) : List Char := trimEnd (skipBlanks s)

end SqlDialect.Text
