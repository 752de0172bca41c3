import SqlDialect.Text.Blank
import SqlDialect.Text.CaseFold
import SqlDialect.Text.Digit
import SqlDialect.Text.Word

/-!
# The classes of characters, compared

Blanks, digits, word characters and the case fold are each given by a table. What the proofs need
to know about two tables at once is decided here, range by range or character by character.

* `ascii_cases`, `mem_rangeChars` — a statement about ASCII, or about the characters of a table, is
  one about finitely many characters.
* `CaseSpan.of_apply_ascii` — what a case mapping sends into ASCII from outside is in its table.
* `ascii_or_of_fold_ascii` — only the long s and the Kelvin sign fold into ASCII from outside.
* `isWord_of_fold_isAlpha` — whatever reads as a letter of a keyword is a word character, and no
  digit.
* `isWord_of_isDigit`, `isWord_of_isBlank` — digits are word characters, blanks are not.
* `fold_toLower`, `isWord_toLower`, `isDigit_toLower`, `isBlank_toLower` — none of the classes tells
  a letter of ASCII from its lower case.
-/

namespace SqlDialect.Text

/-! ## Finite tables -/

/-- A statement about all of ASCII holds of each character of it. -/
theorem ascii_cases {P : Char → Prop} (h : ∀ n : Fin 128, P (Char.ofNat n)) {c : Char}
    (hc : c.toNat < 128) : P c := by
  have := h ⟨c.toNat, hc⟩
  rwa [Char.ofNat_toNat] at this

/-- The characters of a table of ranges. -/
def rangeChars (ranges : List (Nat × Nat)) : List Char :=
  ranges.flatMap fun r => (List.range' r.1 (r.2 + 1 - r.1)).map Char.ofNat

theorem inRanges_iff {ranges : List (Nat × Nat)} {c : Char} :
    inRanges ranges c = true ↔ ∃ r ∈ ranges, r.1 ≤ c.toNat ∧ c.toNat ≤ r.2 := by
  simp [inRanges]

theorem mem_rangeChars {ranges : List (Nat × Nat)} {c : Char} (h : inRanges ranges c = true) :
    c ∈ rangeChars ranges := by
  obtain ⟨r, hr, hl, hu⟩ := inRanges_iff.1 h
  refine List.mem_flatMap.2 ⟨r, hr, List.mem_map.2 ⟨c.toNat, ?_, Char.ofNat_toNat c⟩⟩
  rw [List.mem_range'_1]
  omega

/-- A table whose ranges all lie within ranges of another. -/
theorem inRanges_mono {small large : List (Nat × Nat)} {c : Char}
    (hsub : small.all (fun r => large.any fun r' => Nat.ble r'.1 r.1 && Nat.ble r.2 r'.2) = true)
    (h : inRanges small c = true) : inRanges large c = true := by
  obtain ⟨r, hr, hl, hu⟩ := inRanges_iff.1 h
  obtain ⟨r', hr', hle⟩ := List.any_eq_true.1 (List.all_eq_true.1 hsub r hr)
  simp only [Bool.and_eq_true, Nat.ble_eq] at hle
  exact inRanges_of_mem hr' (by omega) (by omega)

/-- Two tables without a common range. -/
theorem inRanges_disjoint {one other : List (Nat × Nat)} {c : Char}
    (hdis : one.all (fun r => other.all fun r' => Nat.blt r.2 r'.1 || Nat.blt r'.2 r.1) = true)
    (h : inRanges one c = true) : inRanges other c = false := by
  obtain ⟨r, hr, hl, hu⟩ := inRanges_iff.1 h
  rw [Bool.eq_false_iff]
  intro h'
  obtain ⟨r', hr', hl', hu'⟩ := inRanges_iff.1 h'
  have := List.all_eq_true.1 (List.all_eq_true.1 hdis r hr) r' hr'
  simp only [Bool.or_eq_true, Nat.blt_eq] at this
  omega

/-! ## The case fold -/

/-- The run of letters is not sent across the surrogates or beyond the last code point. -/
def CaseSpan.Fits (s : CaseSpan) : Prop :=
  s.target + (s.last - s.first) < 0xD800 ∨
    0xDFFF < s.target ∧ s.target + (s.last - s.first) < 0x110000

instance (s : CaseSpan) : Decidable s.Fits := inferInstanceAs (Decidable (_ ∨ _))

/-- Whatever is sent into ASCII was there before, or belongs to a run that is sent there. -/
theorem CaseSpan.of_apply_ascii {spans : List CaseSpan} (hfits : ∀ s ∈ spans, s.Fits) {c : Char}
    (h : (CaseSpan.apply spans c).toNat < 128) : c.toNat < 128 ∨ ∃ s ∈ spans,
      s.first ≤ c.toNat ∧ c.toNat ≤ s.last ∧
        (CaseSpan.apply spans c).toNat = s.target + (c.toNat - s.first) := by
  unfold CaseSpan.apply at h ⊢
  split at h
  · rename_i s hs
    have hmem := List.mem_of_find?_eq_some hs
    have hcov := List.find?_some hs
    simp only [CaseSpan.covers, Bool.and_eq_true, decide_eq_true_eq] at hcov
    have hv : (s.target + (c.toNat - s.first)).isValidChar := by
      have hfit := hfits s hmem
      unfold CaseSpan.Fits at hfit
      unfold Nat.isValidChar
      omega
    have hval : (Char.ofNat (s.target + (c.toNat - s.first))).toNat =
        s.target + (c.toNat - s.first) := by
      rw [Char.ofNat, dif_pos hv]
      rfl
    exact .inr ⟨s, hmem, hcov.1.1, hcov.1.2, hval⟩
  · exact .inl h

/-- All runs of the fold fit, and only two are sent into ASCII. -/
theorem foldSpans_targets : ∀ s ∈ foldSpans, s.Fits ∧
    (s.target < 0x80 → s.first = s.last ∧ (s.first = 0x17F ∨ s.first = 0x212A)) := by
  decide +kernel

/-- Only the long s and the Kelvin sign fold into ASCII from outside. -/
theorem ascii_or_of_fold_ascii {c : Char} (h : (fold c).toNat < 128) :
    c.toNat < 128 ∨ c = '\u017F' ∨ c = '\u212A' := by
  unfold fold at h
  split at h
  · rename_i hc
    exact .inl hc
  · refine (CaseSpan.of_apply_ascii (fun s hs => (foldSpans_targets s hs).1) h).imp_right ?_
    rintro ⟨s, hs, hfirst, hlast, himage⟩
    obtain ⟨he, hf⟩ := (foldSpans_targets s hs).2 (by omega)
    rw [← Char.toNat_inj, ← Char.toNat_inj]
    have h1 : '\u017F'.toNat = 0x17F := rfl
    have h2 : '\u212A'.toNat = 0x212A := rfl
    omega

/-! ## Digits, blanks and letters -/

/-- Of the digits of all scripts, those in ASCII are the usual ones. -/
theorem isDigit_of_lt {c : Char} (hc : c.toNat < 128) : isDigit c = c.isDigit := by
  have hrest : digitRanges.tail.all (fun r => Nat.ble 128 r.1) = true := by decide
  rw [Bool.eq_iff_iff]
  constructor
  · intro h
    obtain ⟨r, hr, hl, hu⟩ := inRanges_iff.1 h
    rw [digitRanges, List.mem_cons] at hr
    rcases hr with rfl | hr
    · exact Char.isDigit_iff_toNat.2 ⟨hl, hu⟩
    · have := List.all_eq_true.1 hrest r hr
      rw [Nat.ble_eq] at this
      omega
  · exact isDigit_of_ascii

/-- Digits are word characters. -/
theorem isWord_of_isDigit {c : Char} (h : isDigit c = true) : isWord c = true := by
  unfold isWord
  split
  · rename_i hc
    rw [isDigit_of_lt hc] at h
    simp [Char.isAlphanum, h]
  · rename_i hc
    have htail : inRanges digitRanges.tail c = true := by
      obtain ⟨r, hr, hl, hu⟩ := inRanges_iff.1 h
      refine inRanges_iff.2 ⟨r, ?_, hl, hu⟩
      rw [digitRanges, List.mem_cons] at hr
      rcases hr with rfl | hr
      · simp only at hu; omega
      · exact hr
    exact inRanges_mono (by decide +kernel) htail

/-- Blanks are no word characters. -/
theorem isWord_of_isBlank {c : Char} (h : isBlank c = true) : isWord c = false := by
  unfold isWord
  split
  · rename_i hc
    revert h
    exact ascii_cases (P := fun c => isBlank c = true → (c.isAlphanum || c == '_') = false)
      (by decide) hc
  · exact inRanges_disjoint (by decide +kernel) h

/-- Blanks fold to themselves, and none of them is a sign. -/
theorem fold_of_isBlank {c : Char} (h : isBlank c = true) :
    fold c = c ∧ c ∉ ['(', ')', '[', '\'', '+', '=', '0', '1'] := by
  have hall : (rangeChars blankRanges).all (fun c =>
      fold c == c && ['(', ')', '[', '\'', '+', '=', '0', '1'].contains c == false) = true := by
    decide
  have hc := List.all_eq_true.1 hall c (mem_rangeChars h)
  simpa using hc

/-- What reads as a letter of a keyword is a word character, and no digit. -/
theorem isWord_of_fold_isAlpha {c : Char} (h : (fold c).isAlpha = true) :
    isWord c = true ∧ isDigit c = false := by
  have hlt : (fold c).toNat < 128 := by
    delta Char.isAlpha Char.isUpper Char.isLower at h
    simp only [Bool.or_eq_true, Bool.and_eq_true, decide_eq_true_eq, UInt32.le_iff_toNat_le,
      ge_iff_le, Char.toNat_val] at h
    change (65 ≤ (fold c).toNat ∧ (fold c).toNat ≤ 90) ∨
      (97 ≤ (fold c).toNat ∧ (fold c).toNat ≤ 122) at h
    omega
  rcases ascii_or_of_fold_ascii hlt with hc | rfl | rfl
  · rw [isDigit_of_lt hc]
    revert h
    exact ascii_cases (P := fun c => (fold c).isAlpha = true → isWord c = true ∧ c.isDigit = false)
      (by decide) hc
  · decide
  · decide +kernel

/-! ## Lower case -/

theorem toLower_eq_self {c : Char} (h : 128 ≤ c.toNat) : c.toLower = c := by
  unfold Char.toLower
  split
  · rename_i hc
    have h1 := UInt32.le_iff_toNat_le.1 hc.2
    rw [Char.toNat_val, Char.toNat_val] at h1
    have h2 : 'Z'.toNat = 90 := rfl
    omega
  · rfl

theorem toLower_toLower (c : Char) : c.toLower.toLower = c.toLower := by
  by_cases hc : c.toNat < 128
  · exact ascii_cases (P := fun c => c.toLower.toLower = c.toLower) (by decide) hc
  · have hself := toLower_eq_self (c := c) (by omega)
    rw [hself, hself]

theorem fold_toLower (c : Char) : fold c.toLower = fold c := by
  by_cases hc : c.toNat < 128
  · exact ascii_cases (P := fun c => fold c.toLower = fold c) (by decide) hc
  · rw [toLower_eq_self (by omega)]

theorem isWord_toLower (c : Char) : isWord c.toLower = isWord c := by
  by_cases hc : c.toNat < 128
  · exact ascii_cases (P := fun c => isWord c.toLower = isWord c) (by decide) hc
  · rw [toLower_eq_self (by omega)]

theorem isDigit_toLower (c : Char) : isDigit c.toLower = isDigit c := by
  by_cases hc : c.toNat < 128
  · obtain ⟨hlt, heq⟩ := ascii_cases
      (P := fun c => c.toLower.toNat < 128 ∧ c.toLower.isDigit = c.isDigit) (by decide) hc
    rw [isDigit_of_lt hc, isDigit_of_lt hlt, heq]
  · rw [toLower_eq_self (by omega)]

theorem isBlank_toLower (c : Char) : isBlank c.toLower = isBlank c := by
  by_cases hc : c.toNat < 128
  · exact ascii_cases (P := fun c => isBlank c.toLower = isBlank c) (by decide) hc
  · rw [toLower_eq_self (by omega)]

/-- A sign that is no capital letter and no small one is the lower case of itself alone. -/
theorem toLower_eq_iff {c sign : Char} (h : sign.isAlpha = false) : c.toLower = sign ↔ c = sign := by
  by_cases hc : c.toNat < 128
  · revert sign
    refine ascii_cases (P := fun c => ∀ {sign : Char}, sign.isAlpha = false →
      (c.toLower = sign ↔ c = sign)) ?_ hc
    have hall : ∀ n : Fin 128, (Char.ofNat n).toLower = Char.ofNat n ∨
        (Char.ofNat n).isAlpha = true ∧ (Char.ofNat n).toLower.isAlpha = true := by
      decide
    intro n sign hs
    rcases hall n with h | ⟨h1, h2⟩
    · rw [h]
    · constructor
      · rintro rfl; rw [h2] at hs; cases hs
      · rintro rfl; rw [h1] at hs; cases hs
  · rw [toLower_eq_self (by omega)]

end SqlDialect.Text
