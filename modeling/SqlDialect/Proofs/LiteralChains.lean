import SqlDialect.Proofs.LiteralContents

/-!
# Chains of literals

A sweep finds only every other sum of a chain `'a' + 'b' + 'c'`, so a chain takes several turns, and
a turn can pair the closing quote of a literal with the opening one of the next. Seen from the
quotes none of this matters: the gaps of the chain are those within its literals, and its signs.

* `PlainLiteral`, `PlusSign` — the parts of a chain: a literal that holds no `+`, and a `+` among
  blanks.
* `gaps_chain` — the gaps of a chain, with any signs that hold no quote.
* `joinFront_chain` — of these the signs are joined, and all of them.
* `Rule.literalSums_chain` — so the rule writes ` || ` for every sign of a chain and keeps its
  literals.
-/

namespace SqlDialect.Query

open Scan Text

/-! ## Parts of a chain -/

/-- A literal that holds no `+`. -/
structure PlainLiteral where
  content : List Char
  no_plus : '+' ∉ content

/-- A character as it stands in a literal: a quote is written twice. -/
def literalChar (c : Char) : List Char := if c = '\'' then ['\'', '\''] else [c]

/-- What stands between the quotes of the literal. -/
def PlainLiteral.body (l : PlainLiteral) : List Char := l.content.flatMap literalChar

def PlainLiteral.text (l : PlainLiteral) : List Char := '\'' :: (l.body ++ ['\''])

/-- A `+` among blanks. -/
structure PlusSign where
  left : List Char
  right : List Char
  left_blanks : Blanks left
  right_blanks : Blanks right

def PlusSign.text (sign : PlusSign) : List Char := sign.left ++ '+' :: sign.right

theorem PlusSign.isPlus_text (sign : PlusSign) : isPlus sign.text = true :=
  isPlus_iff.2 ⟨sign.left, sign.right, sign.left_blanks, sign.right_blanks, rfl⟩

theorem PlusSign.not_mem_text (sign : PlusSign) : '\'' ∉ sign.text := by
  have hblank : isBlank '\'' = false := by decide
  simp [PlusSign.text, sign.left_blanks.not_mem hblank, sign.right_blanks.not_mem hblank]

theorem PlainLiteral.no_plus_body (l : PlainLiteral) : '+' ∉ l.body := by
  intro hmem
  obtain ⟨c, hc, hchar⟩ := List.mem_flatMap.1 hmem
  unfold literalChar at hchar
  split at hchar
  · simp at hchar
  · obtain rfl := List.mem_singleton.1 hchar
    exact l.no_plus hc

/-- A gap is part of the text. -/
theorem subset_of_mem_gaps {s g : List Char} (h : g ∈ gaps s) : g ⊆ s := by
  induction s using quotes_induction with
  | last u hu =>
    rw [gaps_of_not_mem hu, List.mem_singleton] at h
    exact h ▸ List.Subset.refl u
  | quote u v hu ih =>
    rw [gaps_append_quote, gaps_of_not_mem hu] at h
    rcases List.mem_cons.1 h with rfl | h
    · exact List.subset_append_left _ _
    · exact fun c hc => List.mem_append_right u (List.mem_cons_of_mem _ (ih h hc))

/-- No gap within a literal is taken for a sign. -/
theorem PlainLiteral.isPlus_of_mem_gaps {l : PlainLiteral} {g : List Char} (h : g ∈ gaps l.body) :
    isPlus g = false := by
  rw [Bool.eq_false_iff]
  intro hg
  obtain ⟨b₁, b₂, -, -, rfl⟩ := isPlus_iff.1 hg
  exact l.no_plus_body (subset_of_mem_gaps h (by simp))

/-- A text is known by its gaps. -/
theorem gaps_injective {s t : List Char} (h : gaps s = gaps t) : s = t := by
  have hjoin := congrArg (List.intercalate ['\'']) h
  unfold gaps at hjoin
  rwa [List.intercalate_splitOn, List.intercalate_splitOn] at hjoin

/-! ## The gaps of a chain -/

theorem PlainLiteral.gaps_text_append (l : PlainLiteral) {x : List Char} (hx : '\'' ∉ x)
    (y : List Char) : gaps (x ++ l.text ++ y) = x :: (gaps l.body ++ gaps y) := by
  have hcut : x ++ l.text ++ y = x ++ '\'' :: (l.body ++ '\'' :: y) := by
    simp [PlainLiteral.text]
  rw [hcut, gaps_append_quote, gaps_append_quote, gaps_of_not_mem hx]
  rfl

/-- The gaps of the rest of a chain: each sign, and then those of its literal. -/
theorem gaps_chain {α : Type} {sign : α → List Char} (hsign : ∀ a, '\'' ∉ sign a)
    (rest : List (α × PlainLiteral)) {post : List Char} (hpost : '\'' ∉ post) :
    gaps (rest.flatMap (fun (a, l) => sign a ++ l.text) ++ post) =
      rest.flatMap (fun (a, l) => sign a :: gaps l.body) ++ [post] := by
  induction rest with
  | nil => exact gaps_of_not_mem hpost
  | cons part rest ih =>
    obtain ⟨a, l⟩ := part
    rw [List.flatMap_cons, List.append_assoc, l.gaps_text_append (hsign a), ih, List.flatMap_cons]
    simp

/-- Gaps without a sign among them stay, and so does the last one. -/
theorem joinFront_concat {gs : List (List Char)} (hgs : ∀ g ∈ gs, isPlus g = false)
    (post : List Char) : joinFront (gs ++ [post]) = gs ++ [post] := by
  refine joinFront_eq_self fun front g back hcut hback => hgs g ?_
  have hne : back ≠ [] := List.ne_nil_of_length_pos (by omega)
  have hdrop := congrArg List.dropLast hcut
  rw [List.dropLast_concat, List.dropLast_append_of_ne_nil (List.cons_ne_nil g back),
    List.dropLast_cons_of_ne_nil hne] at hdrop
  rw [hdrop]
  simp

/-- In a chain the signs are joined, and nothing else. -/
theorem joinFront_chain (rest : List (PlusSign × PlainLiteral)) {gs : List (List Char)}
    (hgs : ∀ g ∈ gs, isPlus g = false) (post : List Char) :
    joinFront (gs ++ (rest.flatMap (fun (sign, l) => sign.text :: gaps l.body) ++ [post])) =
      gs ++ (rest.flatMap (fun (_, l) => " || ".toList :: gaps l.body) ++ [post]) := by
  induction rest generalizing gs with
  | nil => exact joinFront_concat hgs post
  | cons part rest ih =>
    obtain ⟨sign, l⟩ := part
    have hlength : 2 ≤ (gaps l.body ++
        (rest.flatMap (fun (sign, l) => sign.text :: gaps l.body) ++ [post])).length := by
      have hpos := List.length_pos_iff.2 (gaps_ne_nil l.body)
      simp only [List.length_append, List.length_singleton]
      omega
    have hkeep : gs.map joinGap = gs :=
      (List.map_congr_left fun g hg => joinGap_eq_self_iff.2 (hgs g hg)).trans (List.map_id gs)
    have hjoin : joinGap sign.text = " || ".toList := if_pos sign.isPlus_text
    have hrest := ih fun _ => l.isPlus_of_mem_gaps
    have hcut : joinFront (gs ++ [sign.text] ++ (gaps l.body ++ (rest.flatMap
        (fun (sign, l) => sign.text :: gaps l.body) ++ [post]))) = _ := joinFront_append hlength
    rw [hrest, List.map_append, hkeep, List.map_singleton, hjoin] at hcut
    simpa using hcut

end SqlDialect.Query

namespace SqlDialect

open Query Scan Text

/-- **Chains are written anew as a whole.** In a chain of literals that hold no `+`, with any blanks
around its signs and no other literal near it, every sign becomes ` || ` and all else stays. -/
theorem Rule.literalSums_chain (whole : List Char) {pre post : List Char} (hpre : '\'' ∉ pre)
    (hpost : '\'' ∉ post) (first : PlainLiteral) (rest : List (PlusSign × PlainLiteral)) :
    Rule.literalSums.apply whole
        (pre ++ first.text ++ (rest.flatMap (fun (sign, l) => sign.text ++ l.text) ++ post)) =
      pre ++ first.text ++ (rest.flatMap (fun (_, l) => " || ".toList ++ l.text) ++ post) := by
  refine gaps_injective ?_
  change gaps (concatLiterals _) = _
  have hbars : ∀ _ : PlusSign, '\'' ∉ " || ".toList := fun _ => by decide
  rw [gaps_concatLiterals, first.gaps_text_append hpre, first.gaps_text_append hpre,
    gaps_chain PlusSign.not_mem_text rest hpost, gaps_chain hbars rest hpost]
  -- the first gap of the first literal is one that is never joined
  obtain ⟨g, gs, hfirst⟩ := List.exists_cons_of_ne_nil (gaps_ne_nil first.body)
  have hgs : ∀ k ∈ gs, isPlus k = false := fun k hk =>
    first.isPlus_of_mem_gaps (by rw [hfirst]; exact List.mem_cons_of_mem g hk)
  rw [hfirst]
  exact congrArg (fun back => pre :: g :: back) (joinFront_chain rest hgs post)

/-- An empty literal, one with a quote inside and one that is a quote. -/
theorem Rule.literalSums_chain_quotes :
    '\'' ∉ "x = ".toList ∧ '\'' ∉ ", y".toList ∧
      Rule.literalSums.apply [] "x = ''+'it''s' + '''', y".toList =
        "x = '' || 'it''s' || '''', y".toList := by
  have hpre : '\'' ∉ "x = ".toList := by decide
  have hpost : '\'' ∉ ", y".toList := by decide
  have hspace : Blanks [' '] := List.forall_mem_singleton.2 (by decide)
  exact ⟨hpre, hpost, Rule.literalSums_chain [] hpre hpost ⟨[], by decide⟩
    [(⟨[], [], blanks_nil, blanks_nil⟩, ⟨"it's".toList, by decide⟩),
      (⟨[' '], [' '], hspace, hspace⟩, ⟨['\''], by decide⟩)]⟩

end SqlDialect
