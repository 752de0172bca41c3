import Mathlib.Data.List.TakeWhile
import SqlDialect.Json.Printer
import SqlDialect.Json.Reader

/-!
# Reading back what was written

Objects whose members are strings are what the program writes for its answers. They can be read
back, whatever characters the strings have.

* `many_flatMap` — a repeated step reads a list back if it reads each item back.
* `stringChar?_escapeChar`, `string?_stringText` — characters and strings.
* `ReadsBack` — a value can be read back, wherever it stands; strings can, and objects of such
  values with names that differ.
* `parse?_pretty` — such a value is read back from a text that has only blanks behind it.
-/

namespace SqlDialect.Scan

variable {α : Type} {step : Step α} {write : α → List Char}

/-- With enough turns a step reads back all items, if it reads back each of them and cannot be taken
on what follows. -/
theorem manyUpTo_flatMap {as : List α}
    (hread : ∀ a ∈ as, ∀ rest, step (write a ++ rest) = some (a, rest)) {rest : List Char}
    (hstop : step rest = none) {n : Nat} (h : as.length ≤ n) :
    manyUpTo step n (as.flatMap write ++ rest) = (as, rest) := by
  induction as generalizing n with
  | nil =>
    cases n with
    | zero => rfl
    | succ n => rw [List.flatMap_nil, List.nil_append, manyUpTo, hstop]
  | cons a as ih =>
    cases n with
    | zero => simp at h
    | succ n =>
      have hn : as.length ≤ n := by simpa using h
      have hrest : ∀ b ∈ as, ∀ rest, step (write b ++ rest) = some (b, rest) := fun b hb =>
        hread b (List.mem_cons_of_mem a hb)
      rw [List.flatMap_cons, List.append_assoc, manyUpTo, hread a List.mem_cons_self]
      simp only [ih hrest hn]

theorem length_le_length_flatMap (hne : ∀ a, write a ≠ []) (as : List α) :
    as.length ≤ (as.flatMap write).length := by
  induction as with
  | nil => exact Nat.le_refl 0
  | cons a as ih =>
    have hpos := List.length_pos_iff.2 (hne a)
    rw [List.flatMap_cons, List.length_append, List.length_cons]
    omega

theorem many_flatMap {as : List α}
    (hread : ∀ a ∈ as, ∀ rest, step (write a ++ rest) = some (a, rest)) (hne : ∀ a, write a ≠ [])
    {rest : List Char} (hstop : step rest = none) :
    many step (as.flatMap write ++ rest) = (as, rest) := by
  refine manyUpTo_flatMap hread hstop ?_
  have hle := length_le_length_flatMap hne as
  rw [List.length_append]
  omega

end SqlDialect.Scan

namespace SqlDialect.Json

open Scan

/-! ## Characters -/

theorem hexValue?_digitChar : ∀ n < 16, hexValue? (Nat.digitChar n) = some n := by decide

/-- The escape of a control by its code. -/
theorem codeEscape?_control {c : Char} (hc : c.toNat < 0x20) (rest : List Char) :
    codeEscape?
        ('0' :: '0' :: Nat.digitChar (c.toNat / 16) :: Nat.digitChar (c.toNat % 16) :: rest) =
      some (c, rest) := by
  have hzero : hexValue? '0' = some 0 := by decide
  have hhigh := hexValue?_digitChar (c.toNat / 16) (by omega)
  have hlow := hexValue?_digitChar (c.toNat % 16) (by omega)
  have hcode : ((0 * 16 + 0) * 16 + c.toNat / 16) * 16 + c.toNat % 16 = c.toNat := by omega
  simp only [codeEscape?, unit?, hzero, hhigh, hlow, Option.bind_eq_bind, Option.bind_some,
    Option.pure_def, hcode]
  rw [if_neg (by omega), if_neg (by omega), Char.ofNat_toNat]

/-- A character is read back from its escape. -/
theorem stringChar?_escapeChar (c : Char) (rest : List Char) :
    stringChar? (escapeChar c ++ rest) = some (c, rest) := by
  unfold escapeChar
  split
  any_goals rfl
  -- left are the other controls, and the characters that stand for themselves
  split
  · rename_i hcontrol
    exact codeEscape?_control hcontrol rest
  · rename_i hquote hbackslash _ _ _ _ _ hprintable
    unfold stringChar?
    simp_all

theorem escapeChar_ne_nil (c : Char) : escapeChar c ≠ [] := by
  unfold escapeChar
  split
  any_goals exact List.cons_ne_nil _ _
  split
  · exact List.cons_ne_nil _ _
  · exact List.cons_ne_nil _ _

/-! ## Blanks -/

/-- The text has only blanks of JSON. -/
def Spaces (b : List Char) : Prop := ∀ c ∈ b, c ∈ [' ', '\t', '\n', '\r']

instance (b : List Char) : Decidable (Spaces b) := List.decidableBAll _ _

theorem spaces_newLine (depth : Nat) : Spaces (newLine depth) := by
  intro c hc
  rcases List.mem_cons.1 hc with rfl | hc
  · decide
  · obtain ⟨-, rfl⟩ := List.mem_replicate.1 hc
    decide

theorem skipSpace_append {b : List Char} (hb : Spaces b) (c : Char)
    (hc : c ∉ [' ', '\t', '\n', '\r']) (s : List Char) : skipSpace (b ++ c :: s) = c :: s := by
  have hkeep : ¬[' ', '\t', '\n', '\r'].contains c = true := fun h =>
    hc (List.contains_iff_mem.1 h)
  rw [skipSpace, List.dropWhile_append_of_pos fun c hc => List.contains_iff_mem.2 (hb c hc),
    List.dropWhile_cons_of_neg hkeep]

/-- A sign is read behind blanks. -/
theorem sign?_append {b : List Char} (hb : Spaces b) (c : Char)
    (hc : c ∉ [' ', '\t', '\n', '\r']) (s : List Char) : sign? c (b ++ c :: s) = some ((), s) := by
  simp only [sign?, skipSpace_append hb c hc, if_true]

/-! ## Strings -/

theorem stringText_append (s : String) (rest : List Char) :
    stringText s ++ rest = '"' :: (s.toList.flatMap escapeChar ++ '"' :: rest) := by
  simp [stringText]

/-- A string is read back behind blanks. -/
theorem string?_append {b : List Char} (hb : Spaces b) (s : String) (rest : List Char) :
    string? (b ++ (stringText s ++ rest)) = some (s, rest) := by
  have hsign := sign?_append hb '"' (by decide) (s.toList.flatMap escapeChar ++ '"' :: rest)
  have hchars : many stringChar? (s.toList.flatMap escapeChar ++ '"' :: rest) =
      (s.toList, '"' :: rest) :=
    many_flatMap (fun c _ => stringChar?_escapeChar c) escapeChar_ne_nil rfl
  rw [stringText_append]
  simp only [string?, hsign, hchars, word?, Option.bind_eq_bind, Option.bind_some, if_true,
    Option.pure_def, String.ofList_toList]

/-! ## Values -/

/-- The value is read back from its text, behind blanks and before anything, if values may be nested
to the given depth. -/
def ReadsBack (limit : Nat) (v : Json) : Prop :=
  ∀ depth b rest, Spaces b → value? limit (b ++ (prettyText depth v ++ rest)) = some (v, rest)

theorem readsBack_string (limit : Nat) (s : String) : ReadsBack limit (string s) := by
  intro depth b rest hb
  have hread := string?_append (b := []) nofun s rest
  have htext : prettyText depth (string s) = stringText s := by rw [prettyText]
  rw [List.nil_append, stringText_append] at hread
  rw [htext, stringText_append, value?, skipSpace_append hb '"' (by decide)]
  simp only [hread, Option.map_some]

/-- A member of an object with what stands before it on its line. -/
def memberText (depth : Nat) (m : String × Json) : List Char :=
  newLine depth ++ stringText m.1 ++ ": ".toList ++ prettyText depth m.2

theorem prettyMembers_eq (depth : Nat) (ms : List (String × Json)) :
    prettyMembers depth ms = ms.flatMap fun m => ',' :: memberText depth m := by
  induction ms with
  | nil => rw [prettyMembers, List.flatMap_nil]
  | cons m ms ih =>
    rw [prettyMembers, ih, List.flatMap_cons]
    simp [memberText]

theorem member?_memberText {limit : Nat} {m : String × Json} (hm : ReadsBack limit m.2)
    (depth : Nat) (rest : List Char) :
    member? (value? limit) (memberText depth m ++ rest) = some (m, rest) := by
  let value := [' '] ++ (prettyText depth m.2 ++ rest)
  have hcut : memberText depth m ++ rest =
      newLine depth ++ (stringText m.1 ++ ([] ++ ':' :: value)) := by
    have hcolon : ": ".toList = [':', ' '] := by decide
    simp [memberText, hcolon, value]
  have hname := string?_append (spaces_newLine depth) m.1 ([] ++ ':' :: value)
  have hsign := sign?_append (b := []) nofun ':' (by decide) value
  have hvalue : value? limit value = some (m.2, rest) := hm depth [' '] rest (by decide)
  rw [hcut]
  simp only [member?, hname, hsign, hvalue, Option.bind_eq_bind, Option.bind_some, Option.pure_def]

/-- Setting a member that is not there yet puts it at the end. -/
theorem insert_of_not_mem {name : String} {ms : List (String × Json)} (h : name ∉ ms.map Prod.fst)
    (v : Json) : insert name v ms = ms ++ [(name, v)] := by
  induction ms with
  | nil => rfl
  | cons m ms ih =>
    obtain ⟨n, u⟩ := m
    rw [List.map_cons, List.mem_cons, not_or] at h
    rw [insert, if_neg (Ne.symm h.1), ih h.2, List.cons_append]

/-- Members with names that differ are all kept. -/
theorem foldl_insert {ms acc : List (String × Json)} (h : ((acc ++ ms).map Prod.fst).Nodup) :
    ms.foldl (fun acc m => insert m.1 m.2 acc) acc = acc ++ ms := by
  induction ms generalizing acc with
  | nil => rw [List.foldl_nil, List.append_nil]
  | cons m ms ih =>
    have hnot : m.1 ∉ acc.map Prod.fst := by
      intro hmem
      rw [List.map_append, List.map_cons, List.nodup_append] at h
      exact h.2.2 m.1 hmem m.1 List.mem_cons_self rfl
    have hcut : acc ++ m :: ms = acc ++ [m] ++ ms := by simp
    rw [hcut] at h ⊢
    rw [List.foldl_cons, insert_of_not_mem hnot, ih h]

/-- The members of an object are read back, up to the sign at its end. -/
theorem separated_members {limit : Nat} {ms : List (String × Json)}
    (hms : ∀ m ∈ ms, ReadsBack limit m.2) (depth : Nat) (rest : List Char) :
    ∃ s b, prettyText depth (object ms) ++ rest = '\x7b' :: s ∧ Spaces b ∧
      separated (sign? ',') (member? (value? limit)) s = (ms, b ++ '\x7d' :: rest) := by
  cases ms with
  | nil =>
    refine ⟨'\x7d' :: rest, [], ?_, nofun, rfl⟩
    rw [prettyText]
    rfl
  | cons m ms =>
    let more := (ms.flatMap fun m => ',' :: memberText (depth + 1) m) ++
      (newLine depth ++ '\x7d' :: rest)
    refine ⟨memberText (depth + 1) m ++ more, newLine depth, ?_, spaces_newLine depth, ?_⟩
    · rw [prettyText, prettyMembers_eq]
      simp [memberText, more]
    · -- the first member is read by itself, each other one behind a comma
      have hfirst := member?_memberText (hms m List.mem_cons_self) (depth + 1) more
      have hnext : ∀ m ∈ ms, ∀ rest, after (sign? ',') (member? (value? limit))
          (',' :: memberText (depth + 1) m ++ rest) = some (m, rest) := by
        intro m hm rest
        have hsign := sign?_append (b := []) nofun ',' (by decide)
          (memberText (depth + 1) m ++ rest)
        have hmember := member?_memberText (hms m (List.mem_cons_of_mem _ hm)) (depth + 1) rest
        rw [List.nil_append] at hsign
        simp only [after, List.cons_append, hsign, hmember, Option.bind_eq_bind, Option.bind_some]
      have hstop : after (sign? ',') (member? (value? limit))
          (newLine depth ++ '\x7d' :: rest) = none := by
        have hskip := skipSpace_append (spaces_newLine depth) '\x7d' (by decide) rest
        simp [after, sign?, hskip]
      have hmany := many_flatMap hnext (fun _ => List.cons_ne_nil _ _) hstop
      simp only [separated, hfirst, more, hmany]

/-- An object is read back if its members are and their names differ. -/
theorem readsBack_object {limit : Nat} {ms : List (String × Json)}
    (hms : ∀ m ∈ ms, ReadsBack limit m.2) (hnames : (ms.map Prod.fst).Nodup) :
    ReadsBack (limit + 1) (object ms) := by
  intro depth b rest hb
  obtain ⟨s, b', htext, hb', hmembers⟩ := separated_members hms depth rest
  have hsign := sign?_append hb' '\x7d' (by decide) rest
  have hall : ms.foldl (fun acc m => insert m.1 m.2 acc) [] = ms := foldl_insert hnames
  rw [htext, value?, skipSpace_append hb '\x7b' (by decide)]
  simp [hmembers, hsign, hall]

theorem readsBack_strings {limit : Nat} {ms : List (String × String)}
    (hnames : (ms.map Prod.fst).Nodup) :
    ReadsBack (limit + 1) (object (ms.map fun m => (m.1, string m.2))) := by
  refine readsBack_object ?_ ?_
  · intro m hm
    obtain ⟨m, -, rfl⟩ := List.mem_map.1 hm
    exact readsBack_string limit m.2
  · rw [List.map_map]
    exact hnames

/-- A value is read back from a text with nothing but blanks behind it. -/
theorem parse?_pretty {v : Json} (hv : ReadsBack depthLimit v) {b : String} (hb : Spaces b.toList) :
    parse? (v.pretty ++ b) = some v := by
  have hread := hv 0 [] b.toList nofun
  have hskip : skipSpace b.toList = [] :=
    List.dropWhile_eq_nil_iff.2 fun c hc => List.contains_iff_mem.2 (hb c hc)
  rw [List.nil_append] at hread
  simp [parse?, pretty, hread, hskip]

end SqlDialect.Json
