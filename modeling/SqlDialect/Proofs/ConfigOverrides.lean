import Mathlib.Data.List.Lex
import SqlDialect.Config
import SqlDialect.Proofs.DistinctKeys

/-!
# What a configuration document says

The keys of a document override the defaults one by one. Here is said, apart from the order in which
they are read, which documents are configurations, which configuration they give and what is wrong
with the others.

* `Faults`, `Faults.First` — what is wrong at which places of a document, and what comes first.
* `Reports` — a reader succeeds without faults and fails with the first one. It passes from the
  readers of items to the reader of a list: `reports_mapM`, `reports_foldlM`.
* `Fits` — the documents that are configurations, `DocumentFault` — what is wrong with the others.
* `Describes` — the configuration that a document gives: what is present is taken, what is absent
  keeps its default. `foldlM_takes` reads it off a run over the entries.
* `Rearranged` — the same document with its keys in another order.
* `decode_overrides_defaults` — documents are decoded in this way.
-/

namespace SqlDialect.Config

open Toml (Value)

variable {α β σ : Type}

/-! ## The first fault -/

/-- The positions that lead to a place in a document, from the outside inwards. -/
abbrev Place := List Nat

/-- What is wrong at which places. -/
abbrev Faults := Place → ConfigError → Prop

namespace Faults

/-- Nothing is wrong. -/
def None (faults : Faults) : Prop := ∀ p e, ¬ faults p e

/-- All other faults stand after this one. -/
def First (faults : Faults) (e : ConfigError) : Prop :=
  ∃ p, faults p e ∧ ∀ q d, faults q d → (q = p ∧ d = e) ∨ List.Lex (· < ·) p q

/-- The faults of the items of a list, each behind the position of its item. -/
def within (faults : α → Faults) (items : List α) : Faults
  | [], _ => False
  | i :: p, e => ∃ a, items[i]? = some a ∧ faults a p e

/-- The faults of an item, and those of a list that comes after it. -/
def andThen (faults rest : Faults) : Faults
  | [], _ => False
  | 0 :: p, e => faults p e
  | (i + 1) :: p, e => rest (i :: p) e

variable {faults rest : Faults} {d e : ConfigError}

theorem First.not_none (h : faults.First e) : ¬ faults.None := by
  obtain ⟨p, hp, -⟩ := h
  exact fun hnone => hnone p e hp

theorem First.unique (hd : faults.First d) (he : faults.First e) : d = e := by
  obtain ⟨p, hp, hfirst⟩ := hd
  obtain ⟨q, hq, hfirst'⟩ := he
  rcases hfirst q e hq with ⟨-, heq⟩ | hlt
  · exact heq.symm
  · rcases hfirst' p d hp with ⟨-, heq⟩ | hgt
    · exact heq
    · exact absurd hgt (Std.Asymm.asymm p q hlt)

theorem None.andThen (hfaults : faults.None) (hrest : rest.None) : (faults.andThen rest).None
  | [], _, h => h
  | 0 :: p, e, h => hfaults p e h
  | (i + 1) :: p, e, h => hrest (i :: p) e h

theorem First.andThen (h : faults.First e) : (faults.andThen rest).First e := by
  obtain ⟨p, hp, hfirst⟩ := h
  refine ⟨0 :: p, hp, fun q d hq => ?_⟩
  match q, hq with
  | 0 :: q, hq =>
    rcases hfirst q d hq with ⟨rfl, rfl⟩ | hlt
    · exact .inl ⟨rfl, rfl⟩
    · exact .inr (.cons hlt)
  | (j + 1) :: q, _ => exact .inr (.rel j.succ_pos)

theorem First.after (hfaults : faults.None) (hitems : ∀ e, ¬ rest [] e) (h : rest.First e) :
    (faults.andThen rest).First e := by
  obtain ⟨p, hp, hfirst⟩ := h
  obtain - | ⟨i, p⟩ := p
  · exact absurd hp (hitems e)
  refine ⟨(i + 1) :: p, hp, fun q d hq => ?_⟩
  match q, hq with
  | 0 :: q, hq => exact absurd hq (hfaults q d)
  | (j + 1) :: q, hq =>
    rcases hfirst (j :: q) d hq with ⟨heq, rfl⟩ | hlt
    · obtain ⟨rfl, rfl⟩ := List.cons.inj heq
      exact .inl ⟨rfl, rfl⟩
    · cases hlt with
      | rel hlt => exact .inr (.rel (Nat.succ_lt_succ hlt))
      | cons hlt => exact .inr (.cons hlt)

theorem within_nil (faults : α → Faults) : (within faults []).None
  | [], _, h => h
  | _ :: _, _, ⟨_, h, _⟩ => by cases h

theorem within_cons (faults : α → Faults) (a : α) (items : List α) :
    within faults (a :: items) = (faults a).andThen (within faults items) := by
  funext p e
  match p with
  | [] => rfl
  | 0 :: p => simp [within, Faults.andThen]
  | (i + 1) :: p => rfl

theorem none_within {faults : α → Faults} {items : List α} :
    (within faults items).None ↔ ∀ a ∈ items, (faults a).None := by
  constructor
  · intro h a ha p e hfault
    obtain ⟨i, hi⟩ := List.mem_iff_getElem?.1 ha
    exact h (i :: p) e ⟨a, hi, hfault⟩
  · intro h p e hfault
    match p, hfault with
    | i :: p, ⟨a, hi, hfault⟩ => exact h a (List.mem_of_getElem? hi) p e hfault

end Faults

/-- The reader succeeds if there are no faults, and fails with the first. -/
def Reports : Except ConfigError α → Faults → Prop
  | .ok _, faults => faults.None
  | .error e, faults => faults.First e

section Reports

variable {x : Except ConfigError α} {k : α → Except ConfigError β} {faults rest : Faults}

theorem Reports.exists_ok_iff (h : Reports x faults) : (∃ a, x = .ok a) ↔ faults.None := by
  cases x with
  | ok a => exact ⟨fun _ => h, fun _ => ⟨a, rfl⟩⟩
  | error e =>
    refine ⟨?_, fun hnone => absurd hnone (Faults.First.not_none h)⟩
    rintro ⟨_, ⟨⟩⟩

theorem Reports.error_iff (h : Reports x faults) {e : ConfigError} :
    x = .error e ↔ faults.First e := by
  cases x with
  | ok a =>
    refine ⟨?_, fun hfirst => absurd h hfirst.not_none⟩
    rintro ⟨⟩
  | error d =>
    constructor
    · intro heq
      exact Except.error.inj heq ▸ h
    · intro hfirst
      rw [Faults.First.unique h hfirst]

theorem Reports.map (h : Reports x faults) (f : α → β) :
    Reports (x >>= fun a => pure (f a)) faults := by
  cases x with
  | ok a => exact h
  | error e => exact h

/-- What is read first is reported first. -/
theorem Reports.bind (hx : Reports x faults) (hk : ∀ a, Reports (k a) rest)
    (hitems : ∀ e, ¬ rest [] e) : Reports (x >>= k) (faults.andThen rest) := by
  cases x with
  | error e => exact hx.andThen
  | ok a =>
    have hka := hk a
    change Reports (k a) _
    cases h : k a with
    | ok b =>
      rw [h] at hka
      exact Faults.None.andThen hx hka
    | error e =>
      rw [h] at hka
      exact Faults.First.after hx hitems hka

theorem reports_mapM {read : α → Except ConfigError β} {faults : α → Faults}
    (hread : ∀ a, Reports (read a) (faults a)) (items : List α) :
    Reports (items.mapM read) (Faults.within faults items) := by
  induction items with
  | nil => exact Faults.within_nil faults
  | cons a items ih =>
    rw [List.mapM_cons, Faults.within_cons]
    exact (hread a).bind (fun b => ih.map (b :: ·)) fun _ h => h

theorem reports_foldlM {step : σ → α → Except ConfigError σ} {faults : α → Faults}
    (hstep : ∀ s a, Reports (step s a) (faults a)) (items : List α) (s : σ) :
    Reports (items.foldlM step s) (Faults.within faults items) := by
  induction items generalizing s with
  | nil => exact Faults.within_nil faults
  | cons a items ih =>
    rw [List.foldlM_cons, Faults.within_cons]
    exact (hstep s a).bind ih fun _ h => h

end Reports

/-! ## Documents that are configurations -/

def IsString (v : Value) : Prop := ∃ s, v = .string s

def IsBool (v : Value) : Prop := ∃ b, v = .boolean b

def IsArray (v : Value) : Prop := ∃ items, v = .array items

/-- An array of strings. -/
def IsStrings (v : Value) : Prop := ∃ items, v = .array items ∧ ∀ x ∈ items, IsString x

/-- A table with settings for booleans, or an array of them. -/
def FitsBooleans : Value → Prop
  | .table entries => ∀ key v, (key, v) ∈ entries →
      key = "enabled" ∧ IsBool v ∨ key = "columns" ∧ IsStrings v
  | .array items => (∀ v, items[0]? = some v → IsBool v) ∧ (∀ v, items[1]? = some v → IsStrings v)
  | _ => False

/-- Every key is known, and its value is of the right kind. -/
def Fits (entries : List (String × Value)) : Prop :=
  ∀ key v, (key, v) ∈ entries → key = "dialect" ∧ IsString v ∨ key = "booleans" ∧ FitsBooleans v

/-! ## Faults of documents -/

/-- The value itself is not of the kind that is expected. -/
inductive KindFault (Kind : Value → Prop) (expected : String) (v : Value) :
    Place → ConfigError → Prop where
  | intro (h : ¬ Kind v) : KindFault Kind expected v [] (.wrongKind v.found expected)

/-- The keys of a table, each with what can be wrong with its value. -/
abbrev FaultTable := List (String × (Value → Faults))

/-- The key of an entry is unknown, or its value is wrong. -/
inductive KeyFault (known : FaultTable) : String × Value → Place → ConfigError → Prop where
  | value {key v faults p e} (hkey : (key, faults) ∈ known) (h : faults v p e) :
      KeyFault known (key, v) p e
  | unknown {key v} (h : key ∉ known.map Prod.fst) :
      KeyFault known (key, v) [] (.unknownKey key (known.map Prod.fst))

/-- What is wrong with an array of strings. -/
inductive StringsFault : Value → Place → ConfigError → Prop where
  | kind {v p e} (h : KindFault IsArray "a sequence" v p e) : StringsFault v p e
  | item {items p e} (h : Faults.within (KindFault IsString "a string") items p e) :
      StringsFault (.array items) p e

def booleanFaults : FaultTable :=
  [("enabled", KindFault IsBool "a boolean"), ("columns", StringsFault)]

/-- An array or a table. A date-time is read as a table with a key of its own. -/
def IsCompound : Value → Prop
  | .array _ | .table _ | .dateTime _ => True
  | _ => False

/-- What is wrong with the settings for booleans. In an array they stand in the order of the keys. -/
inductive BooleansFault : Value → Place → ConfigError → Prop where
  | kind {v p e} (h : KindFault IsCompound "struct BooleanConfig" v p e) : BooleansFault v p e
  | entry {entries p e} (h : Faults.within (KeyFault booleanFaults) entries p e) :
      BooleansFault (.table entries) p e
  | item {items i key faults v p e} (hi : booleanFaults[i]? = some (key, faults))
      (hv : items[i]? = some v) (h : faults v p e) : BooleansFault (.array items) (i :: p) e
  | dateTime {d} :
      BooleansFault (.dateTime d) [] (.unknownKey dateTimeKey (booleanFaults.map Prod.fst))

def documentFaults : FaultTable :=
  [("dialect", KindFault IsString "a string"), ("booleans", BooleansFault)]

/-- What is wrong with a document. -/
def DocumentFault (entries : List (String × Value)) : Faults :=
  Faults.within (KeyFault documentFaults) entries

theorem nodup_booleanFaults : (booleanFaults.map Prod.fst).Nodup := by decide

theorem nodup_documentFaults : (documentFaults.map Prod.fst).Nodup := by decide

section

variable {Kind : Value → Prop} {known : FaultTable} {key : String} {v : Value}

theorem none_kindFault {expected : String} : Faults.None (KindFault Kind expected v) ↔ Kind v := by
  constructor
  · intro h
    by_contra hkind
    exact h _ _ (.intro hkind)
  · rintro h p e ⟨hkind⟩
    exact hkind h

theorem first_kindFault (expected : String) (h : ¬ Kind v) :
    Faults.First (KindFault Kind expected v) (.wrongKind v.found expected) := by
  refine ⟨[], .intro h, ?_⟩
  rintro q d ⟨-⟩
  exact .inl ⟨rfl, rfl⟩

theorem keyFault_of_mem (hknown : (known.map Prod.fst).Nodup) {faults : Value → Faults}
    (hkey : (key, faults) ∈ known) : KeyFault known (key, v) = faults v := by
  funext p e
  refine propext ⟨fun h => ?_, .value hkey⟩
  cases h with
  | value hkey' h =>
    obtain ⟨-, rfl⟩ := Prod.mk.inj (List.inj_on_of_nodup_map hknown hkey hkey' rfl)
    exact h
  | unknown h => exact absurd (List.mem_map_of_mem hkey) h

theorem first_keyFault (hkey : key ∉ known.map Prod.fst) :
    Faults.First (KeyFault known (key, v)) (.unknownKey key (known.map Prod.fst)) := by
  refine ⟨[], .unknown hkey, ?_⟩
  rintro q d (⟨hmem, -⟩ | -)
  · exact absurd (List.mem_map_of_mem hmem) hkey
  · exact .inl ⟨rfl, rfl⟩

theorem none_keyFault (hknown : (known.map Prod.fst).Nodup) :
    Faults.None (KeyFault known (key, v)) ↔ ∃ faults, (key, faults) ∈ known ∧ (faults v).None := by
  constructor
  · intro h
    by_cases hkey : key ∈ known.map Prod.fst
    · obtain ⟨⟨_, faults⟩, hmem, rfl⟩ := List.mem_map.1 hkey
      exact ⟨faults, hmem, keyFault_of_mem hknown hmem ▸ h⟩
    · exact absurd h (first_keyFault hkey).not_none
  · rintro ⟨faults, hmem, h⟩
    rwa [keyFault_of_mem hknown hmem]

theorem none_stringsFault : Faults.None (StringsFault v) ↔ IsStrings v := by
  constructor
  · intro h
    obtain ⟨items, rfl⟩ := none_kindFault.1 fun p e hfault => h p e (.kind hfault)
    have hitems := Faults.none_within.1 fun p e hfault => h p e (.item hfault)
    exact ⟨items, rfl, fun x hx => none_kindFault.1 (hitems x hx)⟩
  · rintro ⟨items, rfl, hitems⟩ p e (hfault | hfault)
    · exact none_kindFault.2 ⟨items, rfl⟩ p e hfault
    · exact Faults.none_within.2 (fun x hx => none_kindFault.2 (hitems x hx)) p e hfault

theorem none_booleansFault : Faults.None (BooleansFault v) ↔ FitsBooleans v := by
  have hentry : ∀ key v, Faults.None (KeyFault booleanFaults (key, v)) ↔
      key = "enabled" ∧ IsBool v ∨ key = "columns" ∧ IsStrings v := by
    intro key v
    rw [none_keyFault nodup_booleanFaults]
    simp [booleanFaults, or_and_right, exists_or, none_kindFault, none_stringsFault]
  constructor
  · intro h
    have hkind := none_kindFault.1 fun p e hfault => h p e (.kind hfault)
    cases v with
    | table entries =>
      intro key v hmem
      have hentries := Faults.none_within.1 fun p e hfault => h p e (.entry hfault)
      exact (hentry key v).1 (hentries (key, v) hmem)
    | array items =>
      refine ⟨fun v hv => none_kindFault.1 fun p e hfault => h _ _ (.item (i := 0) rfl hv hfault), ?_⟩
      exact fun v hv => none_stringsFault.1 fun p e hfault => h _ _ (.item (i := 1) rfl hv hfault)
    | dateTime d => exact h _ _ .dateTime
    | string _ | integer _ | float _ | boolean _ => exact hkind
  · intro h p e hfault
    cases hfault with
    | kind hfault =>
      refine none_kindFault.2 ?_ p e hfault
      cases v with
      | table _ | array _ => trivial
      | string _ | integer _ | float _ | boolean _ | dateTime _ => exact h.elim
    | entry hfault =>
      exact Faults.none_within.2 (fun a ha => (hentry a.1 a.2).2 (h a.1 a.2 ha)) p e hfault
    | @item items i _ _ _ p _ hi hv hfault =>
      match i, hi with
      | 0, hi =>
        cases hi
        exact none_kindFault.2 (h.1 _ hv) p e hfault
      | 1, hi =>
        cases hi
        exact none_stringsFault.2 (h.2 _ hv) p e hfault
    | dateTime => exact h

theorem none_documentFault {entries : List (String × Value)} :
    (DocumentFault entries).None ↔ Fits entries := by
  have hentry : ∀ key v, Faults.None (KeyFault documentFaults (key, v)) ↔
      key = "dialect" ∧ IsString v ∨ key = "booleans" ∧ FitsBooleans v := by
    intro key v
    rw [none_keyFault nodup_documentFaults]
    simp [documentFaults, or_and_right, exists_or, none_kindFault, none_booleansFault]
  refine Faults.none_within.trans ⟨fun h key v hmem => (hentry key v).1 (h _ hmem), ?_⟩
  exact fun h a ha => (hentry a.1 a.2).2 (h a.1 a.2 ha)

end

/-! ## Readers -/

theorem reports_decodeString (v : Value) :
    Reports (decodeString v) (KindFault IsString "a string" v) := by
  cases v
  case string s => exact none_kindFault.2 ⟨s, rfl⟩
  all_goals exact first_kindFault _ (by rintro ⟨_, ⟨⟩⟩)

theorem reports_decodeBool (v : Value) :
    Reports (decodeBool v) (KindFault IsBool "a boolean" v) := by
  cases v
  case boolean b => exact none_kindFault.2 ⟨b, rfl⟩
  all_goals exact first_kindFault _ (by rintro ⟨_, ⟨⟩⟩)

theorem stringsFault_array (items : List Value) :
    StringsFault (.array items) = Faults.within (KindFault IsString "a string") items := by
  funext p e
  refine propext ⟨?_, .item⟩
  rintro (⟨⟨h⟩⟩ | h)
  · exact absurd ⟨items, rfl⟩ h
  · exact h

theorem first_stringsFault {v : Value} (h : ¬ IsArray v) :
    Faults.First (StringsFault v) (.wrongKind v.found "a sequence") := by
  obtain ⟨p, hp, hfirst⟩ := first_kindFault "a sequence" h
  refine ⟨p, .kind hp, ?_⟩
  rintro q d (hfault | hfault)
  · exact hfirst q d hfault
  · exact absurd ⟨_, rfl⟩ h

theorem reports_decodeStrings (v : Value) : Reports (decodeStrings v) (StringsFault v) := by
  cases v
  case array items =>
    rw [stringsFault_array]
    exact reports_mapM reports_decodeString items
  all_goals exact first_stringsFault (by rintro ⟨_, ⟨⟩⟩)

/-- An entry is read by its key. -/
theorem reports_of_key {known : FaultTable} (hknown : (known.map Prod.fst).Nodup) {key : String}
    {v : Value} {x : Except ConfigError α}
    (hvalue : ∀ faults, (key, faults) ∈ known → Reports x (faults v))
    (hkey : key ∉ known.map Prod.fst → x = .error (.unknownKey key (known.map Prod.fst))) :
    Reports x (KeyFault known (key, v)) := by
  by_cases hmem : key ∈ known.map Prod.fst
  · obtain ⟨⟨_, faults⟩, hfaults, rfl⟩ := List.mem_map.1 hmem
    rw [keyFault_of_mem hknown hfaults]
    exact hvalue faults hfaults
  · rw [hkey hmem]
    exact first_keyFault hmem

theorem reports_decodeBooleanEntry (b : BooleanSettings) (key : String) (v : Value) :
    Reports (decodeBooleanEntry b key v) (KeyFault booleanFaults (key, v)) := by
  refine reports_of_key nodup_booleanFaults (fun faults hmem => ?_) fun hkey => ?_
  · simp only [booleanFaults, List.mem_cons, Prod.mk.injEq, List.not_mem_nil, or_false] at hmem
    rcases hmem with ⟨rfl, rfl⟩ | ⟨rfl, rfl⟩
    · exact (reports_decodeBool v).map _
    · exact (reports_decodeStrings v).map _
  · unfold decodeBooleanEntry
    split
    · exact absurd (by decide) hkey
    · exact absurd (by decide) hkey
    · rfl

theorem booleansFault_table (entries : List (String × Value)) :
    BooleansFault (.table entries) = Faults.within (KeyFault booleanFaults) entries := by
  funext p e
  refine propext ⟨?_, .entry⟩
  rintro (⟨⟨h⟩⟩ | h)
  · exact absurd trivial h
  · exact h

theorem booleansFault_array (items : List Value) : BooleansFault (.array items) =
    Faults.within id (List.zipWith (fun known v => known.2 v) booleanFaults items) := by
  funext p e
  refine propext ⟨?_, ?_⟩
  · rintro (⟨⟨h⟩⟩ | - | ⟨hi, hv, h⟩)
    · exact absurd trivial h
    · exact ⟨_, by rw [List.getElem?_zipWith, hi, hv], h⟩
  · intro h
    match p, h with
    | i :: p, ⟨faults, hi, h⟩ =>
      obtain ⟨⟨key, known⟩, v, hknown, hv, rfl⟩ := List.getElem?_zipWith_eq_some.1 hi
      exact .item hknown hv h

theorem first_booleansFault_dateTime (d : String) :
    Faults.First (BooleansFault (.dateTime d)) (.unknownKey dateTimeKey ["enabled", "columns"]) := by
  refine ⟨[], .dateTime, ?_⟩
  rintro q d (⟨⟨h⟩⟩ | - | - | -)
  · exact absurd trivial h
  · exact .inl ⟨rfl, rfl⟩

theorem first_booleansFault {v : Value} (h : ¬ IsCompound v) :
    Faults.First (BooleansFault v) (.wrongKind v.found "struct BooleanConfig") := by
  obtain ⟨p, hp, hfirst⟩ := first_kindFault "struct BooleanConfig" h
  refine ⟨p, .kind hp, ?_⟩
  rintro q d (hfault | - | - | -)
  · exact hfirst q d hfault
  all_goals exact absurd trivial h

theorem reports_decodeBooleans (v : Value) : Reports (decodeBooleans v) (BooleansFault v) := by
  cases v with
  | table entries =>
    rw [booleansFault_table]
    exact reports_foldlM (fun b a => reports_decodeBooleanEntry b a.1 a.2) entries {}
  | array items =>
    rw [booleansFault_array]
    match items with
    | [] => exact Faults.within_nil id
    | [enabled] =>
      change Reports _ (Faults.within id [KindFault IsBool "a boolean" enabled])
      rw [Faults.within_cons]
      exact (reports_decodeBool enabled).bind (fun _ => Faults.within_nil id) fun _ h => h
    | enabled :: columns :: _ =>
      change Reports _ (Faults.within id [KindFault IsBool "a boolean" enabled, StringsFault columns])
      rw [Faults.within_cons, Faults.within_cons]
      refine (reports_decodeBool enabled).bind (fun _ => ?_) fun _ h => h
      exact (reports_decodeStrings columns).bind (fun _ => Faults.within_nil id) fun _ h => h
  | dateTime d => exact first_booleansFault_dateTime d
  | string _ | integer _ | float _ | boolean _ => exact first_booleansFault id

theorem reports_decodeEntry (c : Config) (key : String) (v : Value) :
    Reports (decodeEntry c key v) (KeyFault documentFaults (key, v)) := by
  refine reports_of_key nodup_documentFaults (fun faults hmem => ?_) fun hkey => ?_
  · simp only [documentFaults, List.mem_cons, Prod.mk.injEq, List.not_mem_nil, or_false] at hmem
    rcases hmem with ⟨rfl, rfl⟩ | ⟨rfl, rfl⟩
    · exact (reports_decodeString v).map _
    · exact (reports_decodeBooleans v).map _
  · unfold decodeEntry
    split
    · exact absurd (by decide) hkey
    · exact absurd (by decide) hkey
    · rfl

/-- Decoding fails with the first fault of the document. -/
theorem reports_decode (entries : List (String × Value)) :
    Reports (decode entries) (DocumentFault entries) :=
  reports_foldlM (fun c a => reports_decodeEntry c a.1 a.2) entries {}

/-! ## What a document gives -/

/-- A field is taken from what is given for it, and has its default if nothing is. -/
structure Takes (Given : Value → Prop) (Means : Value → α → Prop) (fallback field : α) : Prop where
  present {v : Value} (h : Given v) : Means v field
  absent (h : ∀ v, ¬ Given v) : field = fallback

/-- The settings for booleans, from what is given for each of them. -/
structure GivesBooleans (Enabled Columns : Value → Prop) (b : BooleanSettings) : Prop where
  enabled : Takes Enabled (fun v x => v = .boolean x) true b.enabled
  columns : Takes Columns (fun v names => v = .array (names.map .string))
    Query.BooleanColumns.defaultNames b.columns

/-- The settings for booleans that a table or an array gives. -/
def MeansBooleans : Value → BooleanSettings → Prop
  | .table entries, b =>
    GivesBooleans (fun v => ("enabled", v) ∈ entries) (fun v => ("columns", v) ∈ entries) b
  | .array items, b => GivesBooleans (fun v => items[0]? = some v) (fun v => items[1]? = some v) b
  | _, _ => False

/-- The configuration that a document gives. -/
structure Describes (entries : List (String × Value)) (c : Config) : Prop where
  dialect : Takes (fun v => ("dialect", v) ∈ entries) (fun v d => ∃ s, v = .string s ∧ d = some s)
    none c.dialect
  booleans : Takes (fun v => ("booleans", v) ∈ entries) MeansBooleans {} c.booleans

section

variable {Given : Value → Prop} {Means : Value → α → Prop} {fallback x y : α}

theorem Takes.unique (hmeans : ∀ v x y, Means v x → Means v y → x = y)
    (hx : Takes Given Means fallback x) (hy : Takes Given Means fallback y) : x = y := by
  by_cases hgiven : ∃ v, Given v
  · obtain ⟨v, hv⟩ := hgiven
    exact hmeans v x y (hx.present hv) (hy.present hv)
  · have habsent := not_exists.1 hgiven
    rw [hx.absent habsent, hy.absent habsent]

theorem Takes.of_some {v : Value} (h : Means v x) :
    Takes (fun w => some v = some w) Means fallback x :=
  ⟨fun hw => Option.some.inj hw ▸ h, fun habsent => absurd rfl (habsent v)⟩

theorem Takes.of_none : Takes (fun w => none = some w) Means x x :=
  ⟨fun hw => absurd hw (Option.some_ne_none _).symm, fun _ => rfl⟩

end

theorem GivesBooleans.unique {Enabled Columns : Value → Prop} {b b' : BooleanSettings}
    (h : GivesBooleans Enabled Columns b) (h' : GivesBooleans Enabled Columns b') : b = b' := by
  have henabled : b.enabled = b'.enabled := by
    refine h.enabled.unique ?_ h'.enabled
    rintro _ x y rfl heq
    exact Value.boolean.inj heq
  have hcolumns : b.columns = b'.columns := by
    refine h.columns.unique ?_ h'.columns
    rintro _ x y rfl heq
    exact List.map_injective_iff.2 (fun _ _ => Value.string.inj) (Value.array.inj heq)
  cases b
  cases b'
  rw [BooleanSettings.mk.injEq]
  exact ⟨henabled, hcolumns⟩

theorem Describes.unique {entries : List (String × Value)} {c c' : Config}
    (h : Describes entries c) (h' : Describes entries c') : c = c' := by
  have hdialect : c.dialect = c'.dialect := by
    refine h.dialect.unique ?_ h'.dialect
    rintro _ x y ⟨s, rfl, rfl⟩ ⟨s', heq, rfl⟩
    rw [Value.string.inj heq]
  have hbooleans : c.booleans = c'.booleans := by
    refine h.booleans.unique (fun v b b' hb hb' => ?_) h'.booleans
    cases v with
    | table _ | array _ => exact GivesBooleans.unique hb hb'
    | string _ | integer _ | float _ | boolean _ | dateTime _ => exact hb.elim
  cases c
  cases c'
  rw [Config.mk.injEq]
  exact ⟨hdialect, hbooleans⟩

theorem bind_eq_ok {ε : Type} {x : Except ε α} {k : α → Except ε β} {b : β}
    (h : (x >>= k) = .ok b) : ∃ a, x = .ok a ∧ k a = .ok b := by
  cases x with
  | ok a => exact ⟨a, rfl, h⟩
  | error e => cases h

/-- A field that its own key sets and all others keep is taken from the entry with the key. -/
theorem foldlM_takes {ε : Type} (step : σ → String → Value → Except ε σ) (field : σ → α)
    {key : String} {Means : Value → α → Prop}
    (hset : ∀ s v s', step s key v = .ok s' → Means v (field s'))
    (hkeep : ∀ s k v s', k ≠ key → step s k v = .ok s' → field s' = field s)
    {entries : List (String × Value)} (hkeys : (entries.map Prod.fst).Nodup) {s s' : σ}
    (h : entries.foldlM (fun s a => step s a.1 a.2) s = .ok s') :
    Takes (fun v => (key, v) ∈ entries) Means (field s) (field s') := by
  induction entries generalizing s with
  | nil =>
    cases h
    exact ⟨fun hmem => absurd hmem List.not_mem_nil, fun _ => rfl⟩
  | cons a entries ih =>
    obtain ⟨k, v⟩ := a
    rw [List.map_cons, List.nodup_cons] at hkeys
    rw [List.foldlM_cons] at h
    obtain ⟨next, hnext, hrest⟩ := bind_eq_ok h
    have htakes := ih hkeys.2 hrest
    by_cases hk : k = key
    · -- the key does not come again, so what is set here stays
      subst hk
      have hnot : ∀ w, (k, w) ∉ entries := fun w hw =>
        hkeys.1 (List.mem_map.2 ⟨(k, w), hw, rfl⟩)
      refine ⟨fun {w} hmem => ?_, fun habsent => absurd List.mem_cons_self (habsent v)⟩
      rcases List.mem_cons.1 hmem with heq | hmem
      · obtain ⟨-, rfl⟩ := Prod.mk.inj heq
        rw [htakes.absent hnot]
        exact hset s w next hnext
      · exact absurd hmem (hnot w)
    · refine ⟨fun {w} hmem => ?_, fun habsent => ?_⟩
      · rcases List.mem_cons.1 hmem with heq | hmem
        · exact absurd (Prod.mk.inj heq).1.symm hk
        · exact htakes.present hmem
      · rw [htakes.absent fun w hw => habsent w (List.mem_cons_of_mem _ hw)]
        exact hkeep s k v next hk hnext

theorem decodeString_eq_ok {v : Value} {s : String} (h : decodeString v = .ok s) :
    v = .string s := by
  cases v
  case string t => rw [Except.ok.inj h]
  all_goals cases h

theorem decodeBool_eq_ok {v : Value} {b : Bool} (h : decodeBool v = .ok b) : v = .boolean b := by
  cases v
  case boolean b => rw [Except.ok.inj h]
  all_goals cases h

theorem decodeStrings_eq_ok {v : Value} {names : List String} (h : decodeStrings v = .ok names) :
    v = .array (names.map .string) := by
  cases v
  case array items =>
    change items.mapM decodeString = .ok names at h
    congr 1
    induction items generalizing names with
    | nil =>
      cases h
      rfl
    | cons item items ih =>
      rw [List.mapM_cons] at h
      obtain ⟨name, hname, h⟩ := bind_eq_ok h
      obtain ⟨rest, hrest, h⟩ := bind_eq_ok h
      cases h
      rw [List.map_cons, decodeString_eq_ok hname, ih hrest]
  all_goals cases h

theorem decodeBooleanEntry_eq_ok {b b' : BooleanSettings} {key : String} {v : Value}
    (h : decodeBooleanEntry b key v = .ok b') :
    (key = "enabled" ∧ ∃ x, v = .boolean x ∧ b' = { b with enabled := x }) ∨
      key = "columns" ∧ ∃ names, v = .array (names.map .string) ∧
        b' = { b with columns := names } := by
  unfold decodeBooleanEntry at h
  split at h
  · obtain ⟨x, hx, h⟩ := bind_eq_ok h
    exact .inl ⟨rfl, x, decodeBool_eq_ok hx, (Except.ok.inj h).symm⟩
  · obtain ⟨names, hnames, h⟩ := bind_eq_ok h
    exact .inr ⟨rfl, names, decodeStrings_eq_ok hnames, (Except.ok.inj h).symm⟩
  · cases h

theorem decodeEntry_eq_ok {c c' : Config} {key : String} {v : Value}
    (h : decodeEntry c key v = .ok c') :
    (key = "dialect" ∧ ∃ s, v = .string s ∧ c' = { c with dialect := some s }) ∨
      key = "booleans" ∧ ∃ b, decodeBooleans v = .ok b ∧ c' = { c with booleans := b } := by
  unfold decodeEntry at h
  split at h
  · obtain ⟨s, hs, h⟩ := bind_eq_ok h
    exact .inl ⟨rfl, s, decodeString_eq_ok hs, (Except.ok.inj h).symm⟩
  · obtain ⟨b, hb, h⟩ := bind_eq_ok h
    exact .inr ⟨rfl, b, hb, (Except.ok.inj h).symm⟩
  · cases h

theorem meansBooleans_of_decodeBooleans {v : Value} (hkeys : v.KeysDistinct) {b : BooleanSettings}
    (h : decodeBooleans v = .ok b) : MeansBooleans v b := by
  cases v with
  | table entries =>
    obtain ⟨⟨⟩⟩ | - | ⟨hnodup, -⟩ := hkeys
    constructor
    · refine foldlM_takes decodeBooleanEntry BooleanSettings.enabled ?_ ?_ hnodup h
      · intro b v b' hb
        obtain ⟨-, x, rfl, rfl⟩ | ⟨hkey, -⟩ := decodeBooleanEntry_eq_ok hb
        · rfl
        · exact absurd hkey (by decide)
      · intro b key v b' hne hb
        obtain ⟨hkey, -⟩ | ⟨-, names, -, rfl⟩ := decodeBooleanEntry_eq_ok hb
        · exact absurd hkey hne
        · rfl
    · refine foldlM_takes decodeBooleanEntry BooleanSettings.columns ?_ ?_ hnodup h
      · intro b v b' hb
        obtain ⟨hkey, -⟩ | ⟨-, names, rfl, rfl⟩ := decodeBooleanEntry_eq_ok hb
        · exact absurd hkey (by decide)
        · rfl
      · intro b key v b' hne hb
        obtain ⟨-, x, -, rfl⟩ | ⟨hkey, -⟩ := decodeBooleanEntry_eq_ok hb
        · rfl
        · exact absurd hkey hne
  | array items =>
    match items with
    | [] =>
      cases h
      exact ⟨.of_none, .of_none⟩
    | [first] =>
      obtain ⟨enabled, henabled, h⟩ := bind_eq_ok h
      cases h
      exact ⟨.of_some (decodeBool_eq_ok henabled), .of_none⟩
    | first :: second :: _ =>
      obtain ⟨enabled, henabled, h⟩ := bind_eq_ok h
      obtain ⟨columns, hcolumns, h⟩ := bind_eq_ok h
      cases h
      exact ⟨.of_some (decodeBool_eq_ok henabled), .of_some (decodeStrings_eq_ok hcolumns)⟩
  | string _ | integer _ | float _ | boolean _ | dateTime _ => cases h

theorem describes_of_decode {entries : List (String × Value)}
    (hkeys : (Value.table entries).KeysDistinct) {c : Config} (h : decode entries = .ok c) :
    Describes entries c := by
  obtain ⟨⟨⟩⟩ | - | ⟨hnodup, hvalues⟩ := hkeys
  constructor
  · refine foldlM_takes decodeEntry Config.dialect ?_ ?_ hnodup h
    · intro c v c' hc
      obtain ⟨-, s, rfl, rfl⟩ | ⟨hkey, -⟩ := decodeEntry_eq_ok hc
      · exact ⟨s, rfl, rfl⟩
      · exact absurd hkey (by decide)
    · intro c key v c' hne hc
      obtain ⟨hkey, -⟩ | ⟨-, b, -, rfl⟩ := decodeEntry_eq_ok hc
      · exact absurd hkey hne
      · rfl
  · have htakes : Takes (fun v => ("booleans", v) ∈ entries) (fun v b => decodeBooleans v = .ok b)
        {} c.booleans := by
      refine foldlM_takes decodeEntry Config.booleans ?_ ?_ hnodup h
      · intro c v c' hc
        obtain ⟨hkey, -⟩ | ⟨-, b, hb, rfl⟩ := decodeEntry_eq_ok hc
        · exact absurd hkey (by decide)
        · exact hb
      · intro c key v c' hne hc
        obtain ⟨-, s, -, rfl⟩ | ⟨hkey, -⟩ := decodeEntry_eq_ok hc
        · rfl
        · exact absurd hkey hne
    refine ⟨fun hv => ?_, htakes.absent⟩
    exact meansBooleans_of_decodeBooleans (hvalues _ hv) (htakes.present hv)

/-- A document is decoded to the configuration that it gives. -/
theorem decode_eq_ok_iff {entries : List (String × Value)}
    (hkeys : (Value.table entries).KeysDistinct) {c : Config} :
    decode entries = .ok c ↔ Fits entries ∧ Describes entries c := by
  have hfits := (reports_decode entries).exists_ok_iff.trans none_documentFault
  constructor
  · intro h
    exact ⟨hfits.1 ⟨c, h⟩, describes_of_decode hkeys h⟩
  · rintro ⟨hentries, hc⟩
    obtain ⟨c', hc'⟩ := hfits.2 hentries
    rw [hc', (describes_of_decode hkeys hc').unique hc]

/-! ## The order of keys -/

/-- The entries of a table stand in another order. -/
inductive Reordered : Value → Value → Prop where
  | same (v : Value) : Reordered v v
  | table {entries entries' : List (String × Value)} (h : entries.Perm entries') :
      Reordered (.table entries) (.table entries')

/-- The entries of a document, and those of the tables in it, stand in another order. -/
structure Rearranged (entries entries' : List (String × Value)) : Prop where
  keys : (entries.map Prod.fst).Perm (entries'.map Prod.fst)
  values {key : String} {v v' : Value} (h : (key, v) ∈ entries) (h' : (key, v') ∈ entries') :
    Reordered v v'

theorem Reordered.symm {v v' : Value} (h : Reordered v v') : Reordered v' v := by
  cases h with
  | same => exact .same v
  | table h => exact .table h.symm

section

variable {entries entries' : List (String × Value)}

theorem Rearranged.symm (h : Rearranged entries entries') : Rearranged entries' entries :=
  ⟨h.keys.symm, fun hv hv' => (h.values hv' hv).symm⟩

theorem Rearranged.exists_mem (h : Rearranged entries entries') {key : String} {v : Value}
    (hv : (key, v) ∈ entries) : ∃ v', (key, v') ∈ entries' ∧ Reordered v v' := by
  obtain ⟨⟨_, v'⟩, hv', rfl⟩ := List.mem_map.1 (h.keys.mem_iff.1 (List.mem_map_of_mem hv))
  exact ⟨v', hv', h.values hv hv'⟩

theorem Reordered.keysDistinct {v v' : Value} (h : Reordered v v') (hv : v.KeysDistinct) :
    v'.KeysDistinct := by
  cases h with
  | same => exact hv
  | table h =>
    obtain ⟨⟨⟩⟩ | - | ⟨hnodup, hvalues⟩ := hv
    exact .table ((h.map Prod.fst).nodup_iff.1 hnodup) fun e he => hvalues e (h.mem_iff.2 he)

theorem Rearranged.keysDistinct (h : Rearranged entries entries')
    (hkeys : (Value.table entries).KeysDistinct) : (Value.table entries').KeysDistinct := by
  obtain ⟨⟨⟩⟩ | - | ⟨hnodup, hvalues⟩ := hkeys
  refine .table (h.keys.nodup_iff.1 hnodup) fun e he => ?_
  obtain ⟨v, hv, hre⟩ := h.symm.exists_mem he
  exact hre.symm.keysDistinct (hvalues _ hv)

theorem Reordered.eq_string {v : Value} {s : String} (h : Reordered (.string s) v) :
    v = .string s := by
  cases h
  rfl

theorem Reordered.fitsBooleans {v v' : Value} (h : Reordered v v') (hv : FitsBooleans v) :
    FitsBooleans v' := by
  cases h with
  | same => exact hv
  | table h => exact fun key w hmem => hv key w (h.mem_iff.2 hmem)

theorem Reordered.meansBooleans {v v' : Value} (h : Reordered v v') {b : BooleanSettings}
    (hv : MeansBooleans v b) : MeansBooleans v' b := by
  cases h with
  | same => exact hv
  | table h => simpa only [MeansBooleans, h.mem_iff] using hv

theorem Rearranged.fits (h : Rearranged entries entries') (hfits : Fits entries) :
    Fits entries' := by
  intro key v' hv'
  obtain ⟨v, hv, hre⟩ := h.symm.exists_mem hv'
  rcases hfits key v hv with ⟨hkey, s, rfl⟩ | ⟨hkey, hbooleans⟩
  · exact .inl ⟨hkey, s, hre.symm.eq_string⟩
  · exact .inr ⟨hkey, hre.symm.fitsBooleans hbooleans⟩

theorem Rearranged.takes (h : Rearranged entries entries') {key : String}
    {Means : Value → α → Prop} {fallback x : α}
    (hmeans : ∀ v v', Reordered v v' → Means v x → Means v' x)
    (hx : Takes (fun v => (key, v) ∈ entries) Means fallback x) :
    Takes (fun v => (key, v) ∈ entries') Means fallback x := by
  constructor
  · intro v' hv'
    obtain ⟨v, hv, hre⟩ := h.symm.exists_mem hv'
    exact hmeans v v' hre.symm (hx.present hv)
  · intro habsent
    refine hx.absent fun v hv => ?_
    obtain ⟨v', hv', -⟩ := h.exists_mem hv
    exact habsent v' hv'

theorem Rearranged.describes (h : Rearranged entries entries') {c : Config}
    (hc : Describes entries c) : Describes entries' c := by
  refine ⟨h.takes ?_ hc.dialect, h.takes ?_ hc.booleans⟩
  · rintro _ v' hre ⟨s, rfl, hs⟩
    exact ⟨s, hre.eq_string, hs⟩
  · exact fun _ _ hre => hre.meansBooleans

theorem Rearranged.decode_eq_ok (h : Rearranged entries entries')
    (hkeys : (Value.table entries).KeysDistinct) {c : Config} (hc : decode entries = .ok c) :
    decode entries' = .ok c := by
  obtain ⟨hfits, hdescribes⟩ := (decode_eq_ok_iff hkeys).1 hc
  exact (decode_eq_ok_iff (h.keysDistinct hkeys)).2 ⟨h.fits hfits, h.describes hdescribes⟩

end

/-- **The keys of a document override the defaults.** No key stands twice in a parsed document. Of
such a document, decoding succeeds exactly if all keys are known and have values of the right kinds.
It gives what is present, and the defaults for what is absent, whatever the order of the keys. It
fails with the first fault of the document. -/
theorem decode_overrides_defaults :
    (∀ text entries, Toml.parse? text = some entries → (Value.table entries).KeysDistinct) ∧
    ∀ entries, (Value.table entries).KeysDistinct →
      ((∃ c, decode entries = .ok c) ↔ Fits entries) ∧
      (∀ c, decode entries = .ok c ↔ Fits entries ∧ Describes entries c) ∧
      (∀ entries', Rearranged entries entries' →
        ∀ c, decode entries = .ok c ↔ decode entries' = .ok c) ∧
      ∀ e, decode entries = .error e ↔ (DocumentFault entries).First e := by
  refine ⟨fun text entries h => Toml.parse?_keysDistinct h, fun entries hkeys => ?_⟩
  have hreports := reports_decode entries
  refine ⟨hreports.exists_ok_iff.trans none_documentFault, fun c => decode_eq_ok_iff hkeys, ?_,
    fun e => hreports.error_iff⟩
  exact fun entries' h c =>
    ⟨h.decode_eq_ok hkeys, h.symm.decode_eq_ok (h.keysDistinct hkeys)⟩

/-- A document with its keys in two orders, and one with two faults: a number among the names of
columns comes before an unknown key. -/
theorem decode_overrides_defaults_nested :
    (Rearranged
        [("booleans", .table [("columns", .array [.string "b_"]), ("enabled", .boolean false)]),
          ("dialect", .string "pg")]
        [("dialect", .string "pg"),
          ("booleans", .table [("enabled", .boolean false), ("columns", .array [.string "b_"])])] ∧
      decode
        [("dialect", .string "pg"),
          ("booleans", .table [("enabled", .boolean false), ("columns", .array [.string "b_"])])] =
        .ok ⟨some "pg", ⟨false, ["b_"]⟩⟩) ∧
    (DocumentFault
        [("booleans", .array [.boolean true, .array [.string "a", .integer 3]]),
          ("mode", .integer 1)]).First (.wrongKind (.integer 3) "a string") := by
  have hcolumns : (Value.array [.string "b_"]).KeysDistinct :=
    .array (by simpa using .scalar trivial)
  have hbooleans : (Value.table
      [("columns", .array [.string "b_"]), ("enabled", .boolean false)]).KeysDistinct :=
    .table (by decide) (by simpa using ⟨hcolumns, .scalar trivial⟩)
  have hnames : (Value.array [.string "a", .integer 3]).KeysDistinct :=
    .array (by simpa using ⟨.scalar trivial, .scalar trivial⟩)
  have hitems : (Value.array [.boolean true, .array [.string "a", .integer 3]]).KeysDistinct :=
    .array (by simpa using ⟨.scalar trivial, hnames⟩)
  have hrearranged : Rearranged
      [("booleans", .table [("columns", .array [.string "b_"]), ("enabled", .boolean false)]),
        ("dialect", .string "pg")]
      [("dialect", .string "pg"),
        ("booleans", .table [("enabled", .boolean false), ("columns", .array [.string "b_"])])] := by
    refine ⟨.swap _ _ [], fun hv hv' => ?_⟩
    simp only [List.mem_cons, Prod.mk.injEq, List.not_mem_nil, or_false] at hv hv'
    obtain ⟨rfl, rfl⟩ | ⟨rfl, rfl⟩ := hv
    · obtain ⟨hkey, -⟩ | ⟨-, rfl⟩ := hv'
      · exact absurd hkey (by decide)
      · exact .table (.swap _ _ [])
    · obtain ⟨-, rfl⟩ | ⟨hkey, -⟩ := hv'
      · exact .same _
      · exact absurd hkey (by decide)
  obtain ⟨-, h⟩ := decode_overrides_defaults
  refine ⟨⟨hrearranged, ?_⟩, ?_⟩
  · exact ((h _ (.table (by decide) (by simpa using ⟨hbooleans, .scalar trivial⟩))).2.2.1 _
      hrearranged _).1 rfl
  · exact ((h _ (.table (by decide) (by simpa using ⟨hitems, .scalar trivial⟩))).2.2.2 _).1 rfl

end SqlDialect.Config
