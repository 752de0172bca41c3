import Mathlib.Data.List.Nodup
import SqlDialect.Toml.Parser

/-!
# No key stands twice in a table

A document is built by its statements one after the other: each sets a value under a key, or opens a
table. Whatever they do, the keys of every table stay distinct, those of inline tables and of tables
in arrays included.

* `Value.KeysDistinct`, `Node.KeysDistinct` — no table has a key twice, in a value and in a document
  while it is built.
* `Node.alterAt?_keysDistinct` — a change at the end of a path keeps this, if the change does.
* `Node.setKey?_keysDistinct`, `Node.openTable?_keysDistinct`, `Node.openItem?_keysDistinct` — so
  each kind of statement keeps it.
* `value?_keysDistinct` — a value is read with distinct keys.
* `parse?_keysDistinct` — so is a document.
-/

namespace SqlDialect.Scan

variable {α β : Type}

/-- What is read by repeated steps is read by one of them. -/
theorem exists_step_of_mem_many {step : Step α} {s : List Char} {a : α}
    (h : a ∈ (many step s).1) : ∃ s' rest, step s' = some (a, rest) := by
  have hup : ∀ n s, a ∈ (manyUpTo step n s).1 → ∃ s' rest, step s' = some (a, rest) := by
    intro n
    induction n with
    | zero => intro s h; cases h
    | succ n ih =>
      intro s h
      rw [manyUpTo] at h
      split at h
      · cases h
      · rename_i b rest hstep
        rcases List.mem_cons.1 h with rfl | h
        · exact ⟨s, rest, hstep⟩
        · exact ih rest h
  exact hup _ s h

theorem exists_step_of_mem_separated {between : Step β} {step : Step α} {s : List Char} {a : α}
    (h : a ∈ (separated between step s).1) : ∃ s' rest, step s' = some (a, rest) := by
  unfold separated at h
  split at h
  · cases h
  · rename_i b rest hstep
    rcases List.mem_cons.1 h with rfl | h
    · exact ⟨s, rest, hstep⟩
    · obtain ⟨s', rest', hafter⟩ := exists_step_of_mem_many h
      obtain ⟨⟨_, s''⟩, -, hread⟩ := Option.bind_eq_some_iff.1 hafter
      exact ⟨s'', rest', hread⟩

end SqlDialect.Scan

namespace SqlDialect.Toml

open Scan

/-! ## Values and documents without a key that stands twice -/

/-- The value is neither an array nor a table. -/
def Value.IsScalar : Value → Prop
  | array _ | table _ => False
  | string _ | integer _ | float _ | boolean _ | dateTime _ => True

/-- No table in the value has a key twice. -/
inductive Value.KeysDistinct : Value → Prop where
  | scalar {v : Value} (h : v.IsScalar) : KeysDistinct v
  | array {items : List Value} (h : ∀ v ∈ items, KeysDistinct v) : KeysDistinct (.array items)
  | table {entries : List (String × Value)} (hkeys : (entries.map Prod.fst).Nodup)
      (h : ∀ e ∈ entries, KeysDistinct e.2) : KeysDistinct (.table entries)

namespace Node

/-- No table in the part of a document has a key twice. -/
inductive KeysDistinct : Node → Prop where
  | value {v : Value} (h : v.KeysDistinct) : KeysDistinct (.value v)
  | table {origin : Origin} {entries : List (String × Node)} (hkeys : (entries.map Prod.fst).Nodup)
      (h : ∀ e ∈ entries, KeysDistinct e.2) : KeysDistinct (.table origin entries)
  | tables {items : List Node} (h : ∀ n ∈ items, KeysDistinct n) : KeysDistinct (.tables items)

theorem keysDistinct_empty (origin : Origin) : (table origin []).KeysDistinct :=
  .table List.nodup_nil (by simp)

theorem entryValues_eq_map (entries : List (String × Node)) :
    entryValues entries = entries.map fun e => (e.1, toValue e.2) := by
  induction entries with
  | nil => rfl
  | cons e entries ih => rw [entryValues, ih]; rfl

theorem itemValues_eq_map (items : List Node) : itemValues items = items.map toValue := by
  induction items with
  | nil => rfl
  | cons n items ih => rw [itemValues, ih]; rfl

theorem KeysDistinct.toValue {n : Node} (h : n.KeysDistinct) : n.toValue.KeysDistinct := by
  induction h with
  | value h => exact h
  | table hkeys _ ih =>
    rw [Node.toValue, entryValues_eq_map]
    refine .table (by rwa [List.map_map]) fun e he => ?_
    obtain ⟨d, hd, rfl⟩ := List.mem_map.1 he
    exact ih d hd
  | tables _ ih =>
    rw [Node.toValue, itemValues_eq_map]
    refine .array fun v hv => ?_
    obtain ⟨n, hn, rfl⟩ := List.mem_map.1 hv
    exact ih n hn

/-! ## Entries -/

theorem mem_of_lookup {key : String} {n : Node} {entries : List (String × Node)}
    (h : entries.lookup key = some n) : (key, n) ∈ entries := by
  obtain ⟨front, back, rfl, -⟩ := List.lookup_eq_some_iff.1 h
  simp

theorem mem_put {key : String} {node : Node} {entries : List (String × Node)} {e : String × Node}
    (h : e ∈ put key node entries) : e = (key, node) ∨ e ∈ entries := by
  induction entries with
  | nil => exact .inl (List.mem_singleton.1 h)
  | cons d entries ih =>
    rw [put] at h
    split at h
    · rename_i hkey
      subst hkey
      exact (List.mem_cons.1 h).imp_right (List.mem_cons_of_mem d)
    · rcases List.mem_cons.1 h with rfl | h
      · exact .inr List.mem_cons_self
      · exact (ih h).imp_right (List.mem_cons_of_mem d)

theorem nodup_put {key : String} {node : Node} {entries : List (String × Node)}
    (h : (entries.map Prod.fst).Nodup) : ((put key node entries).map Prod.fst).Nodup := by
  induction entries with
  | nil => exact List.nodup_singleton key
  | cons d entries ih =>
    rw [List.map_cons, List.nodup_cons] at h
    rw [put]
    split
    · exact List.nodup_cons.2 h
    · rename_i hne
      refine List.nodup_cons.2 ⟨fun hmem => ?_, ih h.2⟩
      obtain ⟨e, he, heq⟩ := List.mem_map.1 hmem
      rcases mem_put he with rfl | he
      · exact hne heq.symm
      · exact h.1 (List.mem_map.2 ⟨e, he, heq⟩)

/-- An entry is put in its place, or at the end. -/
theorem KeysDistinct.put {origin : Origin} {entries : List (String × Node)}
    (h : (Node.table origin entries).KeysDistinct) (key : String) {node : Node}
    (hnode : node.KeysDistinct) : (Node.table origin (put key node entries)).KeysDistinct := by
  obtain - | ⟨hkeys, hentries⟩ | - := h
  refine .table (nodup_put hkeys) fun e he => ?_
  rcases mem_put he with rfl | he
  · exact hnode
  · exact hentries e he

/-- An entry with a new key goes to the end. -/
theorem KeysDistinct.concat {origin origin' : Origin} {entries : List (String × Node)}
    (h : (Node.table origin entries).KeysDistinct) {key : String} (hkey : key ∉ entries.map Prod.fst)
    {node : Node} (hnode : node.KeysDistinct) :
    (Node.table origin' (entries ++ [(key, node)])).KeysDistinct := by
  obtain - | ⟨hkeys, hentries⟩ | - := h
  refine .table ?_ fun e he => ?_
  · rw [List.map_append, List.map_singleton, ← List.concat_eq_append]
    exact hkeys.concat hkey
  · rcases List.mem_append.1 he with he | he
    · exact hentries e he
    · rw [List.mem_singleton.1 he]
      exact hnode

theorem KeysDistinct.of_mem {origin : Origin} {entries : List (String × Node)}
    (h : (Node.table origin entries).KeysDistinct) {e : String × Node} (he : e ∈ entries) :
    e.2.KeysDistinct := by
  obtain - | ⟨-, hentries⟩ | - := h
  exact hentries e he

/-! ## Statements -/

/-- A change at the end of a path keeps keys distinct, if the change itself does. -/
theorem alterAt?_keysDistinct {via : Origin}
    {change : Origin → List (String × Node) → Option Node}
    (hchange : ∀ origin entries node, (table origin entries).KeysDistinct →
      change origin entries = some node → node.KeysDistinct) {path : List String} {node node' : Node}
    (hnode : node.KeysDistinct) (h : alterAt? via change path node = some node') :
    node'.KeysDistinct := by
  induction path generalizing node node' with
  | nil =>
    cases node with
    | table origin entries => exact hchange origin entries node' hnode h
    | value _ | tables _ => cases h
  | cons key path ih =>
    cases node with
    | value _ | tables _ => cases h
    | table origin entries =>
      have hgo : ∀ {child}, child.KeysDistinct → ∀ {out},
          ((alterAt? via change path child).bind fun c => some (table origin (put key c entries))) =
            some out → out.KeysDistinct := by
        intro child hchild out hout
        obtain ⟨c, hc, hput⟩ := Option.bind_eq_some_iff.1 hout
        rw [← Option.some.inj hput]
        exact hnode.put key (ih hchild hc)
      rw [alterAt?] at h
      split at h
      · exact hgo (keysDistinct_empty via) h
      · rename_i es hes
        split at h
        · cases h
        · exact hgo (hnode.of_mem (mem_of_lookup hes)) h
      · rename_i o es _ hes
        exact hgo (hnode.of_mem (mem_of_lookup hes)) h
      · rename_i items hitems
        obtain ⟨last, hlast, h⟩ := Option.bind_eq_some_iff.1 h
        obtain ⟨last', hlast', hput⟩ := Option.bind_eq_some_iff.1 h
        obtain - | - | ⟨hall⟩ := hnode.of_mem (mem_of_lookup hitems)
        rw [← Option.some.inj hput]
        refine hnode.put key (.tables fun n hn => ?_)
        rcases List.mem_append.1 hn with hn | hn
        · exact hall n (List.dropLast_subset items hn)
        · rw [List.mem_singleton.1 hn]
          exact ih (hall last (List.mem_of_getLast? hlast)) hlast'
      · cases h

theorem setKey?_keysDistinct {path : List String} {key : String} {v : Value} {node node' : Node}
    (hnode : node.KeysDistinct) (hv : v.KeysDistinct) (h : node.setKey? path key v = some node') :
    node'.KeysDistinct := by
  refine alterAt?_keysDistinct ?_ hnode h
  intro origin entries node hentries hset
  split at hset
  · cases hset
  · split at hset
    · cases hset
    · rename_i hnone
      rw [← Option.some.inj hset]
      refine hentries.concat (fun hmem => hnone ?_) (.value hv)
      obtain ⟨e, he, rfl⟩ := List.mem_map.1 hmem
      exact List.lookup_isSome_iff.2 ⟨e, he, beq_self_eq_true e.1⟩

/-- The values that statements set have distinct keys. -/
def BodyDistinct (body : List (List String × String × Value)) : Prop :=
  ∀ e ∈ body, e.2.2.KeysDistinct

theorem setKeys?_keysDistinct {body : List (List String × String × Value)}
    (hbody : BodyDistinct body) {node node' : Node} (hnode : node.KeysDistinct)
    (h : node.setKeys? body = some node') : node'.KeysDistinct := by
  induction body generalizing node with
  | nil => exact Option.some.inj h ▸ hnode
  | cons e body ih =>
    obtain ⟨hv, hbody⟩ := List.forall_mem_cons.1 hbody
    obtain ⟨next, hnext, hrest⟩ := Option.bind_eq_some_iff.1 h
    exact ih hbody (setKey?_keysDistinct hnode hv hnext) hrest

theorem openTable?_keysDistinct {path : List String} {key : String}
    {body : List (List String × String × Value)} (hbody : BodyDistinct body) {node node' : Node}
    (hnode : node.KeysDistinct) (h : node.openTable? path key body = some node') :
    node'.KeysDistinct := by
  refine alterAt?_keysDistinct ?_ hnode h
  intro origin entries node hentries hopen
  have hfill : ∀ {start}, (table .defined start).KeysDistinct →
      (((table .defined start).setKeys? body).bind fun filled =>
        some (table origin (entries.filter (fun e => e.1 != key) ++ [(key, filled)]))) = some node →
      node.KeysDistinct := by
    intro start hstart hfill
    obtain ⟨filled, hfilled, hnode⟩ := Option.bind_eq_some_iff.1 hfill
    obtain - | ⟨hkeys, hall⟩ | - := hentries
    have hothers : (table origin (entries.filter fun e => e.1 != key)).KeysDistinct :=
      .table (hkeys.sublist (List.filter_sublist.map _)) fun e he => hall e (List.mem_filter.1 he).1
    rw [← Option.some.inj hnode]
    refine hothers.concat (fun hmem => ?_) (setKeys?_keysDistinct hbody hstart hfilled)
    obtain ⟨e, he, rfl⟩ := List.mem_map.1 hmem
    simpa using (List.mem_filter.1 he).2
  simp only at hopen
  split at hopen
  · exact hfill (keysDistinct_empty .defined) hopen
  · rename_i es hes
    obtain - | ⟨hkeys, hall⟩ | - := hentries.of_mem (mem_of_lookup hes)
    exact hfill (.table hkeys hall) hopen
  · cases hopen

theorem openItem?_keysDistinct {path : List String} {key : String}
    {body : List (List String × String × Value)} (hbody : BodyDistinct body) {node node' : Node}
    (hnode : node.KeysDistinct) (h : node.openItem? path key body = some node') :
    node'.KeysDistinct := by
  refine alterAt?_keysDistinct ?_ hnode h
  intro origin entries node hentries hopen
  have hfill : ∀ {items : List Node}, (∀ n ∈ items, n.KeysDistinct) →
      (((table .defined []).setKeys? body).bind fun filled =>
        some (table origin (put key (tables (items ++ [filled])) entries))) = some node →
      node.KeysDistinct := by
    intro items hitems hfill
    obtain ⟨filled, hfilled, hnode⟩ := Option.bind_eq_some_iff.1 hfill
    rw [← Option.some.inj hnode]
    refine hentries.put key (.tables fun n hn => ?_)
    rcases List.mem_append.1 hn with hn | hn
    · exact hitems n hn
    · rw [List.mem_singleton.1 hn]
      exact setKeys?_keysDistinct hbody (keysDistinct_empty .defined) hfilled
  simp only at hopen
  split at hopen
  · exact hfill (by simp) hopen
  · rename_i items hitems
    obtain - | - | ⟨hall⟩ := hentries.of_mem (mem_of_lookup hitems)
    exact hfill hall hopen
  · cases hopen

end Node

/-! ## Values -/

theorem Value.IsScalar.of_eq {v w : Value} {s rest : List Char} (h : (w, s) = (v, rest))
    (hw : w.IsScalar) : v.IsScalar := (Prod.mk.inj h).1 ▸ hw

/-- The reader gives neither arrays nor tables. -/
def ReadsScalars (value : Step Value) : Prop := ∀ s v rest, value s = some (v, rest) → v.IsScalar

theorem ReadsScalars.or {one other : Step Value} (hone : ReadsScalars one)
    (hother : ReadsScalars other) : ReadsScalars fun s => (one s).or (other s) := by
  intro s v rest h
  rcases Option.or_eq_some_iff.1 h with h | ⟨-, h⟩
  · exact hone s v rest h
  · exact hother s v rest h

theorem dateTime?_readsScalars : ReadsScalars dateTime? := by
  intro s v rest h
  obtain ⟨_, -, h⟩ := Option.bind_eq_some_iff.1 h
  exact .of_eq (Option.some.inj h) trivial

theorem float?_readsScalars : ReadsScalars float? := by
  refine .or ?_ ?_
  · intro s v rest h
    obtain ⟨_, -, h⟩ := Option.bind_eq_some_iff.1 h
    dsimp only at h
    -- with a fraction or without, the rest is the same
    split at h
    all_goals
      obtain ⟨_, -, h⟩ := Option.bind_eq_some_iff.1 h
      obtain ⟨_, -, h⟩ := Option.bind_eq_some_iff.1 h
      split at h
      · cases h
      · exact .of_eq (Option.some.inj h) trivial
  · intro s v rest h
    unfold specialFloat? at h
    dsimp only at h
    split at h
    · exact .of_eq (Option.some.inj h) trivial
    · obtain ⟨_, -, heq⟩ := Option.map_eq_some_iff.1 h
      exact .of_eq heq trivial

theorem basedInteger?_readsScalars (base : Nat) : ReadsScalars (basedInteger? base) := by
  intro s v rest h
  obtain ⟨_, -, h⟩ := Option.bind_eq_some_iff.1 h
  dsimp only at h
  split at h
  · exact .of_eq (Option.some.inj h) trivial
  · cases h

theorem decimalInteger?_readsScalars : ReadsScalars decimalInteger? := by
  intro s v rest h
  unfold decimalInteger? at h
  dsimp only at h
  obtain ⟨_, -, h⟩ := Option.bind_eq_some_iff.1 h
  split at h
  · split at h
    · exact .of_eq (Option.some.inj h) trivial
    · cases h
  · split at h
    · exact .of_eq (Option.some.inj h) trivial
    · cases h

theorem integer?_readsScalars : ReadsScalars integer? := by
  intro s v rest h
  unfold integer? at h
  split at h
  · exact basedInteger?_readsScalars 16 _ v rest h
  · exact basedInteger?_readsScalars 8 _ v rest h
  · exact basedInteger?_readsScalars 2 _ v rest h
  · exact decimalInteger?_readsScalars _ v rest h

theorem boolean?_readsScalars : ReadsScalars boolean? := by
  intro s v rest h
  unfold boolean? at h
  split at h
  · exact .of_eq (Option.some.inj h) trivial
  · obtain ⟨_, -, heq⟩ := Option.map_eq_some_iff.1 h
    exact .of_eq heq trivial

theorem scalar?_readsScalars : ReadsScalars scalar? := by
  refine .or ?_ (dateTime?_readsScalars.or
    (float?_readsScalars.or (integer?_readsScalars.or boolean?_readsScalars)))
  intro s v rest h
  obtain ⟨_, -, heq⟩ := Option.map_eq_some_iff.1 h
  exact .of_eq heq trivial

/-- The reader gives values in which keys are distinct. -/
def ReadsDistinct (value : Step Value) : Prop :=
  ∀ s v rest, value s = some (v, rest) → v.KeysDistinct

theorem keyValue?_keysDistinct {value : Step Value} (hvalue : ReadsDistinct value)
    {s rest : List Char} {e : List String × String × Value}
    (h : keyValue? value s = some (e, rest)) : e.2.2.KeysDistinct := by
  obtain ⟨_, -, h⟩ := Option.bind_eq_some_iff.1 h
  obtain ⟨_, -, h⟩ := Option.bind_eq_some_iff.1 h
  obtain ⟨⟨v, s'⟩, hread, h⟩ := Option.bind_eq_some_iff.1 h
  obtain ⟨rfl, -⟩ := Prod.mk.inj (Option.some.inj h)
  exact hvalue _ v s' hread

theorem arrayItems?_keysDistinct {value : Step Value} (hvalue : ReadsDistinct value)
    {s rest : List Char} {items : List Value} (h : arrayItems? value s = some (items, rest)) :
    (Value.array items).KeysDistinct := by
  unfold arrayItems? at h
  dsimp only at h
  obtain ⟨_, -, h⟩ := Option.bind_eq_some_iff.1 h
  obtain ⟨rfl, -⟩ := Prod.mk.inj (Option.some.inj h)
  refine .array fun v hv => ?_
  obtain ⟨s', rest', hread⟩ := exists_step_of_mem_separated hv
  obtain ⟨⟨w, s''⟩, hitem, heq⟩ := Option.map_eq_some_iff.1 hread
  obtain ⟨rfl, -⟩ := Prod.mk.inj heq
  exact hvalue _ w s'' hitem

theorem inlineTable?_keysDistinct {value : Step Value} (hvalue : ReadsDistinct value)
    {s rest : List Char} {v : Value} (h : inlineTable? value s = some (v, rest)) :
    v.KeysDistinct := by
  unfold inlineTable? at h
  dsimp only at h
  obtain ⟨_, -, h⟩ := Option.bind_eq_some_iff.1 h
  obtain ⟨node, hnode, h⟩ := Option.bind_eq_some_iff.1 h
  obtain ⟨rfl, -⟩ := Prod.mk.inj (Option.some.inj h)
  refine (Node.setKeys?_keysDistinct (fun e he => ?_) (Node.keysDistinct_empty _) hnode).toValue
  obtain ⟨s', rest', hread⟩ := exists_step_of_mem_separated he
  obtain ⟨⟨e', s''⟩, hitem, heq⟩ := Option.map_eq_some_iff.1 hread
  obtain ⟨rfl, -⟩ := Prod.mk.inj heq
  exact keyValue?_keysDistinct hvalue hitem

/-- A value is read with distinct keys, whatever is nested in it. -/
theorem value?_keysDistinct (depth : Nat) : ReadsDistinct (value? depth) := by
  induction depth with
  | zero =>
    intro s v rest h
    exact .scalar (scalar?_readsScalars s v rest h)
  | succ depth ih =>
    intro s v rest h
    unfold value? at h
    split at h
    · obtain ⟨⟨items, s'⟩, hitems, heq⟩ := Option.map_eq_some_iff.1 h
      obtain ⟨rfl, -⟩ := Prod.mk.inj heq
      exact arrayItems?_keysDistinct ih hitems
    · exact inlineTable?_keysDistinct ih h
    · exact .scalar (scalar?_readsScalars s v rest h)

/-! ## Documents -/

theorem header?_ne_entry {s rest : List Char} {path : List String} {key : String} {v : Value} :
    header? s ≠ some (.entry path key v, rest) := by
  intro h
  unfold header? at h
  split at h
  · obtain ⟨_, -, h⟩ := Option.bind_eq_some_iff.1 h
    obtain ⟨_, -, h⟩ := Option.bind_eq_some_iff.1 h
    cases h
  · obtain ⟨_, -, h⟩ := Option.bind_eq_some_iff.1 h
    obtain ⟨_, -, h⟩ := Option.bind_eq_some_iff.1 h
    cases h
  · cases h

theorem statement?_keysDistinct {s rest : List Char} {path : List String} {key : String} {v : Value}
    (h : statement? s = some (.entry path key v, rest)) : v.KeysDistinct := by
  unfold statement? at h
  dsimp only at h
  split at h
  · cases h
  · split at h
    · obtain ⟨_, -, heq⟩ := Option.map_eq_some_iff.1 h
      cases heq
    · split at h
      · obtain ⟨⟨header, s₁⟩, hheader, h⟩ := Option.bind_eq_some_iff.1 h
        obtain ⟨_, -, h⟩ := Option.bind_eq_some_iff.1 h
        obtain ⟨rfl, -⟩ := Prod.mk.inj (Option.some.inj h)
        exact absurd hheader header?_ne_entry
      · obtain ⟨⟨e, s₁⟩, hread, h⟩ := Option.bind_eq_some_iff.1 h
        obtain ⟨_, -, h⟩ := Option.bind_eq_some_iff.1 h
        cases h
        exact keyValue?_keysDistinct (value?_keysDistinct depthLimit) hread

/-- The statements set values in which keys are distinct. -/
def StatementsDistinct (statements : List Statement) : Prop :=
  ∀ path key v, .entry path key v ∈ statements → v.KeysDistinct

theorem bodyDistinct_entriesHere {statements : List Statement}
    (h : StatementsDistinct statements) : Node.BodyDistinct (entriesHere statements).1 := by
  have hempty : Node.BodyDistinct [] := fun _ he => absurd he List.not_mem_nil
  induction statements with
  | nil => exact hempty
  | cons statement rest ih =>
    have hrest := ih fun path key v hmem => h path key v (List.mem_cons_of_mem _ hmem)
    cases statement with
    | blank => exact hrest
    | entry path key v => exact List.forall_mem_cons.2 ⟨h path key v List.mem_cons_self, hrest⟩
    | table _ _ | item _ _ => exact hempty

theorem build?_keysDistinct {statements : List Statement} (h : StatementsDistinct statements)
    {node node' : Node} (hnode : node.KeysDistinct) (hbuild : build? node statements = some node') :
    node'.KeysDistinct := by
  induction statements generalizing node with
  | nil => exact Option.some.inj hbuild ▸ hnode
  | cons statement rest ih =>
    have hrest : StatementsDistinct rest := fun path key v hmem =>
      h path key v (List.mem_cons_of_mem _ hmem)
    cases statement with
    | blank => exact ih hrest hnode hbuild
    | entry _ _ _ => exact ih hrest hnode hbuild
    | table path key =>
      obtain ⟨next, hnext, hbuild⟩ := Option.bind_eq_some_iff.1 hbuild
      exact ih hrest
        (Node.openTable?_keysDistinct (bodyDistinct_entriesHere hrest) hnode hnext) hbuild
    | item path key =>
      obtain ⟨next, hnext, hbuild⟩ := Option.bind_eq_some_iff.1 hbuild
      exact ih hrest
        (Node.openItem?_keysDistinct (bodyDistinct_entriesHere hrest) hnode hnext) hbuild

/-- **No key stands twice in a table of a document.** -/
theorem parse?_keysDistinct {text : String} {entries : List (String × Value)}
    (h : parse? text = some entries) : (Value.table entries).KeysDistinct := by
  have hstatements : StatementsDistinct (many statement? (skipMark text.toList)).1 := by
    intro path key v hmem
    obtain ⟨s, rest, hread⟩ := exists_step_of_mem_many hmem
    exact statement?_keysDistinct hread
  unfold parse? at h
  dsimp only at h
  split at h
  · cases h
  · obtain ⟨root, hroot, h⟩ := Option.bind_eq_some_iff.1 h
    obtain ⟨document, hdocument, h⟩ := Option.bind_eq_some_iff.1 h
    have hdistinct := build?_keysDistinct hstatements (Node.setKeys?_keysDistinct
      (bodyDistinct_entriesHere hstatements) (Node.keysDistinct_empty .defined) hroot) hdocument
    split at h
    · rw [← Option.some.inj h]
      exact hdistinct.toValue
    · cases h

end SqlDialect.Toml
