import Mathlib.Data.List.Nodup
import Nominal.Toml.Document

/-!
No key stands twice in a table of a TOML document, at any depth. A statement that would give a key a second
time is refused, and so is an inline table with such pairs; what is kept are tables in which keys are
distinct. The invariant is followed through the tables under construction, and through the readers down to
the values that they read.
-/

namespace Nominal.Toml

section
variable {α : Type} {entries : List (String × α)} {key : String}

theorem lookup_none_iff : entries.lookup key = none ↔ key ∉ entries.map (·.1) := by
  rw [List.lookup_eq_none_iff,List.mem_map,not_exists]
  constructor
  · rintro none_here entry ⟨member,rfl⟩
    simpa using none_here entry member
  · intro none_here entry member
    have differs : entry.1 ≠ key := fun same => none_here entry ⟨member,same⟩
    simpa using differs.symm

theorem lookup_mem {a : α} (found : entries.lookup key = some a) : (key,a) ∈ entries := by
  obtain ⟨before,after,split,_⟩ := List.lookup_eq_some_iff.mp found
  simp [split]

end

namespace Value

/-- The values that an array or a table holds. -/
def parts : Value → List Value
  | array items => items
  | table entries => entries.map (·.2)
  | _ => []

/-- The property holds of the value and of everything in it. -/
inductive Everywhere (Holds : Value → Prop) : Value → Prop
  | intro {v : Value} : Holds v → (∀ part ∈ v.parts, Everywhere Holds part) → Everywhere Holds v

theorem everywhere_iff {Holds : Value → Prop} {v : Value} :
    v.Everywhere Holds ↔ Holds v ∧ ∀ part ∈ v.parts, part.Everywhere Holds := by
  constructor
  · rintro ⟨here,parts⟩
    exact ⟨here,parts⟩
  · rintro ⟨here,parts⟩
    exact .intro here parts

theorem everywhere_plain {Holds : Value → Prop} {v : Value} (plain : v.parts = []) :
    v.Everywhere Holds ↔ Holds v := by
  rw [everywhere_iff]
  simp [plain]

theorem everywhere_array_iff {Holds : Value → Prop} {items : List Value} :
    (array items).Everywhere Holds ↔ Holds (.array items) ∧ ∀ item ∈ items, item.Everywhere Holds :=
  everywhere_iff

theorem everywhere_table_iff {Holds : Value → Prop} {entries : List (String × Value)} :
    (table entries).Everywhere Holds ↔
      Holds (.table entries) ∧ ∀ entry ∈ entries, entry.2.Everywhere Holds := by
  rw [everywhere_iff,parts,List.forall_mem_map]

theorem everywhere_part {Holds : Value → Prop} {v part : Value} (everywhere : v.Everywhere Holds)
    (inside : part ∈ v.parts) : part.Everywhere Holds :=
  (everywhere_iff.mp everywhere).2 part inside

theorem everywhere_entry {Holds : Value → Prop} {entries : List (String × Value)} {key : String} {v : Value}
    (everywhere : (table entries).Everywhere Holds) (here : (key,v) ∈ entries) : v.Everywhere Holds :=
  everywhere_part everywhere (List.mem_map_of_mem here)

/-- If the value is a table, none of its keys stands twice. -/
def DistinctKeys : Value → Prop
  | table entries => (entries.map (·.1)).Nodup
  | _ => True

/-- No key stands twice in a table of the value. -/
def Tidy (v : Value) : Prop := v.Everywhere DistinctKeys

theorem tidy_plain {v : Value} (plain : v.parts = []) (distinct : v.DistinctKeys) : v.Tidy :=
  (everywhere_plain plain).mpr distinct

theorem tidy_array_iff {items : List Value} : (array items).Tidy ↔ ∀ item ∈ items, item.Tidy := by
  rw [Tidy,everywhere_array_iff]
  exact and_iff_right trivial

theorem tidy_table_iff {entries : List (String × Value)} :
    (table entries).Tidy ↔ (entries.map (·.1)).Nodup ∧ ∀ entry ∈ entries, entry.2.Tidy :=
  everywhere_table_iff

end Value

/-! ### Tables under construction -/

/-- No key stands twice in a table under construction. -/
inductive Node.Tidy : Node → Prop
  | value {v : Value} : v.Tidy → Tidy (.value v)
  | table {origin : Origin} {es : Entries} : (es.map (·.1)).Nodup → (∀ entry ∈ es, Tidy entry.2) →
      Tidy (.table origin es)
  | tables {items : List Entries} : (∀ es ∈ items, (es.map (·.1)).Nodup) →
      (∀ es ∈ items, ∀ entry ∈ es, Tidy entry.2) → Tidy (.tables items)

namespace Entries

/-- The keys are distinct, and so are those inside. -/
structure Tidy (es : Entries) : Prop where
  distinct : (es.map (·.1)).Nodup
  nodes : ∀ entry ∈ es, entry.2.Tidy

section
variable {es : Entries} {key : String} {n : Node}

theorem tidy_nil : Tidy [] := ⟨List.nodup_nil,by simp⟩

theorem tidy_append (tidy : es.Tidy) (fresh : key ∉ es.map (·.1)) (node : n.Tidy) :
    Tidy (es ++ [(key,n)]) := by
  constructor
  · rw [List.map_append,List.map_singleton,← List.concat_eq_append]
    exact List.Nodup.concat fresh tidy.distinct
  · intro entry member
    rcases List.mem_append.mp member with earlier | last
    · exact tidy.nodes entry earlier
    · rw [List.mem_singleton.mp last]
      exact node

theorem tidy_replace (tidy : es.Tidy) (node : n.Tidy) : (es.replace key n).Tidy := by
  have keys : (es.replace key n).map (·.1) = es.map (·.1) := by
    rw [replace,List.map_map]
    apply List.map_congr_left
    rintro ⟨k,old⟩ _
    by_cases same : k = key
    · simp [same]
    · simp [same]
  refine ⟨keys ▸ tidy.distinct,?_⟩
  intro entry member
  obtain ⟨⟨k,old⟩,here,rfl⟩ := List.mem_map.mp member
  by_cases same : k = key
  · simpa [same] using node
  · simpa [same] using tidy.nodes (k,old) here

theorem tidy_remove (tidy : es.Tidy) : (es.remove key).Tidy := by
  have sublist : (es.remove key).Sublist es := List.filter_sublist
  exact ⟨tidy.distinct.sublist (sublist.map _),fun entry member => tidy.nodes entry (sublist.subset member)⟩

theorem removed_fresh (es : Entries) (key : String) : key ∉ (es.remove key).map (·.1) := by
  simp [remove]

theorem tidy_lookup (tidy : es.Tidy) (found : es.lookup key = some n) : n.Tidy :=
  tidy.nodes (key,n) (lookup_mem found)

theorem tidy_of_table {origin : Origin} (tidy : Node.Tidy (.table origin es)) : es.Tidy := by
  cases tidy with
  | table distinct nodes => exact ⟨distinct,nodes⟩

theorem table_of_tidy (tidy : es.Tidy) (origin : Origin) : Node.Tidy (.table origin es) :=
  .table tidy.distinct tidy.nodes

theorem tidy_tables_iff {items : List Entries} : Node.Tidy (.tables items) ↔ ∀ es ∈ items, Tidy es := by
  constructor
  · rintro (_ | _ | ⟨distinct,nodes⟩) es member
    exact ⟨distinct es member,nodes es member⟩
  · intro each
    exact .tables (fun es member => (each es member).distinct) fun es member => (each es member).nodes

/-- A change at the end of a path that keeps keys distinct there keeps them distinct everywhere. -/
theorem within_tidy {via : Origin} {visit : Origin → Entries → Option Entries}
    (visits : ∀ origin es result, Tidy es → visit origin es = some result → Tidy result)
    {path : List String} {origin : Origin} {es result : Entries} (tidy : es.Tidy)
    (done : within via visit path origin es = some result) : result.Tidy := by
  induction path generalizing origin es result with
  | nil => exact visits origin es result tidy done
  | cons key path ih =>
    rw [within] at done
    split at done
    · rename_i absent
      obtain ⟨inner,changed,same⟩ := Option.bind_eq_some_iff.mp done
      cases same
      exact tidy_append tidy (lookup_none_iff.mp absent) (table_of_tidy (ih tidy_nil changed) via)
    · cases done
    · rename_i old found
      split at done
      · cases done
      · obtain ⟨inner,changed,same⟩ := Option.bind_eq_some_iff.mp done
        cases same
        have before := tidy_of_table (tidy_lookup tidy found)
        exact tidy_replace tidy (table_of_tidy (ih before changed) _)
    · rename_i items found
      obtain ⟨last,here,rest⟩ := Option.bind_eq_some_iff.mp done
      obtain ⟨inner,changed,same⟩ := Option.bind_eq_some_iff.mp rest
      cases same
      have each := tidy_tables_iff.mp (tidy_lookup tidy found)
      have before : Tidy last := each last (List.mem_of_getLast? here)
      refine tidy_replace tidy (tidy_tables_iff.mpr ?_)
      intro es member
      rcases List.mem_append.mp member with earlier | changedLast
      · exact each es (List.dropLast_subset items earlier)
      · rw [List.mem_singleton.mp changedLast]
        exact ih before changed

theorem assign_tidy {path : List String} {v : Value} {origin : Origin} {result : Entries} (value : v.Tidy)
    (tidy : es.Tidy) (done : assign path key v origin es = some result) : result.Tidy := by
  refine within_tidy ?_ tidy done
  intro origin es result before placed
  split at placed
  · cases placed
  · rename_i free
    cases placed
    have fresh : es.lookup key = none := by
      cases found : es.lookup key with
      | none => rfl
      | some n => simp [found] at free
    exact tidy_append before (lookup_none_iff.mp fresh) (.value value)

theorem openTable_tidy {path : List String} {origin : Origin} {result : Entries} (tidy : es.Tidy)
    (done : openTable path key origin es = some result) : result.Tidy := by
  refine within_tidy ?_ tidy done
  intro origin es result before opened
  split at opened
  · rename_i absent
    cases opened
    exact tidy_append before (lookup_none_iff.mp absent) (table_of_tidy tidy_nil .declared)
  · rename_i inner found
    cases opened
    have old := tidy_of_table (tidy_lookup before found)
    exact tidy_append (tidy_remove before) (removed_fresh es key) (table_of_tidy old .declared)
  · cases opened

theorem openElement_tidy {path : List String} {origin : Origin} {result : Entries} (tidy : es.Tidy)
    (done : openElement path key origin es = some result) : result.Tidy := by
  refine within_tidy ?_ tidy done
  intro origin es result before opened
  split at opened
  · rename_i absent
    cases opened
    exact tidy_append before (lookup_none_iff.mp absent) (tidy_tables_iff.mpr (by simpa using tidy_nil))
  · rename_i items found
    cases opened
    have each := tidy_tables_iff.mp (tidy_lookup before found)
    refine tidy_replace before (tidy_tables_iff.mpr ?_)
    rw [List.forall_mem_append]
    exact ⟨each,by simpa using tidy_nil⟩
  · cases opened

end

end Entries

theorem finishEntries_eq (es : Entries) :
    Node.finishEntries es = es.map fun entry => (entry.1,entry.2.finish) := by
  induction es with
  | nil => rw [Node.finishEntries,List.map_nil]
  | cons first rest ih => rw [Node.finishEntries,ih,List.map_cons]

theorem finishItems_eq (items : List Entries) :
    Node.finishItems items = items.map fun es => .table (Node.finishEntries es) := by
  induction items with
  | nil => rw [Node.finishItems,List.map_nil]
  | cons first rest ih => rw [Node.finishItems,ih,List.map_cons]

theorem tidy_finishTable {es : Entries} (distinct : (es.map (·.1)).Nodup)
    (nodes : ∀ entry ∈ es, entry.2.finish.Tidy) : (Value.table (Node.finishEntries es)).Tidy := by
  rw [finishEntries_eq,Value.tidy_table_iff,List.map_map,List.forall_mem_map]
  exact ⟨distinct,nodes⟩

theorem tidy_finish {n : Node} (tidy : n.Tidy) : n.finish.Tidy := by
  induction tidy with
  | value held => rwa [Node.finish]
  | table distinct _ ih =>
    rw [Node.finish]
    exact tidy_finishTable distinct ih
  | tables distinct _ ih =>
    rw [Node.finish,finishItems_eq,Value.tidy_array_iff,List.forall_mem_map]
    intro es member
    exact tidy_finishTable (distinct es member) (ih es member)

theorem tidy_finishEntries {es : Entries} (tidy : es.Tidy) : (Value.table (Node.finishEntries es)).Tidy :=
  tidy_finishTable tidy.distinct fun entry member => tidy_finish (tidy.nodes entry member)

/-! ### Readers -/

namespace Reader

/-- Whatever the reader reads has the property. -/
def Yields {α : Type} (p : Reader α) (Holds : α → Prop) : Prop :=
  ∀ cs a rest, p cs = some (a,rest) → Holds a

section
variable {α β : Type} {p q : Reader α} {f : α → Reader β} {Holds : α → Prop} {After : β → Prop}

theorem yields_pure {a : α} (holds : Holds a) : Yields (pure a) Holds := by
  rintro cs b rest ⟨⟩
  exact holds

theorem yields_bind (first : p.Yields Holds) (next : ∀ a, Holds a → (f a).Yields After) :
    Yields (p >>= f) After := by
  intro cs b rest read
  obtain ⟨⟨a,middle⟩,readFirst,readNext⟩ := Option.bind_eq_some_iff.mp read
  exact next a (first cs a middle readFirst) middle b rest readNext

/-- What is read first may be anything. -/
theorem yields_after (next : ∀ a, (f a).Yields After) : Yields (p >>= f) After := by
  have anything : p.Yields fun _ => True := fun _ _ _ _ => trivial
  exact yields_bind anything fun a _ => next a

theorem yields_orElse (left : p.Yields Holds) (right : q.Yields Holds) : Yields (p <|> q) Holds := by
  intro cs a rest read
  cases readLeft : p cs with
  | some result =>
    have same : some result = some (a,rest) := by
      rw [← read]
      change _ = (p cs <|> q cs)
      rw [readLeft]
      rfl
    exact left cs a rest (readLeft.trans same)
  | none =>
    have same : q cs = some (a,rest) := by
      rw [← read]
      change _ = (p cs <|> q cs)
      rw [readLeft]
      rfl
    exact right cs a rest same

theorem yields_map {g : α → β} (reads : p.Yields fun a => After (g a)) : Yields (g <$> p) After := by
  rw [← bind_pure_comp]
  exact yields_bind reads fun a holds => yields_pure holds

theorem yields_optional (reads : p.Yields Holds) : Yields (optional p) fun found => ∀ a ∈ found, Holds a := by
  refine yields_orElse (yields_map ?_) (yields_pure (by simp))
  intro cs a rest read
  simpa using reads cs a rest read

theorem yields_repeated (reads : p.Yields Holds) (fuel : Nat) :
    Yields (repeated p fuel) fun found => ∀ a ∈ found, Holds a := by
  induction fuel with
  | zero =>
    rintro cs found rest ⟨⟩
    simp
  | succ fuel ih =>
    intro cs found rest read
    rw [repeated] at read
    dsimp only at read
    split at read
    · cases read
      simp
    · rename_i a middle readFirst
      have first := reads cs a middle readFirst
      split at read
      · rename_i others last readOthers
        cases read
        exact List.forall_mem_cons.mpr ⟨first,ih middle others _ readOthers⟩
      · cases read
        simpa using first

theorem yields_many (reads : p.Yields Holds) : Yields (many p) fun found => ∀ a ∈ found, Holds a :=
  fun cs => yields_repeated reads cs.length cs

end

end Reader

/-- What a statement assigns has distinct keys. -/
def Statement.Tidy : Statement → Prop
  | .assign _ _ v => v.Tidy
  | _ => True

/-- What holds at the start and is kept by every change that is made holds at the end. -/
theorem foldlM_some_induction {α β : Type} {Holds : α → Prop} {change : α → β → Option α} {xs : List β}
    (keeps : ∀ a b, ∀ x ∈ xs, Holds a → change a x = some b → Holds b) {a b : α} (start : Holds a)
    (run : xs.foldlM change a = some b) : Holds b := by
  induction xs generalizing a with
  | nil =>
    cases run
    exact start
  | cons x xs ih =>
    rw [List.foldlM_cons] at run
    obtain ⟨next,first,others⟩ := Option.bind_eq_some_iff.mp run
    have held : Holds next := keeps a next x List.mem_cons_self start first
    exact ih (fun a b y later => keeps a b y (List.mem_cons_of_mem x later)) held others

namespace Document

open Reader

section
variable {item : Reader Value}

theorem items_yields (reads : item.Yields Value.Tidy) (fuel : Nat) :
    (items item fuel).Yields fun found => ∀ v ∈ found, v.Tidy := by
  induction fuel with
  | zero => rintro cs found rest ⟨⟩
  | succ fuel ih =>
    refine yields_after fun _ => yields_after fun closed => ?_
    split
    · exact yields_pure (by simp)
    · refine yields_bind reads fun v tidy => yields_after fun _ => yields_after fun closed => ?_
      split
      · exact yields_pure (by simpa using tidy)
      · refine yields_after fun _ => yields_bind ih fun rest others => yields_pure ?_
        exact List.forall_mem_cons.mpr ⟨tidy,others⟩

theorem array_yields (reads : item.Yields Value.Tidy) : (array item).Yields Value.Tidy := by
  refine yields_after fun _ => yields_bind ?_ fun found tidy => yields_pure (Value.tidy_array_iff.mpr tidy)
  exact fun cs => items_yields reads (cs.length + 1) cs

theorem pair_yields (reads : item.Yields Value.Tidy) : (pair item).Yields fun p => p.2.2.Tidy := by
  refine yields_after fun ⟨path,last⟩ => yields_after fun _ => yields_after fun _ => ?_
  exact yields_bind reads fun v tidy => yields_after fun _ => yields_pure tidy

theorem inlineEntries_tidy {pairs : List (List String × String × Value)}
    (tidy : ∀ p ∈ pairs, p.2.2.Tidy) {entries : List (String × Value)}
    (made : inlineEntries pairs = some entries) : (Value.table entries).Tidy := by
  obtain ⟨es,folded,same⟩ := Option.bind_eq_some_iff.mp made
  cases same
  have built : Entries.Tidy es := by
    refine foldlM_some_induction ?_ Entries.tidy_nil folded
    intro before after p member held assigned
    exact Entries.assign_tidy (tidy p member) held assigned
  exact tidy_finishEntries built

/-- The end of an inline table, where its pairs are put together. -/
theorem inlineEnd_yields {pairs : List (List String × String × Value)} (tidy : ∀ p ∈ pairs, p.2.2.Tidy) :
    Yields (do
      spaces
      char '\x7d'
      let es : List (String × Value) ← fun cs => (inlineEntries pairs).map (·,cs)
      return .table es) Value.Tidy := by
  refine yields_after fun _ => yields_after fun _ => yields_bind ?_ fun entries held => yields_pure held
  intro cs entries rest made
  obtain ⟨_,built,same⟩ := Option.map_eq_some_iff.mp made
  cases same
  exact inlineEntries_tidy tidy built

theorem inlineTable_yields (reads : item.Yields Value.Tidy) : (inlineTable item).Yields Value.Tidy := by
  refine yields_after fun _ => yields_bind (yields_optional (pair_yields reads)) fun first tidyFirst => ?_
  cases first with
  | none => exact inlineEnd_yields (by simp)
  | some p =>
    refine yields_bind (yields_many (yields_after fun _ => pair_yields reads)) fun more tidyMore => ?_
    exact inlineEnd_yields (List.forall_mem_cons.mpr ⟨tidyFirst p rfl,tidyMore⟩)

end

theorem numeral_yields : numeral.Yields Value.Tidy := by
  refine yields_orElse (yields_after fun _ => ?_) (yields_orElse (yields_after fun _ => ?_)
    (yields_after fun _ => ?_))
  all_goals exact yields_pure (Value.tidy_plain rfl trivial)

theorem valueOf_yields {item : Option (Reader Value)} (reads : ∀ p ∈ item, Yields p Value.Tidy) :
    (valueOf item).Yields Value.Tidy := by
  have given : Yields (fun cs => item.map (·,cs)) fun p : Reader Value => p.Yields Value.Tidy := by
    intro cs p rest here
    obtain ⟨_,held,same⟩ := Option.map_eq_some_iff.mp here
    cases same
    exact reads _ held
  intro cs v rest read
  unfold valueOf at read
  split at read
  -- An array, an inline table and a numeral; the other forms have no parts.
  case h_3 => exact yields_bind given (fun _ => array_yields) _ v rest read
  case h_4 => exact yields_bind given (fun _ => inlineTable_yields) _ v rest read
  case h_7 => exact numeral_yields cs v rest read
  all_goals
    refine yields_after ?_ _ v rest read
    intro
    exact yields_pure (Value.tidy_plain rfl trivial)

theorem value_yields (depth : Nat) : (value depth).Yields Value.Tidy := by
  induction depth with
  | zero => exact valueOf_yields (by simp)
  | succ depth ih => exact valueOf_yields (by simpa using ih)

theorem statement_yields : statement.Yields Statement.Tidy := by
  refine yields_orElse ?_ (yields_orElse ?_ ?_)
  · refine yields_after fun _ => yields_after fun _ => yields_after fun ⟨path,last⟩ => ?_
    exact yields_after fun _ => yields_after fun _ => yields_after fun _ => yields_pure trivial
  · refine yields_after fun _ => yields_after fun ⟨path,last⟩ => ?_
    exact yields_after fun _ => yields_after fun _ => yields_pure trivial
  · refine yields_bind (pair_yields (value_yields depthLimit)) fun ⟨path,last,v⟩ tidy => ?_
    exact yields_after fun _ => yields_pure tidy

theorem line_yields : line.Yields fun found => ∀ s ∈ found, s.Tidy := by
  refine yields_bind (yields_orElse ?_ (yields_orElse ?_ (yields_map ?_))) fun found tidy =>
    yields_after fun _ => yields_pure tidy
  · exact yields_after fun _ => yields_pure (by simp)
  · exact yields_after fun _ => yields_after fun _ => yields_pure (by simp)
  · intro cs s rest read
    simpa using statement_yields cs s rest read

theorem statements_yields : statements.Yields fun found => ∀ s ∈ found, s.Tidy := by
  refine yields_after fun _ => yields_after fun _ => yields_bind (yields_many line_yields) fun lines tidy => ?_
  refine yields_after fun _ => yields_pure ?_
  intro s member
  obtain ⟨found,listed,here⟩ := List.mem_filterMap.mp member
  exact tidy found listed s here

end Document

theorem add_tidy {d next : Draft} {s : Statement} (tidy : d.root.Tidy) (statement : s.Tidy)
    (added : d.add s = some next) : next.root.Tidy := by
  cases s with
  | assign path key v =>
    obtain ⟨root,changed,same⟩ := Option.bind_eq_some_iff.mp added
    cases same
    exact Entries.within_tidy (fun _ _ _ before => Entries.assign_tidy statement before) tidy changed
  | table path key =>
    obtain ⟨root,opened,same⟩ := Option.bind_eq_some_iff.mp added
    cases same
    exact Entries.openTable_tidy tidy opened
  | element path key =>
    obtain ⟨root,opened,same⟩ := Option.bind_eq_some_iff.mp added
    cases same
    exact Entries.openElement_tidy tidy opened

/-- No key stands twice in a table of a document. -/
theorem parse_tidy {text : String} {entries : List (String × Value)} (parsed : parse? text = some entries) :
    (Value.table entries).Tidy := by
  obtain ⟨⟨found,rest⟩,read,built⟩ := Option.bind_eq_some_iff.mp parsed
  obtain ⟨draft,added,same⟩ := Option.bind_eq_some_iff.mp built
  cases same
  have statements := Document.statements_yields _ found rest read
  have keeps : ∀ before after : Draft, ∀ s ∈ found, before.root.Tidy → before.add s = some after →
      after.root.Tidy :=
    fun _ _ s member held => add_tidy held (statements s member)
  exact tidy_finishEntries (foldlM_some_induction keeps Entries.tidy_nil added)

end Nominal.Toml
