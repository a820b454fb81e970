import Mathlib.Data.String.Basic
import Nominal.Log.Filter
import Nominal.Proofs.Failure

/-!
The effective log filter. Its directives come from the configured level and from the environment: both
together if both can be read, the ones that can be read if one cannot, and `info` for all targets if neither
can. Of several directives for one target the last counts, and the environment comes after the level, so it
has its way where both speak of a target. The configured level is the name of a level, which makes one
directive for all targets, or else it is read as directives.
-/

namespace Nominal.Log

namespace Directive

/-! ### The order in which directives are asked -/

theorem precedes_iff (a b : Directive) :
    a.precedes b ↔ ∃ s, a.target = some s ∧ ∀ t, b.target = some t →
      t.utf8ByteSize < s.utf8ByteSize ∨ s.utf8ByteSize = t.utf8ByteSize ∧ t < s := by
  obtain ⟨first,_⟩ := a
  obtain ⟨second,_⟩ := b
  cases first with
  | none => simp [precedes]
  | some s =>
    cases second with
    | none => simp [precedes]
    | some t => simp [precedes]

theorem precedes_trans {a b c : Directive} (first : a.precedes b) (second : b.precedes c) : a.precedes c := by
  obtain ⟨s,here,above⟩ := (precedes_iff a b).mp first
  obtain ⟨t,there,below⟩ := (precedes_iff b c).mp second
  refine (precedes_iff a c).mpr ⟨s,here,?_⟩
  intro u last
  rcases above t there with longer | ⟨same,later⟩
  · rcases below u last with shorter | ⟨equal,_⟩
    · exact .inl (by omega)
    · exact .inl (by omega)
  · rcases below u last with shorter | ⟨equal,later_still⟩
    · exact .inl (by omega)
    · exact .inr ⟨same.trans equal,later_still.trans later⟩

/-- Of two directives for different targets one is asked before the other. -/
theorem precedes_or {a b : Directive} (differ : a.target ≠ b.target) : a.precedes b ∨ b.precedes a := by
  rw [precedes_iff,precedes_iff]
  cases first : a.target with
  | none =>
    cases second : b.target with
    | none => exact absurd (first.trans second.symm) differ
    | some t => exact .inr ⟨t,rfl,by simp⟩
  | some s =>
    cases second : b.target with
    | none => exact .inl ⟨s,rfl,by simp⟩
    | some t =>
      have unequal : s ≠ t := fun same => differ (by rw [first,second,same])
      rcases Nat.lt_trichotomy s.utf8ByteSize t.utf8ByteSize with shorter | same | longer
      · exact .inr ⟨t,rfl,by rintro _ ⟨⟩; exact .inl shorter⟩
      · rcases lt_or_gt_of_ne unequal with later | earlier
        · exact .inr ⟨t,rfl,by rintro _ ⟨⟩; exact .inr ⟨same.symm,later⟩⟩
        · exact .inl ⟨s,rfl,by rintro _ ⟨⟩; exact .inr ⟨same,earlier⟩⟩
      · exact .inl ⟨s,rfl,by rintro _ ⟨⟩; exact .inl longer⟩

/-! ### The last directive for a target -/

/-- The directive is the last of the list for its target. -/
def LastIn (d : Directive) (ds : List Directive) : Prop :=
  ∃ before after, ds = before ++ d :: after ∧ ∀ other ∈ after, other.target ≠ d.target

theorem not_lastIn_nil (d : Directive) : ¬ d.LastIn [] := by
  rintro ⟨before,after,split,_⟩
  simp at split

theorem lastIn_mem {d : Directive} {ds : List Directive} (last : d.LastIn ds) : d ∈ ds := by
  obtain ⟨before,after,rfl,_⟩ := last
  simp

/-- What comes later counts, and what came before counts for the other targets. -/
theorem lastIn_append (d : Directive) (xs ys : List Directive) :
    d.LastIn (xs ++ ys) ↔ d.LastIn ys ∨ (d.LastIn xs ∧ ∀ other ∈ ys, other.target ≠ d.target) := by
  constructor
  · rintro ⟨before,after,split,none_later⟩
    rcases List.append_eq_append_iff.mp split with ⟨more,rfl,rfl⟩ | ⟨more,rfl,rest⟩
    · exact .inl ⟨more,after,rfl,none_later⟩
    · cases more with
      | nil => exact .inl ⟨[],after,rest.symm,none_later⟩
      | cons first more =>
        obtain ⟨rfl,rfl⟩ := List.cons.inj rest
        refine .inr ⟨⟨before,more,rfl,?_⟩,?_⟩
        · exact fun other later => none_later other (List.mem_append_left _ later)
        · exact fun other later => none_later other (List.mem_append_right _ later)
  · rintro (⟨before,after,rfl,none_later⟩ | ⟨⟨before,after,rfl,none_later⟩,others⟩)
    · exact ⟨xs ++ before,after,by simp,none_later⟩
    · refine ⟨before,after ++ ys,by simp,?_⟩
      intro other later
      rcases List.mem_append.mp later with here | there
      · exact none_later other here
      · exact others other there

theorem lastIn_singleton (d x : Directive) : d.LastIn [x] ↔ d = x := by
  constructor
  · intro last
    exact List.mem_singleton.mp (lastIn_mem last)
  · rintro rfl
    exact ⟨[],[],rfl,by simp⟩

end Directive

namespace Filter

/-! ### The filter of some directives -/

/-- The filter of the directives, given one after another: it asks the last one for each target, in the fixed
    order, and keeps the most verbose threshold of all. -/
structure Of (ds : List Directive) (f : Filter) : Prop where
  directives : ∀ d, d ∈ f.directives ↔ d.LastIn ds
  ordered : f.directives.Pairwise fun a b => a.precedes b
  maximum : ∀ d ∈ ds, d.threshold.verbosity ≤ f.maximum.verbosity
  reached : f.maximum = .off ∨ ∃ d ∈ ds, d.threshold = f.maximum

theorem mem_place (d x : Directive) (ds : List Directive) : x ∈ place d ds ↔ x = d ∨ x ∈ ds := by
  induction ds with
  | nil => simp [place]
  | cons other rest ih =>
    rw [place]
    split
    · simp
    · simp [ih,or_left_comm]

theorem place_ordered {d : Directive} {ds : List Directive} (ordered : ds.Pairwise fun a b => a.precedes b)
    (new : ∀ other ∈ ds, other.target ≠ d.target) : (place d ds).Pairwise fun a b => a.precedes b := by
  induction ds with
  | nil => simp [place]
  | cons other rest ih =>
    obtain ⟨first,later⟩ := List.pairwise_cons.mp ordered
    rw [place]
    split
    · rename_i before
      refine List.pairwise_cons.mpr ⟨?_,ordered⟩
      intro x member
      rcases List.mem_cons.mp member with rfl | further
      · exact before
      · exact Directive.precedes_trans before (first x further)
    · rename_i behind
      have ahead : other.precedes d :=
        (Directive.precedes_or (new other List.mem_cons_self)).resolve_right behind
      refine List.pairwise_cons.mpr ⟨?_,ih later fun x member => new x (List.mem_cons_of_mem _ member)⟩
      intro x member
      rcases (mem_place d x rest).mp member with rfl | further
      · exact ahead
      · exact first x further

theorem of_empty : empty.Of [] :=
  ⟨by simp [empty,Directive.not_lastIn_nil],by simp [empty],by simp,.inl rfl⟩

/-- One more directive. -/
theorem of_add {f : Filter} {ds : List Directive} (holds : f.Of ds) (d : Directive) : (f.add d).Of (ds ++ [d]) := by
  refine ⟨?_,?_,?_,?_⟩
  · intro x
    have apart : (x.target ≠ d.target) ↔ ∀ other ∈ [d], other.target ≠ x.target := by
      simp [ne_comm]
    rw [Directive.lastIn_append,Directive.lastIn_singleton,add,mem_place,List.mem_filter,holds.directives,
      decide_eq_true_iff,apart]
  · apply place_ordered
    · exact holds.ordered.filter _
    · simp
  · intro x member
    have bound : f.maximum.verbosity ≤ (f.add d).maximum.verbosity ∧
        d.threshold.verbosity ≤ (f.add d).maximum.verbosity := by
      simp only [add]
      split
      · omega
      · omega
    rcases List.mem_append.mp member with earlier | last
    · exact (holds.maximum x earlier).trans bound.1
    · rw [List.mem_singleton.mp last]
      exact bound.2
  · simp only [add]
    split
    · exact .inr ⟨d,by simp,rfl⟩
    · rcases holds.reached with off | ⟨x,member,same⟩
      · exact .inl off
      · exact .inr ⟨x,List.mem_append_left _ member,same⟩

theorem of_addAll {f : Filter} {done : List Directive} (holds : f.Of done) (ds : List Directive) :
    (ds.foldl add f).Of (done ++ ds) := by
  induction ds generalizing f done with
  | nil =>
    rw [List.append_nil]
    exact holds
  | cons d ds ih =>
    rw [← List.singleton_append,← List.append_assoc]
    exact ih (of_add holds d)

theorem ofDirectives_of (ds : List Directive) : (ofDirectives ds).Of ds := of_addAll of_empty ds

/-! ### Reading directives -/

/-- The text reads as the directives, one for each part between commas that is not empty. -/
def Reads (text : String) (ds : List Directive) : Prop :=
  List.Forall₂ (fun part d => Directive.parse? part = some d) ((text.toList.splitOn ',').filter (· ≠ [])) ds

theorem parts_eq (text : List Char) : parts text = text.splitOn ',' := by
  induction text with
  | nil => rfl
  | cons c rest ih =>
    rw [parts,List.splitOn_cons_eq_if_modifyHead,ih]
    by_cases comma : c = ','
    · simp [comma]
    · cases split : List.splitOn ',' rest with
      | nil => exact absurd split (List.splitOn_ne_nil ',' rest)
      | cons first more => simp [comma]

theorem directives_iff (text : String) (ds : List Directive) : directives? text = some ds ↔ Reads text ds := by
  have kept (part : List Char) : (!part.isEmpty) = decide (part ≠ []) := by cases part <;> rfl
  simp only [directives?,parts_eq,mapM_some_iff,Reads,kept]

/-- A comma between two texts leaves the parts of both as they are. -/
theorem directives_join (a b : String) :
    directives? (a ++ "," ++ b) = (directives? a).bind fun xs => (directives? b).map (xs ++ ·) := by
  have split : (a ++ "," ++ b).toList = a.toList ++ ',' :: b.toList := by simp
  simp only [directives?,parts_eq,split,List.splitOn_append_cons_self,List.filter_append,List.mapM_append,
    Option.bind_eq_bind,Option.pure_def,Option.map_eq_bind,Function.comp_def]

end Filter

end Nominal.Log

namespace Nominal.LoggingConfig

open Log (Directive Filter)
open Log.Filter (Reads)

/-- The environment adds the directives: it is set, not blank, and its text reads as them. -/
def Adds (environment : Option String) (rs : List Directive) : Prop :=
  ∃ text, environment = some text ∧ Text.trim text ≠ "" ∧ Reads (Text.trim text) rs

/-- The configured level is the name of a level, in any case and with white space around it. A blank one
    stands for `info`, and `warning` is another name of `warn`. -/
inductive Names (l : LoggingConfig) : Log.Level → Prop
  | blank : Text.trim l.level = "" → Names l .info
  | label {level : Log.Level} : (Text.trim l.level).toLower = level.label.toLower → Names l level
  | warning : (Text.trim l.level).toLower = "warning" → Names l .warn

/-- The filter takes what can be read of the level and the environment. -/
structure Effective (l : LoggingConfig) (environment : Option String) (f : Filter) : Prop where
  /-- The name of a level is one directive, for all targets. -/
  named : ∀ level, l.Names level →
    l.directives = level.label.toLower ∧ Reads l.directives [⟨none,.upTo level⟩]
  /-- Any other text is taken for directives as it stands. -/
  unnamed : (∀ level, ¬ l.Names level) → l.directives = Text.trim l.level
  /-- The environment is unset, blank or cannot be read. -/
  configured : ∀ cs, Reads l.directives cs → (¬ ∃ rs, Adds environment rs) → f.Of cs
  /-- Where the environment speaks of a target it counts, and elsewhere the level does. -/
  merged : ∀ cs rs, Reads l.directives cs → Adds environment rs → f.Of (cs ++ rs) ∧
    ∀ d, d ∈ f.directives ↔ d.LastIn rs ∨ (d.LastIn cs ∧ ∀ other ∈ rs, other.target ≠ d.target)
  added : ∀ rs, (¬ ∃ cs, Reads l.directives cs) → Adds environment rs → f.Of rs
  neither : (¬ ∃ cs, Reads l.directives cs) → (¬ ∃ rs, Adds environment rs) →
    f.directives = [⟨none,.upTo .info⟩]

/-! ### The configured level -/

theorem contains_label (word : String) :
    ["trace","debug","info","warn","error"].contains word ↔ ∃ level : Log.Level, level.label.toLower = word := by
  have labels : ["trace","debug","info","warn","error"] =
      [Log.Level.trace,.debug,.info,.warn,.error].map (·.label.toLower) := by decide +kernel
  rw [labels,List.contains_iff_mem,List.mem_map]
  constructor
  · rintro ⟨level,_,same⟩
    exact ⟨level,same⟩
  · rintro ⟨level,same⟩
    exact ⟨level,by cases level <;> simp,same⟩

theorem directives_named {l : LoggingConfig} {level : Log.Level} (names : l.Names level) :
    l.directives = level.label.toLower := by
  -- A level whose letters in small case are a word is not blank.
  have filled {word : String} (long : "".toLower ≠ word) (same : (Text.trim l.level).toLower = word) :
      Text.trim l.level ≠ "" := by
    intro blank
    rw [blank] at same
    exact long same
  cases names with
  | blank blank =>
    have info : "info" = Log.Level.info.label.toLower := by decide +kernel
    simpa [directives,blank] using info
  | label same =>
    have long : "".toLower ≠ level.label.toLower := by cases level <;> decide +kernel
    have listed := (contains_label level.label.toLower).mpr ⟨level,rfl⟩
    simp only [directives,String.isEmpty_iff,filled long same,same,listed,if_true,if_false]
  | warning same =>
    have warn : "warn" = Log.Level.warn.label.toLower := by decide +kernel
    have long : "".toLower ≠ "warning" := by decide +kernel
    simpa [directives,filled long same,same] using warn

theorem directives_unnamed {l : LoggingConfig} (unnamed : ∀ level, ¬ l.Names level) :
    l.directives = Text.trim l.level := by
  have filled : Text.trim l.level ≠ "" := fun blank => unnamed .info (.blank blank)
  have unlisted : ¬ ["trace","debug","info","warn","error"].contains (Text.trim l.level).toLower := by
    rw [contains_label]
    rintro ⟨level,same⟩
    exact unnamed level (.label same.symm)
  have other : (Text.trim l.level).toLower ≠ "warning" := fun same => unnamed .warn (.warning same)
  simp only [directives,String.isEmpty_iff,filled,unlisted,other,beq_iff_eq,if_false,Bool.false_eq_true]

theorem reads_label (level : Log.Level) : Reads level.label.toLower [⟨none,.upTo level⟩] := by
  rw [← Filter.directives_iff]
  cases level <;> decide +kernel

/-! ### The choice of directives -/

/-- The directives of the environment, if it is not blank and can be read. -/
def added? (environment : Option String) : Option (List Directive) :=
  let text := Text.trim (environment.getD "")
  if text.isEmpty then none else Filter.directives? text

theorem added_iff (environment : Option String) (rs : List Directive) :
    added? environment = some rs ↔ Adds environment rs := by
  cases environment with
  | none => simp [added?,Adds,show Text.trim "" = "" from rfl]
  | some text =>
    by_cases blank : Text.trim text = ""
    · simp [added?,Adds,blank]
    · simp [added?,Adds,blank,Filter.directives_iff]

/-- The directives in force, given those of the level and of the environment. -/
def inForce : (configured added : Option (List Directive)) → List Directive
  | some cs, some rs => cs ++ rs
  | some cs, none => cs
  | none, some rs => rs
  | none, none => [⟨none,.upTo .info⟩]

theorem ownFilter_eq (l : LoggingConfig) :
    l.ownFilter = Filter.ofDirectives (inForce (Filter.directives? l.directives) none) := by
  rw [ownFilter,Filter.parse?]
  cases Filter.directives? l.directives with
  | none => rfl
  | some cs => rfl

/-- The three attempts at reading come down to one choice of directives. -/
theorem filter_eq (l : LoggingConfig) (environment : Option String) :
    l.filter environment =
      Filter.ofDirectives (inForce (Filter.directives? l.directives) (added? environment)) := by
  by_cases blank : (Text.trim (environment.getD "")).isEmpty
  · simp only [filter,added?,blank,if_true,ownFilter_eq]
  · simp only [filter,added?,blank,Bool.false_eq_true,if_false,Filter.parse?,Filter.directives_join,ownFilter_eq]
    cases Filter.directives? l.directives with
    | none =>
      cases Filter.directives? (Text.trim (environment.getD "")) with
      | none => rfl
      | some rs => rfl
    | some cs =>
      cases Filter.directives? (Text.trim (environment.getD "")) with
      | none => rfl
      | some rs => rfl

/-- The effective filter in all cases, whatever the level and the environment. -/
theorem filter_effective (l : LoggingConfig) (environment : Option String) :
    Effective l environment (l.filter environment) := by
  have unread {found : Option (List Directive)} {Means : List Directive → Prop}
      (means : ∀ ds, found = some ds ↔ Means ds) (nothing : ¬ ∃ ds, Means ds) : found = none := by
    cases found with
    | none => rfl
    | some ds => exact absurd ⟨ds,(means ds).mp rfl⟩ nothing
  rw [filter_eq]
  refine ⟨?_,fun unnamed => directives_unnamed unnamed,?_,?_,?_,?_⟩
  · intro level names
    rw [directives_named names]
    exact ⟨rfl,reads_label level⟩
  · intro cs read nothing
    rw [(Filter.directives_iff _ _).mpr read,unread (added_iff environment) nothing]
    exact Filter.ofDirectives_of cs
  · intro cs rs read adds
    rw [(Filter.directives_iff _ _).mpr read,(added_iff environment rs).mpr adds]
    have both := Filter.ofDirectives_of (cs ++ rs)
    refine ⟨both,?_⟩
    intro d
    exact (both.directives d).trans (d.lastIn_append cs rs)
  · intro rs nothing adds
    rw [unread (Filter.directives_iff l.directives) nothing,(added_iff environment rs).mpr adds]
    exact Filter.ofDirectives_of rs
  · intro nothing none_added
    rw [unread (Filter.directives_iff l.directives) nothing,unread (added_iff environment) none_added]
    rfl

/-- A level that sets a target twice, beside an environment that sets it again; and a level by its other name,
    beside a blank environment. -/
theorem typeckThrice_effective :
    let l : LoggingConfig := { level := " Warn,nova.typeck=2,nova.typeck=debug" }
    let environment := some " nova.typeck=TRACE,,nova::config=0 "
    let plain : LoggingConfig := { level := "\tWarning " }
    Reads l.directives [⟨none,.upTo .warn⟩,⟨some "nova.typeck",.upTo .warn⟩,⟨some "nova.typeck",.upTo .debug⟩] ∧
      Adds environment [⟨some "nova.typeck",.upTo .trace⟩,⟨some "nova::config",.off⟩] ∧
      ⟨none,.upTo .warn⟩ ∈ (l.filter environment).directives ∧
      ⟨some "nova.typeck",.upTo .trace⟩ ∈ (l.filter environment).directives ∧
      ⟨some "nova.typeck",.upTo .debug⟩ ∉ (l.filter environment).directives ∧
      plain.Names .warn ∧ (¬ ∃ rs, Adds (some " ") rs) ∧
      ∀ d, d ∈ (plain.filter (some " ")).directives ↔ d = ⟨none,.upTo .warn⟩ := by
  intro l environment plain
  have read := (Filter.directives_iff l.directives
    [⟨none,.upTo .warn⟩,⟨some "nova.typeck",.upTo .warn⟩,⟨some "nova.typeck",.upTo .debug⟩]).mp (by decide +kernel)
  have adds := (added_iff environment
    [⟨some "nova.typeck",.upTo .trace⟩,⟨some "nova::config",.off⟩]).mp (by decide +kernel)
  obtain ⟨_,members⟩ := (filter_effective l environment).merged _ _ read adds
  have names : plain.Names .warn := .warning (by decide +kernel)
  have blank : ¬ ∃ rs, Adds (some " ") rs := by
    rintro ⟨rs,_,⟨⟩,filled,_⟩
    exact filled (by decide +kernel)
  have alone := filter_effective plain (some " ")
  refine ⟨read,adds,(members _).mpr (.inr ⟨⟨[],_,rfl,by simp⟩,by simp⟩),
    (members _).mpr (.inl ⟨[],_,rfl,by simp⟩),?_,names,blank,?_⟩
  · intro kept
    rcases (members _).mp kept with last | ⟨_,untouched⟩
    · have inside := Directive.lastIn_mem last
      simp at inside
    · exact untouched ⟨some "nova.typeck",.upTo .trace⟩ (by simp) rfl
  · intro d
    rw [(alone.configured _ (alone.named .warn names).2 blank).directives,Directive.lastIn_singleton]

end Nominal.LoggingConfig
