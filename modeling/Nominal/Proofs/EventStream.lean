import Nominal.Diagnostic
import Nominal.Proofs.Nodes
import Nominal.Registration

/-!
The events of a check. A check that succeeds reports that every node passed, in post-order. A check that
fails does so up to the failing node, then reports the error, and then that this node and those around it
failed, from the inside out. So no node is reported twice, and diagnosing reports one error for each
diagnostic.
-/

namespace Nominal

namespace Log

/-- What is written of an event. -/
structure Record where
  level : Level
  target : String
  message : String
  fields : List (String × FieldValue)
  deriving DecidableEq, Repr

def Event.record (e : Event) : Record := ⟨e.level,e.target,e.message,e.fields⟩

namespace Record

/-- The report that a node passed. -/
def passed (node : Expr) : Record :=
  { level := .trace
    target := "nova.typeck"
    message := "well-typed"
    fields := [("expr",.word node.kind.name)] }

/-- The report of an error at the node that broke its rule. -/
def rejected (err : TypeError) (node : Expr) : Record :=
  { level := .debug
    target := "nova.typeck"
    message := "type error"
    fields := [("expr",.word node.kind.name),("kind",.text err.kind.name),("error",.text err.summary)] }

/-- The report that a node failed, by an error of its own or of a node inside it. -/
def failed (err : TypeError) (node : Expr) : Record :=
  { level := .trace
    target := "nova.typeck"
    message := "check failed"
    fields := [("expr",.word node.kind.name),("kind",.text err.kind.name)] }

end Record

end Log

/-! ### Outcomes in sequence -/

namespace Outcome

variable {α β : Type}

@[simp] theorem events_pure (a : α) : (pure a : Outcome α).events = [] := rfl

theorem bind_ok (events : List Log.Event) (a : α) (next : α → Outcome β) :
    (⟨events,.ok a⟩ >>= next : Outcome β) = ⟨events ++ (next a).events,(next a).result⟩ := rfl

theorem bind_error (events : List Log.Event) (err : TypeError) (next : α → Outcome β) :
    (⟨events,.error err⟩ >>= next : Outcome β) = ⟨events,.error err⟩ := rfl

instance : LawfulMonad Outcome := LawfulMonad.mk' Outcome
  (by
    rintro α ⟨events,result⟩
    cases result <;> simp [Functor.map,andThen])
  (by intros; rfl)
  (by
    rintro α β γ ⟨events,result⟩ next further
    cases result with
    | error err => rfl
    | ok a =>
      rw [bind_ok,bind_ok]
      obtain ⟨more,outcome⟩ : Outcome β := next a
      cases outcome <;> simp [bind_ok,bind_error])

end Outcome

namespace Expr

theorem checkAll_append (t : ClassTable) (xs ys : List Expr) :
    checkAll t (xs ++ ys) = do
      let first ← checkAll t xs
      let second ← checkAll t ys
      return first ++ second := by
  induction xs with
  | nil => simp [checkAll]
  | cons e xs ih => simp [checkAll,ih]

theorem checkAll_stops {t : ClassTable} {left : List Expr} {part : Expr} {events more : List Log.Event}
    {types : List Ty} {err : TypeError} (passing : checkAll t left = ⟨events,.ok types⟩)
    (failing : part.check t = ⟨more,.error err⟩) (right : List Expr) :
    checkAll t (left ++ part :: right) = ⟨events ++ more,.error err⟩ := by
  rw [checkAll_append,passing,Outcome.bind_ok,checkAll,failing]
  rfl

/-- A check of any node checks its parts in order, judges the node by their types, and closes the visit. -/
theorem check_shape (t : ClassTable) (e : Expr) : ∃ rule : List Ty → Except TypeError Ty,
    e.check t = .close e.kind (checkAll t e.parts >>= fun types => .judge e.kind (rule types)) := by
  cases e with
  | var v => exact ⟨fun _ => .ok v.type,rfl⟩
  | literal text type => exact ⟨fun _ => .ok type,rfl⟩
  | null => exact ⟨fun _ => .ok .null,rfl⟩
  | assign v value =>
    refine ⟨fun types => t.assignRule v (types.headD .null),?_⟩
    simp [check,checkAll,parts,kind]
  | call receiver name args =>
    refine ⟨fun types => t.callRule (types.headD .null) name types.tail,?_⟩
    simp [check,checkAll,parts,kind]
  | new target args => exact ⟨t.newRule target,by rw [check,parts,kind]⟩

end Expr

/-! ### The events of a check -/

/-- The events of nodes that pass, and below those of nodes that fail because of an error. -/
def passes (nodes : List Expr) : List Log.Event := nodes.map fun node => .wellTyped node.kind

def failures (err : TypeError) (nodes : List Expr) : List Log.Event :=
  nodes.map fun node => .checkFailed node.kind err.kind

section
variable {t : ClassTable}

private theorem checkAll_passing {es : List Expr}
    (each : ∀ e ∈ es, ∀ type, (e.check t).result = .ok type → e.check t = ⟨passes e.postorder,.ok type⟩)
    {types : List Ty} (checked : (Expr.checkAll t es).result = .ok types) :
    Expr.checkAll t es = ⟨passes (Expr.postorderAll es),.ok types⟩ := by
  induction es generalizing types with
  | nil =>
    cases checked
    rfl
  | cons e rest ih =>
    simp only [Expr.checkAll,Outcome.result_bind,Outcome.result_pure,bind_ok_iff] at checked
    obtain ⟨type,first,later,others,same⟩ := checked
    cases same
    have rest_passes := ih (fun e member => each e (List.mem_cons_of_mem _ member)) others
    rw [Expr.checkAll,each e List.mem_cons_self type first,rest_passes,Outcome.bind_ok,Outcome.bind_ok]
    simp [passes,Expr.postorderAll]

/-- A check that succeeds reports every node, in post-order. -/
theorem check_passing {e : Expr} {type : Ty} (checked : (e.check t).result = .ok type) :
    e.check t = ⟨passes e.postorder,.ok type⟩ := by
  induction e using Expr.induction_parts generalizing type with
  | _ e ih =>
    obtain ⟨rule,shape⟩ := e.check_shape t
    rw [shape,Outcome.result_close,Outcome.result_bind,bind_ok_iff] at checked
    obtain ⟨types,parts_checked,judged⟩ := checked
    rw [Outcome.result_judge] at judged
    have parts_pass := checkAll_passing (fun part member type => ih part member) parts_checked
    rw [shape,parts_pass,Outcome.bind_ok,judged,Expr.postorder_eq]
    simp [Outcome.judge,Outcome.close,passes]

private theorem checkAll_clean {es : List Expr} (clean : NoFault (Breach t) (Expr.postorderAll es)) :
    ∃ types, Expr.checkAll t es = ⟨passes (Expr.postorderAll es),.ok types⟩ := by
  obtain ⟨types,checked⟩ := (exists_ok_iff (checkAll_error_iff t es)).mpr clean
  exact ⟨types,checkAll_passing (fun e _ type => check_passing) checked⟩

/-- A check fails at the first node that breaks its rule. It reports the nodes before that one, the error,
    and then the node and what is around it. -/
theorem check_failing {e node : Expr} {before around : List Expr} {err : TypeError}
    (position : Expr.Position e before node around) (clean : NoFault (Breach t) before)
    (breach : Breach t node err) :
    e.check t = ⟨passes before ++ .typeError node.kind err :: failures err (node :: around),.error err⟩ := by
  induction position with
  | whole e =>
    -- All parts pass, and then the rule of the node is the one that is broken.
    obtain ⟨types,parts_pass⟩ := checkAll_clean clean
    have failed : (e.check t).result = .error err :=
      (check_error_iff t e err).mpr ⟨_,e,[],e.postorder_eq,clean,breach⟩
    obtain ⟨rule,shape⟩ := e.check_shape t
    rw [shape,parts_pass,Outcome.bind_ok] at failed ⊢
    rw [Outcome.result_close,Outcome.result_judge] at failed
    rw [failed]
    simp [Outcome.judge,Outcome.close,failures]
  | @inside e part node left right before around parts_eq _ ih =>
    -- The parts before the failing one pass, and those after it are not looked at.
    obtain ⟨types,left_pass⟩ := checkAll_clean fun node member => clean node (List.mem_append_left _ member)
    have part_fails := ih (fun node member => clean node (List.mem_append_right _ member)) breach
    obtain ⟨rule,shape⟩ := e.check_shape t
    rw [shape,parts_eq,Expr.checkAll_stops left_pass part_fails,Outcome.bind_error]
    simp [Outcome.close,passes,failures]

theorem failing_position {e : Expr} {err : TypeError} (failed : (e.check t).result = .error err) :
    ∃ before node around, Expr.Position e before node around ∧ NoFault (Breach t) before ∧
      Breach t node err := by
  obtain ⟨before,node,after,split,clean,breach⟩ := (check_error_iff t e err).mp failed
  obtain ⟨around,position⟩ := Expr.exists_position split
  exact ⟨before,node,around,position,clean,breach⟩

private theorem records_passes (nodes : List Expr) :
    (passes nodes).map Log.Event.record = nodes.map Log.Record.passed := by
  simp only [passes,List.map_map]
  rfl

private theorem records_failures (err : TypeError) (nodes : List Expr) :
    (failures err nodes).map Log.Event.record = nodes.map (Log.Record.failed err) := by
  simp only [failures,List.map_map]
  rfl

private theorem debug_passes (nodes : List Expr) : (passes nodes).countP (·.level = .debug) = 0 := by
  simp [passes,List.countP_eq_zero,Log.Event.level]

private theorem debug_failures (err : TypeError) (nodes : List Expr) :
    (failures err nodes).countP (·.level = .debug) = 0 := by
  simp [failures,List.countP_eq_zero,Log.Event.level]

/-- Only the error itself is reported at the debug level. -/
theorem debug_count (t : ClassTable) (e : Expr) :
    (e.check t).events.countP (·.level = .debug) =
      match (e.check t).result with
      | .ok _ => 0
      | .error _ => 1 := by
  cases checked : (e.check t).result with
  | ok type =>
    rw [check_passing checked]
    exact debug_passes e.postorder
  | error err =>
    obtain ⟨before,node,around,position,clean,breach⟩ := failing_position checked
    rw [check_failing position clean breach,List.countP_append,debug_passes,List.countP_cons,
      debug_failures]
    rfl

theorem diagnose_debug_count (t : ClassTable) (exprs : List Expr) :
    (diagnoseEvents t exprs).countP (·.level = .debug) = (diagnose t exprs).length := by
  induction exprs with
  | nil => rfl
  | cons e rest ih =>
    have events : diagnoseEvents t (e :: rest) = (e.check t).events ++ diagnoseEvents t rest := by
      simp [diagnoseEvents]
    rw [events,List.countP_append,debug_count,ih]
    cases checked : (e.check t).result with
    | ok type => simp [diagnose,checked]
    | error err => simp [diagnose,checked,Nat.add_comm]

end

/-- A check fails at a place of the expression, and reports this. -/
structure FailsAt (t : ClassTable) (e : Expr) (err : TypeError) (before : List Expr) (node : Expr)
    (around : List Expr) : Prop where
  position : Expr.Position e before node around
  split : ∃ after, e.postorder = before ++ node :: after
  fine : NoFault (Breach t) before
  breach : Breach t node err
  records : (e.check t).events.map Log.Event.record =
    before.map .passed ++ .rejected err node :: (node :: around).map (.failed err)
  /-- No node is reported twice. -/
  once : (before ++ node :: around).Sublist e.postorder

/-- The exact events of a check, by its verdict, and of diagnosing several expressions. -/
theorem check_event_stream (t : ClassTable) :
    (∀ e : Expr, e.verdict t = .ok () →
      (e.check t).events.map Log.Event.record = e.postorder.map .passed) ∧
    (∀ (e : Expr) err, e.verdict t = .error err → ∃ before node around, FailsAt t e err before node around) ∧
    ∀ exprs, (diagnoseEvents t exprs).countP (·.level = .debug) = (diagnose t exprs).length := by
  refine ⟨?_,?_,diagnose_debug_count t⟩
  · intro e accepted
    obtain ⟨type,checked⟩ := (verdict_ok_iff t e).mp accepted
    rw [check_passing checked]
    exact records_passes e.postorder
  · intro e err refused
    obtain ⟨before,node,around,position,clean,breach⟩ :=
      failing_position ((verdict_error_iff t e err).mp refused)
    refine ⟨before,node,around,position,Expr.position_split position,clean,breach,?_,
      Expr.position_sublist position⟩
    rw [check_failing position clean breach,List.map_append,List.map_cons,records_passes,records_failures]
    rfl

/-- An assignment whose value is a call of a missing method on what another call returns. -/
def missingInside : Expr :=
  .assign ⟨"i",.primitive .int⟩ (.call (.call (.literal "a" ClassTable.builtin.stringType) "concat"
    [.literal "b" ClassTable.builtin.stringType]) "missing" [.null])

theorem missingInside_stream :
    missingInside.verdict .builtin = .error (.noSuchMethod ClassTable.builtin.stringType "missing") ∧
      ∃ before node around, FailsAt .builtin missingInside
        (.noSuchMethod ClassTable.builtin.stringType "missing") before node around := by
  have refused : missingInside.verdict .builtin =
      .error (.noSuchMethod ClassTable.builtin.stringType "missing") := by rfl
  exact ⟨refused,(check_event_stream .builtin).2.1 missingInside _ refused⟩

end Nominal
