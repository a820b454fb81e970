import Nominal.Proofs.FirstError

/-!
The nodes of an expression and their places. A place is given by what comes before it in post-order and by
the expressions that enclose it. Induction goes from the parts of a node to the node, whatever its form.
-/

namespace Nominal.Expr

/-- A node of an expression, at one place: the nodes before it in post-order, and the expressions around
    it, from the smallest to the whole. -/
inductive Position : Expr → List Expr → Expr → List Expr → Prop
  | whole (e : Expr) : Position e (postorderAll e.parts) e []
  | inside {e part node : Expr} {left right before around : List Expr} :
      e.parts = left ++ part :: right → Position part before node around →
      Position e (postorderAll left ++ before) node (around ++ [e])

theorem postorder_eq (e : Expr) : e.postorder = postorderAll e.parts ++ [e] := by
  cases e <;> simp [postorder,parts,postorderAll]

theorem postorderAll_append (xs ys : List Expr) :
    postorderAll (xs ++ ys) = postorderAll xs ++ postorderAll ys := by
  induction xs with
  | nil => rfl
  | cons e xs ih => simp [postorderAll,ih]

mutual

/-- What passes from the parts of every expression to the expression holds of all expressions. -/
theorem induction_parts {motive : Expr → Prop} (step : ∀ e, (∀ part ∈ e.parts, motive part) → motive e)
    (e : Expr) : motive e := by
  apply step
  cases e with
  | var | literal | null => all_goals simp [parts]
  | assign v value => simpa [parts] using induction_parts step value
  | call receiver name args =>
    simpa [parts] using ⟨induction_parts step receiver,induction_parts_all step args⟩
  | new target args => simpa [parts] using induction_parts_all step args

theorem induction_parts_all {motive : Expr → Prop}
    (step : ∀ e, (∀ part ∈ e.parts, motive part) → motive e) (es : List Expr) : ∀ e ∈ es, motive e := by
  cases es with
  | nil => simp
  | cons e rest => simpa using ⟨induction_parts step e,induction_parts_all step rest⟩

end

private theorem split_append {xs ys before after : List Expr} {node : Expr}
    (split : xs ++ ys = before ++ node :: after) :
    (∃ inner, before = xs ++ inner ∧ ys = inner ++ node :: after) ∨
      ∃ rest, xs = before ++ node :: rest := by
  rcases List.append_eq_append_iff.mp split with first | ⟨rest,same,later⟩
  · exact .inl first
  · cases rest with
    | nil => exact .inl ⟨[],by simpa using same.symm,by simpa using later.symm⟩
    | cons other rest =>
      obtain ⟨rfl,_⟩ := List.cons.inj later
      exact .inr ⟨rest,same⟩

private theorem postorderAll_split {es before after : List Expr} {node : Expr}
    (split : postorderAll es = before ++ node :: after) :
    ∃ left part right inner rest, es = left ++ part :: right ∧ before = postorderAll left ++ inner ∧
      part.postorder = inner ++ node :: rest := by
  induction es generalizing before with
  | nil => simp [postorderAll] at split
  | cons e es ih =>
    rw [postorderAll] at split
    rcases split_append split with ⟨inner,rfl,later⟩ | ⟨rest,here⟩
    · obtain ⟨left,part,right,deeper,rest,rfl,rfl,here⟩ := ih later
      refine ⟨e :: left,part,right,deeper,rest,rfl,?_,here⟩
      rw [postorderAll,List.append_assoc]
    · exact ⟨[],e,es,before,rest,rfl,rfl,here⟩

/-- Every node in post-order stands at some place. -/
theorem exists_position {e node : Expr} {before after : List Expr}
    (split : e.postorder = before ++ node :: after) : ∃ around, Position e before node around := by
  induction e using induction_parts generalizing before after with
  | _ e ih =>
    rw [postorder_eq] at split
    rcases split_append split with ⟨inner,rfl,last⟩ | ⟨rest,within⟩
    · -- Nothing follows the expression itself, so the node is the last one.
      obtain ⟨rfl,rfl,_⟩ : inner = [] ∧ e = node ∧ after = [] := by
        cases inner with
        | nil => simpa [eq_comm] using last
        | cons x inner => simp at last
      exact ⟨[],by simpa using Position.whole e⟩
    · obtain ⟨left,part,right,inner,rest,shape,rfl,here⟩ := postorderAll_split within
      obtain ⟨around,position⟩ := ih part (by simp [shape]) here
      exact ⟨around ++ [e],.inside shape position⟩

section
variable {e node : Expr} {before around : List Expr}

theorem position_split (position : Position e before node around) :
    ∃ after, e.postorder = before ++ node :: after := by
  induction position with
  | whole e => exact ⟨[],postorder_eq e⟩
  | @inside e part node left right before around shape _ ih =>
    obtain ⟨after,here⟩ := ih
    refine ⟨after ++ (postorderAll right ++ [e]),?_⟩
    rw [postorder_eq e,shape,postorderAll_append,postorderAll,here]
    simp

/-- The nodes before a place, the node there and those around it stand in post-order, each at a place of
    its own. -/
theorem position_sublist (position : Position e before node around) :
    (before ++ node :: around).Sublist e.postorder := by
  induction position with
  | whole e => rw [postorder_eq]
  | @inside e part node left right before around shape _ ih =>
    have inner : (before ++ node :: around).Sublist (part.postorder ++ postorderAll right) :=
      ih.trans (List.sublist_append_left _ _)
    have outer := ((List.Sublist.refl (postorderAll left)).append inner).append (List.Sublist.refl [e])
    rw [postorder_eq e,shape,postorderAll_append,postorderAll]
    simpa using outer

end

end Nominal.Expr
