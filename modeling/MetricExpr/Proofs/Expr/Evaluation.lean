import MetricExpr.Expr.Eval
/-!
# When a node has a value

An expression has a value iff all its variables have one (`eval_isSome_iff`): there is no other failure, over any
carrier of numbers. The value is what the operators give from the leaves up (`yields_iff`), and it depends on the
variables of the node only (`eval_congr`).
-/
namespace MetricExpr

/-- The value of an expression, from the leaves up. -/
inductive Expr.Yields {α : Type} (K : Carrier α) (env : Variable → Option α) : Expr → α → Prop
  | const (x : Finite) : Yields K env (.const x) (K.constant x)
  | var {v : Variable} {x : α} (h : env v = some x) : Yields K env (.var v) x
  | binary (op : Arith) {l r : Expr} {x y : α} (hl : Yields K env l x) (hr : Yields K env r y) :
      Yields K env (.binary op l r) (K.arith op x y)

/-- The value of a node: that of its expression, or what the relation says of the values of its sides. -/
inductive Node.Yields {α : Type} (K : Carrier α) (env : Variable → Option α) : Node → Outcome α → Prop
  | expr {e : Expr} {x : α} (h : e.Yields K env x) : Yields K env (.expr e) (.number x)
  | comparison (rel : Relation) {l r : Expr} {x y : α} (hl : l.Yields K env x) (hr : r.Yields K env y) :
      Yields K env (.comparison rel l r) (.truth (K.compare rel x y))

variable {α : Type} (K : Carrier α) (env : Variable → Option α)

theorem Expr.eval_binary (op : Arith) (l r : Expr) :
    (Expr.binary op l r).eval K env = (l.eval K env).bind fun x => (r.eval K env).map (K.arith op x) := by
  rw [Expr.eval]
  cases l.eval K env <;> cases r.eval K env <;> rfl

theorem Node.eval_comparison (rel : Relation) (l r : Expr) :
    (Node.comparison rel l r).eval K env =
      (l.eval K env).bind fun x => (r.eval K env).map fun y => .truth (K.compare rel x y) := by
  rw [Node.eval]
  cases l.eval K env <;> cases r.eval K env <;> rfl

/-- **An expression has a value iff all its variables have one.** -/
theorem Expr.eval_isSome_iff : ∀ e : Expr, (e.eval K env).isSome = true ↔ ∀ v ∈ e.vars, (env v).isSome = true
  | .const x => by simp [Expr.eval, Expr.vars]
  | .var v => by simp [Expr.eval, Expr.vars]
  | .binary op l r => by
    have hl := Expr.eval_isSome_iff l
    have hr := Expr.eval_isSome_iff r
    rw [Expr.eval_binary, Expr.vars, List.forall_mem_append, ← hl, ← hr]
    cases l.eval K env <;> cases r.eval K env <;> simp

/-- **A node has a value iff all its variables have one.** -/
theorem Node.eval_isSome_iff : ∀ n : Node, (n.eval K env).isSome = true ↔ ∀ v ∈ n.vars, (env v).isSome = true
  | .expr e => by
    rw [Node.eval, Option.isSome_map, Node.vars]
    exact Expr.eval_isSome_iff K env e
  | .comparison rel l r => by
    have hl := Expr.eval_isSome_iff K env l
    have hr := Expr.eval_isSome_iff K env r
    rw [Node.eval_comparison, Node.vars, List.forall_mem_append, ← hl, ← hr]
    cases l.eval K env <;> cases r.eval K env <;> simp

theorem Node.eval_eq_none_iff (n : Node) : n.eval K env = none ↔ ∃ v ∈ n.vars, env v = none := by
  rw [← Option.not_isSome_iff_eq_none, Node.eval_isSome_iff, Classical.not_forall]
  refine exists_congr fun v => ?_
  rw [Classical.not_imp, Option.not_isSome_iff_eq_none]

/-- **Evaluation finds the value from the leaves up**, and finds none where there is none. -/
theorem Expr.yields_iff : ∀ {e : Expr} {x : α}, e.Yields K env x ↔ e.eval K env = some x
  | .const c, x => by
    constructor
    · intro h
      cases h
      rfl
    · intro h
      cases h
      exact .const c
  | .var v, x => by
    constructor
    · intro h
      cases h with
      | var hv => exact hv
    · exact .var
  | .binary op l r, x => by
    rw [Expr.eval_binary]
    constructor
    · intro h
      cases h with
      | binary _ hl hr => rw [Expr.yields_iff.1 hl, Expr.yields_iff.1 hr, Option.bind_some, Option.map_some]
    · intro h
      obtain ⟨y, hl, hmap⟩ := Option.bind_eq_some_iff.1 h
      obtain ⟨z, hr, rfl⟩ := Option.map_eq_some_iff.1 hmap
      exact .binary op (Expr.yields_iff.2 hl) (Expr.yields_iff.2 hr)

theorem Node.yields_iff : ∀ {n : Node} {x : Outcome α}, n.Yields K env x ↔ n.eval K env = some x
  | .expr e, x => by
    rw [Node.eval]
    constructor
    · intro h
      cases h with
      | expr he => rw [(Expr.yields_iff K env).1 he, Option.map_some]
    · intro h
      obtain ⟨y, he, rfl⟩ := Option.map_eq_some_iff.1 h
      exact .expr ((Expr.yields_iff K env).2 he)
  | .comparison rel l r, x => by
    rw [Node.eval_comparison]
    constructor
    · intro h
      cases h with
      | comparison _ hl hr =>
        rw [(Expr.yields_iff K env).1 hl, (Expr.yields_iff K env).1 hr, Option.bind_some, Option.map_some]
    · intro h
      obtain ⟨y, hl, hmap⟩ := Option.bind_eq_some_iff.1 h
      obtain ⟨z, hr, rfl⟩ := Option.map_eq_some_iff.1 hmap
      exact .comparison rel ((Expr.yields_iff K env).2 hl) ((Expr.yields_iff K env).2 hr)

variable {env} {env' : Variable → Option α}

theorem Expr.eval_congr : ∀ e : Expr, (∀ v ∈ e.vars, env v = env' v) → e.eval K env = e.eval K env'
  | .const _, _ => rfl
  | .var v, h => h v List.mem_cons_self
  | .binary op l r, h => by
    rw [Expr.vars, List.forall_mem_append] at h
    rw [Expr.eval_binary, Expr.eval_binary, Expr.eval_congr l h.1, Expr.eval_congr r h.2]

/-- The value of a node depends on nothing but the values of its variables. -/
theorem Node.eval_congr : ∀ n : Node, (∀ v ∈ n.vars, env v = env' v) → n.eval K env = n.eval K env'
  | .expr e, h => by
    rw [Node.eval, Node.eval, Expr.eval_congr K e h]
  | .comparison rel l r, h => by
    rw [Node.vars, List.forall_mem_append] at h
    rw [Node.eval_comparison, Node.eval_comparison, Expr.eval_congr K l h.1, Expr.eval_congr K r h.2]

end MetricExpr
