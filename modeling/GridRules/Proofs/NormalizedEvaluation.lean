import GridRules.Proofs.CanonicalExpr
import Mathlib.Algebra.Ring.Int.Defs

namespace GridRules

/-- An operand comes to a value that counts as an integer in sums and products. -/
def ComesToInt (operand : Except Fault Value) : Prop :=
  ∃ v, operand = .ok v ∧ ∃ n : Int, v.toNumber? = some (.int n)

namespace Variadic

/-- The exact operation on integers. -/
def onInts : Variadic → Int → Int → Int
  | .add => (· + ·)
  | .mul => (· * ·)

theorem step?_ints (op : Variadic) (m n : Int) :
    op.step? (.int m) (.int n) = some (.int (op.onInts m n)) := by
  cases op <;> rfl

theorem onInts_neutral (op : Variadic) (n : Int) : op.onInts n op.neutral = n := by
  cases op <;> simp [onInts, neutral]

theorem neutral_onInts (op : Variadic) (n : Int) : op.onInts op.neutral n = n := by
  cases op <;> simp [onInts, neutral]

theorem onInts_assoc (op : Variadic) (k m n : Int) :
    op.onInts (op.onInts k m) n = op.onInts k (op.onInts m n) := by
  cases op
  · exact Int.add_assoc k m n
  · exact Int.mul_assoc k m n

theorem combine_cons_int (op : Variadic) {v : Value} {n : Int}
    (h : v.toNumber? = some (.int n)) (total : Int) (rest : List (Except Fault Value)) :
    op.combine (.int total) (.ok v :: rest) = op.combine (.int (op.onInts total n)) rest := by
  have hnumber : orTooLarge v.toNumber? = .ok (.int n) := by rw [h]; rfl
  have hstep : orTooLarge (op.step? (.int total) (.int n)) = .ok (.int (op.onInts total n)) := by
    rw [step?_ints]; rfl
  simp only [combine, hnumber, hstep, bind, Except.bind]

theorem combine_append (op : Variadic) (total : Number) (front back : List (Except Fault Value)) :
    op.combine total (front ++ back) =
      op.combine total front >>= fun next => op.combine next back := by
  induction front generalizing total with
  | nil => rfl
  | cons operand front ih => simp only [List.cons_append, combine, ih, bind_assoc]

/-- Integers change any integer they are combined with by one and the same integer. -/
theorem combine_of_ints (op : Variadic) {operands : List (Except Fault Value)}
    (h : ∀ x ∈ operands, ComesToInt x) :
    ∃ n : Int, ∀ total, op.combine (.int total) operands = .ok (.int (op.onInts total n)) := by
  induction operands with
  | nil => exact ⟨op.neutral, fun total => by rw [onInts_neutral]; rfl⟩
  | cons x rest ih =>
    obtain ⟨v, rfl, m, hm⟩ := h x (by simp)
    obtain ⟨n, hn⟩ := ih fun y hy => h y (by simp [hy])
    refine ⟨op.onInts m n, fun total => ?_⟩
    rw [combine_cons_int op hm, hn, onInts_assoc]

theorem attempt_eq_of_combine {op : Variadic} {operands others : List (Except Fault Value)}
    (he : operands = [] ↔ others = [])
    (h : op.combine (.int op.neutral) operands = op.combine (.int op.neutral) others) :
    op.attempt operands = op.attempt others := by
  have hb : operands.isEmpty = others.isEmpty := by
    rw [Bool.eq_iff_iff, List.isEmpty_iff, List.isEmpty_iff, he]
  rw [attempt, attempt, hb, h]

end Variadic

namespace Expr

/-- Wherever a sum is an operand of a sum, or a product of a product, all operands of both of them
count as integers. -/
def ExactNesting (row : Entries) (e : Expr) : Prop :=
  ∀ op outer inner, Within (.variadic op outer) e → .variadic op inner ∈ outer →
    ∀ arg ∈ outer ++ inner, ComesToInt (arg.evaluate? row)

theorem ExactNesting.operand {row : Entries} {e arg : Expr} (h : ExactNesting row e)
    (ha : arg ∈ e.operands) : ExactNesting row arg :=
  fun op outer inner hw => h op outer inner (.operand ha hw)

theorem exactNesting_of_operands {row : Entries} {e : Expr}
    (below : ∀ arg ∈ e.operands, ExactNesting row arg)
    (here : ∀ op outer inner, e = .variadic op outer → .variadic op inner ∈ outer →
      ∀ arg ∈ outer ++ inner, ComesToInt (arg.evaluate? row)) : ExactNesting row e := by
  intro op outer inner hw
  cases hw with
  | self => exact here op outer inner rfl
  | operand ha hw => exact below _ ha op outer inner hw

theorem exactNesting_of_no_operands {row : Entries} {e : Expr} (h : e.operands = []) :
    ExactNesting row e := by
  apply exactNesting_of_operands
  · simp [h]
  · rintro op outer inner rfl hm
    rw [operands] at h
    simp [h] at hm

theorem mem_splice {op : Variadic} {e x : Expr} (h : x ∈ splice op e) :
    x = e ∨ ∃ args, e = .variadic op args ∧ x ∈ args := by
  rcases splice_cases op e with hs | ⟨args, he, hs⟩
  · exact Or.inl (by simpa [hs] using h)
  · exact Or.inr ⟨args, he, hs ▸ h⟩

theorem evaluate?_variadic_of_ints {row : Entries} {op : Variadic} {args : List Expr} {n : Int}
    (hne : args ≠ [])
    (h : ∀ total, op.combine (.int total) (args.map (evaluate? row)) =
      .ok (.int (op.onInts total n))) : (variadic op args).evaluate? row = .ok (.int n) := by
  have hempty : (args.map (evaluate? row)).isEmpty = false := by simpa using hne
  rw [evaluate?, attempt_variadic, Variadic.attempt, hempty, h, op.neutral_onInts]
  rfl

/-- Operands that are integers may be spliced. -/
theorem combine_flatMap_splice {row : Entries} (op : Variadic) {es : List Expr}
    (ints : ∀ e ∈ es, ComesToInt (e.evaluate? row))
    (inner : ∀ args, .variadic op args ∈ es → ∀ arg ∈ args, ComesToInt (arg.evaluate? row))
    (total : Int) :
    op.combine (.int total) ((es.flatMap (splice op)).map (evaluate? row)) =
      op.combine (.int total) (es.map (evaluate? row)) := by
  induction es generalizing total with
  | nil => rfl
  | cons e es ih =>
    obtain ⟨v, hv, n, hn⟩ := ints e (by simp)
    have ih := ih (fun x hx => ints x (by simp [hx]))
      (fun args ha => inner args (by simp [ha])) (op.onInts total n)
    rw [List.flatMap_cons, List.map_append, List.map_cons, Variadic.combine_append, hv,
      Variadic.combine_cons_int op hn, ← ih]
    rcases splice_cases op e with hs | ⟨args, rfl, hs⟩
    · rw [hs, List.map_singleton, hv, Variadic.combine_cons_int op hn]
      rfl
    · have hargs : ∀ x ∈ args.map (evaluate? row), ComesToInt x := by
        intro x hx
        obtain ⟨arg, ha, rfl⟩ := List.mem_map.mp hx
        exact inner args (by simp) arg ha
      obtain ⟨m, hm⟩ := op.combine_of_ints hargs
      have hne : args ≠ [] := hs ▸ splice_ne_nil op (.variadic op args)
      obtain rfl : v = .int m := Except.ok.inj (hv.symm.trans (evaluate?_variadic_of_ints hne hm))
      obtain rfl : m = n := by simpa [Value.toNumber?] using hn
      rw [hs, hm]
      rfl

theorem isNode_canonical (e : Expr) : e.canonical.isNode = e.isNode := by
  cases e <;> simp [canonical, isNode]

theorem variadic_of_canonical {e : Expr} {op : Variadic} {args : List Expr}
    (h : e.canonical = .variadic op args) :
    ∃ given, e = .variadic op given ∧ args = (given.map canonical).flatMap (splice op) := by
  cases e with
  | variadic other given =>
    rw [canonical_variadic] at h
    obtain ⟨rfl, rfl⟩ := Expr.variadic.inj h
    exact ⟨given, rfl, rfl⟩
  | _ => simp [canonical] at h

theorem flatMap_splice_eq_nil_iff {op : Variadic} {es : List Expr} :
    es.flatMap (splice op) = [] ↔ es = [] := by
  rw [List.flatMap_eq_nil_iff]
  constructor
  · intro h
    apply List.eq_nil_iff_forall_not_mem.mpr
    exact fun e he => splice_ne_nil op e (h e he)
  · rintro rfl
    simp

/-- Where no operand is spliced, the operands stay as they are. -/
theorem flatMap_splice_of_none {op : Variadic} {es : List Expr}
    (h : ∀ args, .variadic op args ∉ es) : es.flatMap (splice op) = es := by
  induction es with
  | nil => rfl
  | cons e es ih =>
    have he : ∀ args, e ≠ .variadic op args := fun args heq => h args (by simp [heq])
    have hes : ∀ args, .variadic op args ∉ es := fun args hm => h args (by simp [hm])
    rw [List.flatMap_cons, splice_of_not_variadic he, ih hes, List.singleton_append]

theorem attempt_canonical_variadic {row : Entries} {op : Variadic} {args : List Expr}
    (nesting : ExactNesting row (.variadic op args))
    (same : ∀ arg ∈ args, arg.canonical.evaluate? row = arg.evaluate? row)
    (spliced : ∀ given, .variadic op given ∈ args →
      (∀ arg ∈ given, ComesToInt (arg.evaluate? row)) →
      ∀ arg ∈ (given.map canonical).flatMap (splice op), ComesToInt (arg.evaluate? row)) :
    (variadic op args).canonical.attempt row = (variadic op args).attempt row := by
  have hmap : (args.map canonical).map (evaluate? row) = args.map (evaluate? row) := by
    rw [List.map_map]
    exact List.map_congr_left same
  rw [canonical_variadic, attempt_variadic, attempt_variadic]
  apply Variadic.attempt_eq_of_combine
  · rw [List.map_eq_nil_iff, List.map_eq_nil_iff, flatMap_splice_eq_nil_iff, List.map_eq_nil_iff]
  · rw [← hmap]
    by_cases nested : ∃ given, .variadic op given ∈ args
    · obtain ⟨given, hg⟩ := nested
      have ints : ∀ arg ∈ args, ComesToInt (arg.evaluate? row) := fun arg ha =>
        nesting op args given (.self _) hg arg (List.mem_append_left _ ha)
      apply combine_flatMap_splice
      · intro e he
        obtain ⟨arg, ha, rfl⟩ := List.mem_map.mp he
        exact (same arg ha).symm ▸ ints arg ha
      · intro inner he
        obtain ⟨arg, ha, hc⟩ := List.mem_map.mp he
        obtain ⟨given, rfl, rfl⟩ := variadic_of_canonical hc
        exact spliced given ha fun y hy =>
          nesting op args given (.self _) ha y (List.mem_append_right _ hy)
    · rw [flatMap_splice_of_none]
      intro inner he
      obtain ⟨arg, ha, hc⟩ := List.mem_map.mp he
      obtain ⟨given, rfl, -⟩ := variadic_of_canonical hc
      exact nested ⟨given, ha⟩

/-- What the canonical form keeps: what every expression comes to, and that the operands of a sum
or product are integers. -/
theorem canonical_keeps {row : Entries} (e : Expr) (nesting : ExactNesting row e) :
    e.canonical.attempt row = e.attempt row ∧
      ∀ op args, e = .variadic op args → (∀ arg ∈ args, ComesToInt (arg.evaluate? row)) →
        ∀ arg ∈ (args.map canonical).flatMap (splice op), ComesToInt (arg.evaluate? row) := by
  induction e using operand_induction with
  | step e ih =>
    have same : ∀ arg ∈ e.operands, arg.canonical.attempt row = arg.attempt row :=
      fun arg ha => (ih arg ha (nesting.operand ha)).1
    have sameValue : ∀ arg ∈ e.operands, arg.canonical.evaluate? row = arg.evaluate? row :=
      fun arg ha => congrArg contain (same arg ha)
    have spliced : ∀ op args, e = .variadic op args →
        (∀ arg ∈ args, ComesToInt (arg.evaluate? row)) →
        ∀ arg ∈ (args.map canonical).flatMap (splice op), ComesToInt (arg.evaluate? row) := by
      rintro op args rfl ints x hx
      obtain ⟨c, hc, hxc⟩ := List.mem_flatMap.mp hx
      obtain ⟨arg, ha, rfl⟩ := List.mem_map.mp hc
      rcases mem_splice hxc with rfl | ⟨inner, hinner, hxi⟩
      · rw [sameValue arg ha]
        exact ints arg ha
      · obtain ⟨given, rfl, rfl⟩ := variadic_of_canonical hinner
        apply (ih _ ha (nesting.operand ha)).2 op given rfl _ x hxi
        intro y hy
        exact nesting op args given (.self _) ha y (List.mem_append_right _ hy)
    refine ⟨?_, spliced⟩
    cases e with
    | variadic op args =>
      exact attempt_canonical_variadic nesting sameValue fun given hg =>
        (ih _ hg (nesting.operand hg)).2 op given rfl
    | binary op left right =>
      rw [canonical, attempt, attempt, same left (by simp [operands]),
        same right (by simp [operands])]
    | connective op args =>
      have hargs : args.map (evaluate? row ∘ canonical) = args.map (evaluate? row) :=
        List.map_congr_left sameValue
      rw [canonical, canonicalAll_eq_map, attempt_connective, attempt_connective, List.map_map,
        hargs]
    | not arg =>
      rw [canonical, attempt, attempt, isNode_canonical, same arg (by simp [operands])]
    | cond test yes no =>
      rw [canonical, attempt, attempt, isNode_canonical, isNode_canonical, isNode_canonical,
        same test (by simp [operands]), same yes (by simp [operands]),
        same no (by simp [operands])]
    | regex subject pattern flags =>
      cases pattern with
      | none => rfl
      | some p =>
        rw [canonical, attempt, attempt, isNode_canonical, same subject (by simp [operands])]
    | _ => rfl

end Expr

/-- Bringing a node into canonical form keeps what it comes to over every row, a value with its kind
or a fault: exact integers may be regrouped, and nothing else is. -/
theorem evaluate_normalize (node : Value) (row : Entries)
    (nesting : (Expr.ofValue node).ExactNesting row) :
    evaluate? (normalize node) row = evaluate? node row := by
  rw [evaluate?, evaluate?, Expr.ofValue_normalize]
  exact congrArg Expr.contain (Expr.canonical_keeps (Expr.ofValue node) nesting).1

/-- The comparison `(n + " ") + 9007199254740993 == 0.0 / 0`, where the sum in the sum is written
with `left` and `right`, and the comparison with a symbol. -/
def nestedSum : Value :=
  let const (v : Value) : Value := .object [("op", .str "const"), ("value", v)]
  let n : Value := .object [("op", .str "field"), ("fieldId", .str "n")]
  let inner : Value := .object [("op", .str "add"), ("left", n), ("right", const (.str " "))]
  let sum : Value :=
    .object [("op", .str "add"), ("args", .list [inner, const (.int (9007199254740993))])]
  let quotient : Value :=
    .object [("op", .str "div"), ("left", const (.float .zero)), ("right", const (.int 0))]
  .object [("op", .str "=="), ("args", .list [sum, quotient])]

theorem evaluate_normalize_nestedSum :
    (Expr.ofValue nestedSum).ExactNesting [("n", .int 7)] ∧
      evaluate? (normalize nestedSum) [("n", .int 7)] = evaluate? nestedSum [("n", .int 7)] := by
  have hread : Expr.ofValue nestedSum = .binary .eq
      (.variadic .add [.variadic .add [.field (some "n"), .const (.str " ")],
        .const (.int (9007199254740993))])
      (.binary .div (.const (.float .zero)) (.const (.int 0))) := by
    rfl
  have inner : (Expr.variadic .add [.field (some "n"), .const (.str " ")]).ExactNesting
      [("n", .int 7)] := by
    apply Expr.exactNesting_of_operands
    · simp only [Expr.operands, List.forall_mem_cons]
      exact ⟨Expr.exactNesting_of_no_operands rfl, Expr.exactNesting_of_no_operands rfl, by simp⟩
    · rintro op outer inner ⟨⟩ hm
      simp at hm
  have sum : (Expr.variadic .add [.variadic .add [.field (some "n"), .const (.str " ")],
      .const (.int (9007199254740993))]).ExactNesting [("n", .int 7)] := by
    apply Expr.exactNesting_of_operands
    · simp only [Expr.operands, List.forall_mem_cons]
      exact ⟨inner, Expr.exactNesting_of_no_operands rfl, by simp⟩
    · rintro op outer given ⟨⟩ hm
      obtain rfl : given = [.field (some "n"), .const (.str " ")] := by simpa using hm
      simp only [List.cons_append, List.nil_append, List.forall_mem_cons]
      exact ⟨⟨_, rfl, 7, rfl⟩, ⟨_, rfl, 9007199254740993, rfl⟩, ⟨_, rfl, 7, rfl⟩, ⟨_, rfl, 0, rfl⟩,
        by simp⟩
  have quotient : (Expr.binary .div (.const (.float .zero)) (.const (.int 0))).ExactNesting
      [("n", .int 7)] := by
    apply Expr.exactNesting_of_operands
    · simp only [Expr.operands, List.forall_mem_cons]
      exact ⟨Expr.exactNesting_of_no_operands rfl, Expr.exactNesting_of_no_operands rfl, by simp⟩
    · rintro op outer inner ⟨⟩
  have nesting : (Expr.ofValue nestedSum).ExactNesting [("n", .int 7)] := by
    rw [hread]
    apply Expr.exactNesting_of_operands
    · simp only [Expr.operands, List.forall_mem_cons]
      exact ⟨sum, quotient, by simp⟩
    · rintro op outer inner ⟨⟩
  exact ⟨nesting, evaluate_normalize nestedSum [("n", .int 7)] nesting⟩

end GridRules
