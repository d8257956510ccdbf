import GridRules.Fault
import Mathlib.Data.List.Forall2

namespace GridRules

section Results

variable {ε α β : Type}

theorem bind_eq_ok_iff {x : Except ε α} {f : α → Except ε β} {b : β} :
    (x >>= f) = .ok b ↔ ∃ a, x = .ok a ∧ f a = .ok b := by
  cases x with
  | error e => simp [bind, Except.bind]
  | ok a => simp [bind, Except.bind]

theorem map_eq_ok_iff {x : Except ε α} {f : α → β} {b : β} :
    x.map f = .ok b ↔ ∃ a, x = .ok a ∧ f a = b := by
  cases x <;> simp [Except.map]

theorem pure_eq_ok_iff {a b : α} : (pure a : Except ε α) = .ok b ↔ a = b := by
  simp [pure, Except.pure]

theorem orTooLarge_eq_ok_iff {o : Option α} {a : α} : orTooLarge o = .ok a ↔ o = some a := by
  cases o <;> simp [orTooLarge]

/-- Where a computation on all items comes to a result, it does so on each of them. -/
theorem forall₂_of_mapM_ok {f : α → Except ε β} {items : List α} {results : List β}
    (h : items.mapM f = .ok results) :
    List.Forall₂ (fun a b => f a = .ok b) items results := by
  induction items generalizing results with
  | nil =>
    rw [List.mapM_nil] at h
    obtain rfl := pure_eq_ok_iff.mp h
    exact .nil
  | cons a items ih =>
    rw [List.mapM_cons] at h
    obtain ⟨b, hb, h⟩ := bind_eq_ok_iff.mp h
    obtain ⟨rest, hrest, h⟩ := bind_eq_ok_iff.mp h
    obtain rfl := pure_eq_ok_iff.mp h
    exact .cons hb (ih hrest)

theorem mapM_congr {f g : α → Except ε β} {items : List α} (h : ∀ a ∈ items, f a = g a) :
    items.mapM f = items.mapM g := by
  induction items with
  | nil => rfl
  | cons a items ih =>
    obtain ⟨ha, hitems⟩ := List.forall_mem_cons.mp h
    rw [List.mapM_cons, List.mapM_cons, ha, ih hitems]

/-- Two computations break off in the same way, or come to results that are related. -/
def AgreeBy (R : α → β → Prop) : Except ε α → Except ε β → Prop
  | .ok a, .ok b => R a b
  | .error e, .error e' => e = e'
  | _, _ => False

namespace AgreeBy

variable {γ δ : Type} {R : α → β → Prop} {x : Except ε α} {y : Except ε β}

theorem bind {S : γ → δ → Prop} {f : α → Except ε γ} {g : β → Except ε δ} (h : AgreeBy R x y)
    (hfg : ∀ a b, R a b → AgreeBy S (f a) (g b)) : AgreeBy S (x >>= f) (y >>= g) := by
  cases x with
  | error e =>
    cases y with
    | error e' => exact h
    | ok b => cases h
  | ok a =>
    cases y with
    | error e' => cases h
    | ok b => exact hfg a b h

theorem bind_eq {f : α → Except ε γ} {g : β → Except ε γ} (h : AgreeBy R x y)
    (hfg : ∀ a b, R a b → f a = g b) : x.bind f = y.bind g := by
  cases x with
  | error e =>
    cases y with
    | error e' => exact congrArg Except.error h
    | ok b => cases h
  | ok a =>
    cases y with
    | error e' => cases h
    | ok b => exact hfg a b h

theorem eq {x y : Except ε α} (h : AgreeBy Eq x y) : x = y := by
  cases x with
  | error e =>
    cases y with
    | error e' => exact congrArg Except.error h
    | ok b => cases h
  | ok a =>
    cases y with
    | error e' => cases h
    | ok b => exact congrArg Except.ok h

theorem mapM {items : List γ} {f : γ → Except ε α} {g : γ → Except ε β}
    (h : ∀ c ∈ items, AgreeBy R (f c) (g c)) :
    AgreeBy (List.Forall₂ R) (items.mapM f) (items.mapM g) := by
  induction items with
  | nil => exact .nil
  | cons c items ih =>
    rw [List.mapM_cons, List.mapM_cons]
    refine (h c List.mem_cons_self).bind fun a b hab => ?_
    refine (ih fun d hd => h d (List.mem_cons_of_mem c hd)).bind fun as bs habs => ?_
    exact .cons hab habs

end AgreeBy

end Results

end GridRules
