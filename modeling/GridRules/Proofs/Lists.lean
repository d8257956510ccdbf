import GridRules.Calculation.Plan
import Mathlib.Data.List.Forall2
import Mathlib.Data.List.Nodup

namespace GridRules

section Concat

variable {α : Type} {items : List α} {last x : α}

theorem mem_concat : x ∈ items ++ [last] ↔ x ∈ items ∨ x = last := by
  simp

theorem nodup_concat (distinct : items.Nodup) (h : last ∉ items) : (items ++ [last]).Nodup := by
  apply List.nodup_append.mpr
  refine ⟨distinct, by simp, ?_⟩
  rintro x hx y hy rfl
  exact h (List.mem_singleton.mp hy ▸ hx)

theorem not_mem_front {front back : List α} (distinct : (front ++ x :: back).Nodup) : x ∉ front :=
  fun hx => (List.nodup_cons.mp (List.nodup_middle.mp distinct)).1 (List.mem_append_left back hx)

end Concat

section Runs

variable {α : Type} {p : α → Bool} {front back : List α}

/-- A run of items ends before the first item of another kind. -/
theorem takeWhile_run (hfront : ∀ x ∈ front, p x = true) (hback : ∀ x ∈ back.head?, p x = false) :
    (front ++ back).takeWhile p = front := by
  rw [List.takeWhile_append_of_pos hfront]
  cases back with
  | nil => simp
  | cons x rest => simp [hback x rfl]

theorem dropWhile_run (hfront : ∀ x ∈ front, p x = true) (hback : ∀ x ∈ back.head?, p x = false) :
    (front ++ back).dropWhile p = back := by
  rw [List.dropWhile_append_of_pos hfront]
  cases back with
  | nil => rfl
  | cons x rest => simp [hback x rfl]

end Runs

theorem map_eq_map_iff_forall₂ {α β γ : Type} {f : α → γ} {g : β → γ} {xs : List α} {ys : List β} :
    xs.map f = ys.map g ↔ List.Forall₂ (fun x y => f x = g y) xs ys := by
  rw [← List.forall₂_eq_eq_eq, List.forall₂_map_left_iff, List.forall₂_map_right_iff]

section Texts

variable {s t : String} {c : Char}

theorem head?_toList_append (h : s.toList.head? = some c) : (s ++ t).toList.head? = some c := by
  rw [String.toList_append, List.head?_append, h, Option.some_or]

theorem getLast?_toList_append (h : t.toList.getLast? = some c) :
    (s ++ t).toList.getLast? = some c := by
  rw [String.toList_append, List.getLast?_append, h, Option.some_or]

/-- The text goes on from this beginning. -/
def BeginsWith (front text : String) : Prop :=
  ∃ rest, text = front ++ rest

namespace BeginsWith

variable {front text : String}

theorem append (h : BeginsWith front text) (more : String) :
    BeginsWith front (text ++ more) := by
  obtain ⟨rest, rfl⟩ := h
  exact ⟨rest ++ more, String.append_assoc⟩

theorem isPrefix (h : BeginsWith front text) : front.toList <+: text.toList := by
  obtain ⟨rest, rfl⟩ := h
  rw [String.toList_append]
  exact List.prefix_append _ _

end BeginsWith

end Texts

theorem mem_addNew {items : List String} {item x : String} :
    x ∈ addNew items item ↔ x ∈ items ∨ x = item := by
  unfold addNew
  split
  next h =>
    have hm : item ∈ items := by simpa using h
    constructor
    · exact Or.inl
    · rintro (hx | rfl)
      · exact hx
      · exact hm
  next => simp

theorem addNew_nodup {items : List String} (h : items.Nodup) (item : String) :
    (addNew items item).Nodup := by
  unfold addNew
  split
  next => exact h
  next hn =>
    have hm : item ∉ items := by simpa using hn
    exact nodup_concat h hm

theorem mem_foldl_addNew {more items : List String} {x : String} :
    x ∈ more.foldl addNew items ↔ x ∈ items ∨ x ∈ more := by
  induction more generalizing items with
  | nil => simp
  | cons y more ih =>
    simp only [List.foldl_cons, ih, mem_addNew, List.mem_cons, or_assoc]

theorem foldl_addNew_nodup {items : List String} (h : items.Nodup) (more : List String) :
    (more.foldl addNew items).Nodup := by
  induction more generalizing items with
  | nil => exact h
  | cons y more ih => exact ih (addNew_nodup h y)

/-- Adding keeps what is there in its place. -/
theorem foldl_addNew_prefix (items more : List String) :
    items <+: more.foldl addNew items := by
  induction more generalizing items with
  | nil => exact List.prefix_refl items
  | cons y more ih =>
    have hy : items <+: addNew items y := by
      unfold addNew
      split
      next => exact List.prefix_refl items
      next => exact List.prefix_append items [y]
    exact hy.trans (ih (addNew items y))

end GridRules
