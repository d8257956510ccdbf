import GridRules.Proofs.CanonicalForms
import GridRules.Proofs.LocalRuns

namespace GridRules

open Canonical (form signedText)

section Texts

variable {α β γ : Type}

/-- Lists are equal if two things that together tell their items apart are. -/
theorem eq_of_map_eq {f : α → β} {g : α → γ} {items items' : List α}
    (h : ∀ a ∈ items, ∀ b ∈ items', f a = f b → g a = g b → a = b)
    (hf : items.map f = items'.map f) (hg : items.map g = items'.map g) : items = items' := by
  induction items generalizing items' with
  | nil => simpa using hf
  | cons a rest ih =>
    cases items' with
    | nil => simp at hf
    | cons b rest' =>
      simp only [List.map_cons, List.cons.injEq] at hf hg
      obtain rfl := h a (by simp) b (by simp) hf.1 hg.1
      rw [ih (fun x hx y hy => h x (by simp [hx]) y (by simp [hy])) hf.2 hg.2]

theorem append_cons_inj {separator : α} {front front' back back' : List α}
    (hfront : separator ∉ front) (hfront' : separator ∉ front')
    (h : front ++ separator :: back = front' ++ separator :: back') :
    front = front' ∧ back = back' := by
  induction front generalizing front' with
  | nil =>
    cases front' with
    | nil => exact ⟨rfl, (List.cons.inj h).2⟩
    | cons a rest' => exact absurd (List.mem_cons.mpr (.inl (List.cons.inj h).1)) hfront'
  | cons a rest ih =>
    cases front' with
    | nil => exact absurd (List.mem_cons.mpr (.inl (List.cons.inj h).1.symm)) hfront
    | cons b rest' =>
      obtain ⟨rfl, hrest⟩ := List.cons.inj h
      obtain ⟨rfl, rfl⟩ := ih (mt (List.mem_cons_of_mem a) hfront)
        (mt (List.mem_cons_of_mem a) hfront') hrest
      exact ⟨rfl, rfl⟩

theorem joined_inj {separator : Char} {a b a' b' between : String}
    (hbetween : between.toList = [separator]) (ha : separator ∉ a.toList)
    (ha' : separator ∉ a'.toList) (h : a ++ between ++ b = a' ++ between ++ b') :
    a = a' ∧ b = b' := by
  have h := congrArg String.toList h
  simp only [String.toList_append, hbetween, List.append_assoc, List.singleton_append] at h
  exact (append_cons_inj ha ha' h).imp String.toList_inj.mp String.toList_inj.mp

end Texts

attribute [ext] TrackerGrid TrackerField LayoutNode TrackerSection

/-- The texts that a version joins ids with other texts by can be taken apart. -/
structure Tracker.Unjoined (tracker : Tracker) : Prop where
  fields : ∀ field ∈ tracker.fields, ':' ∉ field.id.toList
  nodes : ∀ node ∈ tracker.layoutNodes, '.' ∉ node.gridId.toList
  sections : ∀ place ∈ tracker.sections, ':' ∉ place.id.toList ∧ place.tabId ≠ some "None"

namespace OptionsContext

/-- Two contexts agree in what their versions leave out: the connectors, the tabs, the names of
sections and grids and where grids belong, the labels and configurations of fields, the order that
layout nodes state, and the spelling of numbers and the order of keys in rows. The texts that their
versions join can be taken apart. -/
structure AgreeBesides (context other : OptionsContext) : Prop where
  unjoined : context.tracker.Unjoined
  unjoined' : other.tracker.Unjoined
  connectors : ∀ id, id ∈ context.connectors.keys ↔ id ∈ other.connectors.keys
  tabs : context.tracker.tabs = other.tracker.tabs
  sections : context.tracker.sections.map TrackerSection.name =
    other.tracker.sections.map TrackerSection.name
  grids : context.tracker.grids.map (fun grid => (grid.name, grid.sectionId, grid.type)) =
    other.tracker.grids.map fun grid => (grid.name, grid.sectionId, grid.type)
  fields : context.tracker.fields.map (fun field => (field.uiLabel, field.config)) =
    other.tracker.fields.map fun field => (field.uiLabel, field.config)
  nodes : context.tracker.layoutNodes.map LayoutNode.order =
    other.tracker.layoutNodes.map LayoutNode.order
  gridData : form (.object context.gridData) = form (.object other.gridData) →
    context.gridData = other.gridData
  row : form (.object (context.runtime.row.getD [])) = form (.object (other.runtime.row.getD [])) →
    context.runtime.row.getD [] = other.runtime.row.getD []

theorem AgreeBesides.refl {context : OptionsContext} (unjoined : context.tracker.Unjoined) :
    context.AgreeBesides context :=
  ⟨unjoined, unjoined, fun _ => .rfl, rfl, rfl, rfl, rfl, rfl, fun _ => rfl, fun _ => rfl⟩

section Version

variable {context other : OptionsContext}

theorem form_observed (h : signedText context.observed = signedText other.observed) :
    form context.observed = form other.observed :=
  Canonical.form_eq_of_signedText_object (by decide) (by decide) h

theorem optional_alike {α : Type} {write : α → Value} {a b : Option α}
    (hnull : ∀ x, form (write x) ≠ .null) (hinj : ∀ x y, form (write x) = form (write y) → x = y)
    (h : form (optionalValue write a) = form (optionalValue write b)) : a = b := by
  cases a with
  | none =>
    cases b with
    | none => rfl
    | some y => exact absurd h.symm (hnull y)
  | some x =>
    cases b with
    | none => exact absurd h (hnull x)
    | some y => rw [hinj x y h]

theorem runtime_eq (h : form context.runtime.toValue = form other.runtime.toValue)
    (row : form (.object (context.runtime.row.getD [])) =
        form (.object (other.runtime.row.getD [])) →
      context.runtime.row.getD [] = other.runtime.row.getD []) :
    { context.runtime with row := some (context.runtime.row.getD []) } =
      { other.runtime with row := some (other.runtime.row.getD []) } := by
  have htext (a b : Option String)
      (h : form (optionalValue .str a) = form (optionalValue .str b)) : a = b :=
    optional_alike (fun x => by simp [form]) (fun _ _ => Canonical.str_alike) h
  have hgrid := htext _ _ (Canonical.getD_alike h "currentGridId")
  have hfield := htext _ _ (Canonical.getD_alike h "currentFieldId")
  have hindex : context.runtime.rowIndex = other.runtime.rowIndex :=
    optional_alike (fun x => by simp [form]) (fun x y h => by simpa [form] using h)
      (Canonical.getD_alike h "rowIndex")
  have hrow := row (Canonical.getD_alike h "currentRow")
  simp only [hgrid, hfield, hindex, hrow]

theorem tabId_eq {a b : Option String} (ha : a ≠ some "None") (hb : b ≠ some "None")
    (h : (optionalValue .str a).display = (optionalValue .str b).display) : a = b := by
  cases a with
  | none =>
    cases b with
    | none => rfl
    | some t => exact absurd (congrArg some h.symm) hb
  | some s =>
    cases b with
    | none => exact absurd (congrArg some h) ha
    | some t => exact congrArg some h

/-- Contexts with the same version look the same, if they agree in what versions leave out. -/
theorem seen_eq (h : signedText context.observed = signedText other.observed)
    (agree : context.AgreeBesides other) : context.seen = other.seen := by
  have h := form_observed h
  have unjoined := agree.unjoined
  have unjoined' := agree.unjoined'
  have hgrids : context.tracker.grids = other.tracker.grids := by
    refine eq_of_map_eq (fun a _ b _ hid hrest => ?_)
      (Canonical.map_alike (fun _ _ => Canonical.str_alike) (Canonical.getD_alike h "grids"))
      agree.grids
    obtain ⟨hname, hsection, htype⟩ : _ ∧ _ ∧ _ := by simpa using hrest
    exact TrackerGrid.ext hid hname hsection htype
  have hfields : context.tracker.fields = other.tracker.fields := by
    refine eq_of_map_eq (fun a ha b hb hjoined hrest => ?_)
      (Canonical.map_alike (fun _ _ => Canonical.str_alike) (Canonical.getD_alike h "fields"))
      agree.fields
    obtain ⟨hid, htype⟩ := joined_inj (by decide) (unjoined.fields a ha) (unjoined'.fields b hb)
      hjoined
    obtain ⟨hlabel, hconfig⟩ := Prod.mk.inj hrest
    exact TrackerField.ext hid htype hlabel hconfig
  have hnodes : context.tracker.layoutNodes = other.tracker.layoutNodes := by
    refine eq_of_map_eq (fun a ha b hb hjoined horder => ?_)
      (Canonical.map_alike (fun _ _ => Canonical.str_alike) (Canonical.getD_alike h "layoutNodes"))
      agree.nodes
    obtain ⟨hgrid, hfield⟩ := joined_inj (by decide) (unjoined.nodes a ha) (unjoined'.nodes b hb)
      hjoined
    exact LayoutNode.ext hgrid hfield horder
  have hsections : context.tracker.sections = other.tracker.sections := by
    refine eq_of_map_eq (fun a ha b hb hjoined hname => ?_)
      (Canonical.map_alike (fun _ _ => Canonical.str_alike) (Canonical.getD_alike h "sections"))
      agree.sections
    obtain ⟨hid, htab⟩ := joined_inj (by decide) (unjoined.sections a ha).1
      (unjoined'.sections b hb).1 hjoined
    exact TrackerSection.ext hid hname
      (tabId_eq (unjoined.sections a ha).2 (unjoined'.sections b hb).2 htab)
  have hdata := agree.gridData (Canonical.getD_alike h "gridData")
  have hruntime := runtime_eq (Canonical.getD_alike h "runtime") agree.row
  simp only [seen, agree.tabs, hgrids, hfields, hnodes, hsections, hdata, hruntime]

end Version

end OptionsContext

end GridRules
