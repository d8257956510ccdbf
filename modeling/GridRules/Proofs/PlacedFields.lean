import GridRules.Options.Builtin
import GridRules.Options.LayoutRows
import GridRules.Proofs.AcceptedCalculations
/-!
The placed fields of a tracker are listed twice, as rows and as the options of builtin functions.
Both lists go through the layout in order, and they differ only in which grids are on the shared
tab. For the rows the section of a grid is the last one with its section id, and the empty id stands
for no section; for the options one section of that id on the shared tab is enough.
-/

namespace GridRules

namespace Tracker

/-- Whether a node places a visible field in a grid that is not left out. -/
def shows (tracker : Tracker) (leftOut : TrackerGrid → Bool) (node : LayoutNode) : Bool :=
  match tracker.grid? node.gridId, tracker.field? node.fieldId with
  | some grid, some field => !(field.isHidden || leftOut grid)
  | _, _ => false

/-- The paths of the visible fields, except those in grids that are left out. -/
def shownPaths (tracker : Tracker) (leftOut : TrackerGrid → Bool) : List Value :=
  (tracker.layoutNodes.filter (tracker.shows leftOut)).map fun node => .str node.path

/-- Whether the section of a grid is on the shared tab. -/
def isInShared (tracker : Tracker) (grid : TrackerGrid) : Bool :=
  (tracker.sectionOf? grid).any TrackerSection.isShared

/-- Whether any section with the section id of a grid is on the shared tab. -/
def mayBeInShared (tracker : Tracker) (grid : TrackerGrid) : Bool :=
  grid.sectionId.any fun id => tracker.sections.any fun place => place.id == id && place.isShared

/-- Where a visible field is placed in a grid that has the id of a section on the shared tab, the id
is not empty, and the last section that has it is on the shared tab. -/
def SharedSectionsCount (tracker : Tracker) : Prop :=
  ∀ node ∈ tracker.layoutNodes, ∀ grid field,
    tracker.grid? node.gridId = some grid → tracker.field? node.fieldId = some field →
    field.isHidden = false → ∀ place ∈ tracker.sections, place.isShared = true →
    grid.sectionId = some place.id →
      place.id ≠ "" ∧ (tracker.section? place.id).any TrackerSection.isShared = true

section

variable {tracker : Tracker}

theorem shows_eq_true_iff {leftOut : TrackerGrid → Bool} {node : LayoutNode} :
    tracker.shows leftOut node = true ↔ ∃ grid field, tracker.grid? node.gridId = some grid ∧
      tracker.field? node.fieldId = some field ∧ field.isHidden = false ∧ leftOut grid = false := by
  unfold shows
  cases tracker.grid? node.gridId <;> cases tracker.field? node.fieldId <;> simp

/-- A list with an item for each node, unless its grid or field does not exist or it is left out. -/
theorem map_filterMap_eq_shownPaths {α : Type} {leftOut : TrackerGrid → Bool}
    {item? : LayoutNode → Option α} {path : α → Value}
    (absent : ∀ node, tracker.grid? node.gridId = none ∨ tracker.field? node.fieldId = none →
      item? node = none)
    (present : ∀ node grid field, tracker.grid? node.gridId = some grid →
      tracker.field? node.fieldId = some field → (item? node).map path =
        if field.isHidden || leftOut grid then none else some (.str node.path)) :
    (tracker.layoutNodes.filterMap item?).map path = tracker.shownPaths leftOut := by
  rw [List.map_filterMap, shownPaths, ← List.filterMap_eq_map, List.filterMap_filter]
  refine congrArg (List.filterMap · _) (funext fun node => ?_)
  cases hgrid : tracker.grid? node.gridId with
  | none => simp [absent node (.inl hgrid), shows, hgrid]
  | some grid =>
    cases hfield : tracker.field? node.fieldId with
    | none => simp [absent node (.inr hfield), shows, hgrid, hfield]
    | some field =>
      rw [present node grid field hgrid hfield]
      cases hout : field.isHidden || leftOut grid <;> simp [shows, hgrid, hfield, hout]

theorem map_path_layoutRows (placed : tracker.layoutNodes ≠ []) (withoutShared : Bool) :
    (tracker.layoutRows ⟨false, withoutShared⟩).map (·.getD "path") =
      tracker.shownPaths fun grid => withoutShared && tracker.isInShared grid := by
  rw [layoutRows, if_neg (by simpa using placed)]
  refine map_filterMap_eq_shownPaths (fun node h => ?_) fun node grid field hgrid hfield => ?_
  · rcases h with h | h <;> simp [placedRow?, h]
  · have hpath : grid.id ++ "." ++ field.id = node.path := by
      rw [(mem_and_id_of_byId hgrid).2, (mem_and_id_of_byId hfield).2, LayoutNode.path]
    simp only [placedRow?, hgrid, hfield, leavesOut, Bool.not_false, Bool.and_true, isInShared,
      ← hpath]
    split <;> rfl

theorem map_value_placedFields (withoutShared : Bool) :
    (Builtin.placedFields tracker withoutShared).map OptionItem.value =
      tracker.shownPaths fun grid => withoutShared && tracker.mayBeInShared grid := by
  refine map_filterMap_eq_shownPaths (fun node h => ?_) fun node grid field hgrid hfield => ?_
  · rcases h with h | h <;> simp [Builtin.placedField?, h]
  · rw [Builtin.placedField?, hgrid, hfield]
    exact apply_ite (Option.map OptionItem.value) _ _ _

theorem mayBeInShared_of_isInShared {grid : TrackerGrid} (h : tracker.isInShared grid = true) :
    tracker.mayBeInShared grid = true := by
  obtain ⟨place, hplace, hshared⟩ := (Option.any_eq_true _ _).mp h
  obtain ⟨id, hid, hplace⟩ := Option.bind_eq_some_iff.mp hplace
  split at hplace
  next => cases hplace
  next =>
    obtain ⟨hm, heq⟩ := mem_and_id_of_byId hplace
    simp only [mayBeInShared, hid, Option.any_some, List.any_eq_true, Bool.and_eq_true, beq_iff_eq]
    exact ⟨place, hm, heq, hshared⟩

section

variable {leftOut leftOut' : TrackerGrid → Bool}
  (h : ∀ grid, leftOut grid = true → leftOut' grid = true)
include h

theorem filter_shows_sublist (nodes : List LayoutNode) :
    (nodes.filter (tracker.shows leftOut')).Sublist (nodes.filter (tracker.shows leftOut)) := by
  refine List.monotone_filter_right nodes fun node hnode => ?_
  obtain ⟨grid, field, hgrid, hfield, hvisible, hout⟩ := shows_eq_true_iff.mp hnode
  refine shows_eq_true_iff.mpr ⟨grid, field, hgrid, hfield, hvisible, ?_⟩
  exact Bool.eq_false_iff.mpr fun hin => Bool.eq_false_iff.mp hout (h grid hin)

theorem shownPaths_eq_iff :
    tracker.shownPaths leftOut = tracker.shownPaths leftOut' ↔
      ∀ node ∈ tracker.layoutNodes, ∀ grid field, tracker.grid? node.gridId = some grid →
        tracker.field? node.fieldId = some field → field.isHidden = false →
        leftOut' grid = true → leftOut grid = true := by
  constructor
  · intro heq node hnode grid field hgrid hfield hvisible hout'
    by_contra hout
    have hlength : (tracker.layoutNodes.filter (tracker.shows leftOut')).length =
        (tracker.layoutNodes.filter (tracker.shows leftOut)).length := by
      simpa [shownPaths] using (congrArg List.length heq).symm
    have hshown : node ∈ tracker.layoutNodes.filter (tracker.shows leftOut) :=
      List.mem_filter.mpr ⟨hnode, shows_eq_true_iff.mpr
        ⟨grid, field, hgrid, hfield, hvisible, Bool.eq_false_iff.mpr hout⟩⟩
    rw [← (filter_shows_sublist h _).eq_of_length hlength] at hshown
    obtain ⟨grid', _, hgrid', -, -, hin⟩ := shows_eq_true_iff.mp (List.mem_filter.mp hshown).2
    obtain rfl := Option.some.inj (hgrid.symm.trans hgrid')
    exact Bool.eq_false_iff.mp hin hout'
  · intro hall
    rw [shownPaths, shownPaths]
    refine congrArg _ (List.filter_congr fun node hnode => ?_)
    rw [Bool.eq_iff_iff, shows_eq_true_iff, shows_eq_true_iff]
    refine exists₂_congr fun grid field => and_congr_right fun hgrid =>
      and_congr_right fun hfield => and_congr_right fun hvisible => ?_
    rw [← Bool.not_eq_true, ← Bool.not_eq_true]
    exact not_congr ⟨h grid, hall node hnode grid field hgrid hfield hvisible⟩

end

theorem isInShared_iff {grid : TrackerGrid} {id : String} (hid : grid.sectionId = some id) :
    tracker.isInShared grid = true ↔
      id ≠ "" ∧ (tracker.section? id).any TrackerSection.isShared = true := by
  rw [isInShared, sectionOf?, hid, Option.bind_some]
  split
  next h => simp [h]
  next h => simp [h]

theorem sharedSectionsCount_iff :
    tracker.SharedSectionsCount ↔ ∀ node ∈ tracker.layoutNodes, ∀ grid field,
      tracker.grid? node.gridId = some grid → tracker.field? node.fieldId = some field →
      field.isHidden = false → tracker.mayBeInShared grid = true →
      tracker.isInShared grid = true := by
  refine forall₄_congr fun node _ grid field => forall₃_congr fun _ _ _ => ?_
  constructor
  · intro h hmay
    obtain ⟨id, hid, hany⟩ := (Option.any_eq_true _ _).mp hmay
    obtain ⟨place, hm, hplace⟩ := List.any_eq_true.mp hany
    obtain ⟨hplace, hshared⟩ := Bool.and_eq_true_iff.mp hplace
    obtain rfl := eq_of_beq hplace
    exact (isInShared_iff hid).mpr (h place hm hshared hid)
  · intro h place hm hshared hid
    refine (isInShared_iff hid).mp (h ?_)
    simp only [mayBeInShared, hid, Option.any_some, List.any_eq_true, Bool.and_eq_true, beq_iff_eq]
    exact ⟨place, hm, rfl, hshared⟩

theorem sharedSectionsCount_of_distinct (distinct : (tracker.sections.map TrackerSection.id).Nodup)
    (named : ∀ place ∈ tracker.sections, place.id ≠ "") : tracker.SharedSectionsCount := by
  intro _ _ _ _ _ _ _ place hm hshared _
  have hplace : tracker.section? place.id = some place := by
    refine Assoc.get?_putAll_of_agree (List.mem_map.mpr ⟨place, hm, rfl⟩) fun other hother => ?_
    obtain ⟨_, hm', heq⟩ := List.mem_map.mp hother
    obtain ⟨hid, rfl⟩ := Prod.mk.inj heq
    exact List.inj_on_of_nodup_map distinct hm' hm hid
  exact ⟨named place hm, by rwa [hplace]⟩

end

/-- With the shared tab, the rows of the visible placed fields and the builtin options list the same
paths in the same order. Without it, the options list no more than the rows, and the same exactly if
the sections on the shared tab count. -/
theorem layoutRows_eq_options_iff (tracker : Tracker) (placed : tracker.layoutNodes ≠ []) :
    (tracker.layoutRows ⟨false, false⟩).map (·.getD "path") =
      (Builtin.fieldPathsWithShared.options tracker).map OptionItem.value ∧
    ((Builtin.fieldPaths.options tracker).map OptionItem.value).Sublist
      ((tracker.layoutRows ⟨false, true⟩).map (·.getD "path")) ∧
    ((tracker.layoutRows ⟨false, true⟩).map (·.getD "path") =
      (Builtin.fieldPaths.options tracker).map OptionItem.value ↔ tracker.SharedSectionsCount) := by
  rw [map_path_layoutRows placed, map_path_layoutRows placed, Builtin.options, Builtin.options,
    map_value_placedFields, map_value_placedFields]
  refine ⟨rfl, ?_, ?_⟩
  · exact (filter_shows_sublist (fun _ => mayBeInShared_of_isInShared) _).map _
  · rw [sharedSectionsCount_iff]
    exact shownPaths_eq_iff fun _ => mayBeInShared_of_isInShared

/-- A tracker with a field on the shared tab and a field beside it. -/
def twoTabs : Tracker where
  tabs := []
  sections := [⟨"top", "Top", some "shared_tab"⟩, ⟨"s", "S", some "main"⟩]
  grids := [⟨"g", "G", some "top", none⟩, ⟨"h", "H", some "s", none⟩]
  fields := [⟨"a", "string", some "A", []⟩, ⟨"b", "string", some "B", []⟩]
  layoutNodes := [⟨"g", "a", none⟩, ⟨"h", "b", none⟩]
  validations := []
  calculations := []
  options := .empty

theorem layoutRows_eq_options_iff_twoTabs :
    twoTabs.layoutNodes ≠ [] ∧
    (twoTabs.layoutRows ⟨false, false⟩).map (·.getD "path") = [.str "g.a", .str "h.b"] ∧
    (twoTabs.layoutRows ⟨false, true⟩).map (·.getD "path") = [.str "h.b"] ∧
    (twoTabs.layoutRows ⟨false, true⟩).map (·.getD "path") =
      (Builtin.fieldPaths.options twoTabs).map OptionItem.value := by
  have placed : twoTabs.layoutNodes ≠ [] := by decide
  have shared : twoTabs.SharedSectionsCount :=
    sharedSectionsCount_of_distinct (by decide) (by decide)
  exact ⟨placed, rfl, rfl, (layoutRows_eq_options_iff twoTabs placed).2.2.mpr shared⟩

/-- A tracker with one visible field, which is placed in a grid of the section. -/
def withOneField (sections : List TrackerSection) (sectionId : String) : Tracker where
  tabs := []
  sections := sections
  grids := [⟨"g", "G", some sectionId, none⟩]
  fields := [⟨"a", "string", some "A", []⟩]
  layoutNodes := [⟨"g", "a", none⟩]
  validations := []
  calculations := []
  options := .empty

/-- The rows list a field that the options leave out: the section of its grid was on the shared tab
until a later one took its id, or is on the shared tab and has the empty id. -/
theorem layoutRows_ne_options :
    let replaced :=
      withOneField [⟨"s", "Shared", some "shared_tab"⟩, ⟨"s", "Main", some "main"⟩] "s"
    let unnamed := withOneField [⟨"", "Shared", some "shared_tab"⟩] ""
    ∀ tracker ∈ [replaced, unnamed],
      (tracker.layoutRows ⟨false, true⟩).map (·.getD "path") = [.str "g.a"] ∧
        Builtin.fieldPaths.options tracker = [] := by
  decide +kernel

end Tracker

end GridRules
