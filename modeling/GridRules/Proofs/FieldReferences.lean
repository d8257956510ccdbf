import GridRules.Path.Basic
import Mathlib.Data.List.Basic

namespace GridRules

/-- An id that stands alone in a path: it is not empty and has no dots. -/
def IsFieldId (id : String) : Prop :=
  id ≠ "" ∧ hasDot id = false

instance (id : String) : Decidable (IsFieldId id) :=
  inferInstanceAs (Decidable (_ ∧ _))

theorem hasDot_eq_false_iff {text : String} : hasDot text = false ↔ '.' ∉ text.toList := by
  simp [hasDot]

theorem splitDots_of_not_mem {cs : List Char} (h : '.' ∉ cs) : splitDots cs = [cs] := by
  induction cs with
  | nil => rfl
  | cons c cs ih =>
    obtain ⟨hc, hcs⟩ := not_or.mp (mt List.mem_cons.mpr h)
    rw [splitDots, if_neg (Ne.symm hc), ih hcs]

theorem splitDots_ne_nil (cs : List Char) : splitDots cs ≠ [] := by
  cases cs with
  | nil => simp [splitDots]
  | cons c cs =>
    rw [splitDots]
    split
    next => simp
    next => split <;> simp

theorem splitDots_append (front back : List Char) :
    splitDots (front ++ '.' :: back) = splitDots front ++ splitDots back := by
  induction front with
  | nil => simp [splitDots]
  | cons c front ih =>
    by_cases hc : c = '.'
    · simp [splitDots, hc, ih]
    · obtain ⟨piece, pieces, hp⟩ := List.exists_cons_of_ne_nil (splitDots_ne_nil front)
      simp [splitDots, hc, ih, hp]

/-- The pieces of two paths with a dot between them are those of the one and then those of the
other. -/
theorem pathPieces_append (front back : String) :
    pathPieces (front ++ "." ++ back) = pathPieces front ++ pathPieces back := by
  have hchars : (front ++ "." ++ back).toList = front.toList ++ '.' :: back.toList := by simp
  rw [pathPieces, hchars, splitDots_append, List.map_append]
  rfl

theorem dot_not_mem_of_mem_splitDots {cs piece : List Char} (h : piece ∈ splitDots cs) :
    '.' ∉ piece := by
  induction cs generalizing piece with
  | nil =>
    obtain rfl : piece = [] := by simpa [splitDots] using h
    simp
  | cons c cs ih =>
    rw [splitDots] at h
    split at h
    next =>
      rcases List.mem_cons.mp h with rfl | h
      · simp
      · exact ih h
    next hc =>
      cases hs : splitDots cs with
      | nil =>
        obtain rfl : piece = [c] := by simpa [hs] using h
        simpa using Ne.symm hc
      | cons first pieces =>
        rw [hs] at h
        have hfirst : '.' ∉ first := ih (by simp [hs])
        rcases List.mem_cons.mp h with rfl | h
        · exact fun hm => (List.mem_cons.mp hm).elim (Ne.symm hc) hfirst
        · exact ih (by simp [hs, h])

theorem isFieldId_of_mem_pathPieces {path piece : String} (h : piece ∈ pathPieces path)
    (hne : piece.isEmpty = false) : IsFieldId piece := by
  obtain ⟨cs, hcs, rfl⟩ := List.mem_map.mp h
  refine ⟨by rintro he; simp [he] at hne, hasDot_eq_false_iff.mpr ?_⟩
  rw [String.toList_ofList]
  exact dot_not_mem_of_mem_splitDots hcs

theorem inGrid_toList (gridId fieldId : String) :
    (FieldPath.inGrid gridId fieldId).toList = gridId.toList ++ '.' :: fieldId.toList := by
  simp [FieldPath.inGrid]

theorem inGrid_injective (gridId : String) : Function.Injective (FieldPath.inGrid gridId) := by
  intro a b h
  have hl := congrArg String.toList h
  rw [inGrid_toList, inGrid_toList] at hl
  apply String.toList_injective
  simpa using hl

theorem hasDot_inGrid (gridId fieldId : String) :
    hasDot (FieldPath.inGrid gridId fieldId) = true := by
  simp [hasDot, inGrid_toList]

namespace FieldPath

/-- Both parts of a path that could be read are ids. -/
theorem isFieldId_of_parse? {path gridId fieldId : String}
    (h : parse? path = some ⟨some gridId, fieldId⟩) : IsFieldId gridId ∧ IsFieldId fieldId := by
  simp only [parse?] at h
  split at h
  next => simp at h
  next hne =>
    have full : ∀ piece ∈ pathPieces path, IsFieldId piece := by
      intro piece hp
      apply isFieldId_of_mem_pathPieces hp
      simpa using fun he => hne (List.any_eq_true.mpr ⟨piece, hp, by simpa using he⟩)
    split at h
    next => simp at h
    next grid field hs =>
      obtain ⟨rfl, rfl⟩ : grid = gridId ∧ field = fieldId := by simpa using h
      exact ⟨full grid (by simp [hs]), full field (by simp [hs])⟩
    next tab grid field hs =>
      obtain ⟨rfl, rfl⟩ : grid = gridId ∧ field = fieldId := by simpa using h
      exact ⟨full grid (by simp [hs]), full field (by simp [hs])⟩
    next => simp at h

theorem pathPieces_inGrid {gridId fieldId : String} (hg : hasDot gridId = false)
    (hf : hasDot fieldId = false) : pathPieces (inGrid gridId fieldId) = [gridId, fieldId] := by
  rw [pathPieces, inGrid_toList, splitDots_append, splitDots_of_not_mem (hasDot_eq_false_iff.mp hg),
    splitDots_of_not_mem (hasDot_eq_false_iff.mp hf)]
  simp

theorem parse?_inGrid {gridId fieldId : String} (hg : IsFieldId gridId) (hf : IsFieldId fieldId) :
    parse? (inGrid gridId fieldId) = some ⟨some gridId, fieldId⟩ := by
  simp [parse?, pathPieces_inGrid hg.2 hf.2, hg.1, hf.1]

/-- Without dots in its parts a path can only be read as these. -/
theorem eq_of_parse?_inGrid {grid field gridId fieldId : String} (hg : hasDot grid = false)
    (hf : hasDot field = false) (h : parse? (inGrid grid field) = some ⟨some gridId, fieldId⟩) :
    grid = gridId ∧ field = fieldId := by
  simp only [parse?, pathPieces_inGrid hg hf] at h
  split at h
  next => simp at h
  next => simpa using h

end FieldPath

theorem localFieldId?_inGrid {gridId fieldId : String} (hg : IsFieldId gridId)
    (hf : IsFieldId fieldId) :
    localFieldId? (FieldPath.inGrid gridId fieldId) gridId = some fieldId := by
  have hb : isBlankText (FieldPath.inGrid gridId fieldId) = false := by
    have hdot : isBlank '.' = false := by decide
    simp [isBlankText, inGrid_toList, hdot]
  simp [localFieldId?, hb, hasDot_inGrid, FieldPath.parse?_inGrid hg hf]

theorem localFieldId?_of_no_dot {ref : String} (hb : isBlankText ref = false)
    (hd : hasDot ref = false) (gridId : String) : localFieldId? ref gridId = some ref := by
  simp [localFieldId?, hb, hd]

/-- A field without dots is a change of the field itself, even where it is no reference. -/
theorem localFieldId?_getD_of_no_dot {ref : String} (hd : hasDot ref = false) (gridId : String) :
    (localFieldId? ref gridId).getD ref = ref := by
  cases hb : isBlankText ref <;> simp [localFieldId?, hb, hd]

end GridRules
