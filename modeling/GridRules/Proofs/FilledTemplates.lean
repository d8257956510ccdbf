import GridRules.Options.Template
import GridRules.Proofs.CheckedPatterns
import GridRules.Proofs.Lists
import GridRules.Proofs.Results
/-!
Templates and the texts that they are filled with. Which parts of a template are placeholders is
settled before any value is looked at, and the texts of the values stand where the placeholders
stood, whatever they look like.
-/

namespace GridRules

namespace Placeholder

/-- The word of its kind with the dot. -/
def word : Placeholder → List Char
  | .arg _ => "arg.".toList
  | .context _ => "context.".toList

def name : Placeholder → String
  | .arg name | .context name => name

/-- The placeholder is written so: a name that is not empty behind its word, in double braces, with
blanks inside of them or without. -/
inductive Spelled (p : Placeholder) : List Char → Prop
  | intro {before after : List Char} (hbefore : ∀ c ∈ before, isBlank c = true)
      (hafter : ∀ c ∈ after, isBlank c = true) (hne : p.name.toList ≠ [])
      (hname : ∀ c ∈ p.name.toList, Template.isNameChar c = true) :
      Spelled p (Template.opening ++
        (before ++ (p.word ++ (p.name.toList ++ (after ++ Template.closing)))))

theorem Spelled.ne_nil {p : Placeholder} {text : List Char} (h : p.Spelled text) : text ≠ [] := by
  cases h
  exact List.append_ne_nil_of_left_ne_nil (by decide) _

end Placeholder

namespace Template

variable {p : Placeholder} {cs rest : List Char}

theorem behind?_eq_some_iff {front : List Char} :
    behind? front cs = some rest ↔ cs = front ++ rest := by
  induction front generalizing cs with
  | nil => exact Option.some_inj
  | cons c front ih =>
    cases cs with
    | nil => simp [behind?]
    | cons d cs =>
      rw [behind?]
      by_cases hc : c = d
      · subst hc
        rw [if_pos rfl, ih, List.cons_append, List.cons_inj_right]
      · simp [hc, Ne.symm hc]

theorem closing_begins : ∃ c more, closing = c :: more ∧ isBlank c = false ∧ isNameChar c = false :=
  ⟨'\x7d', ['\x7d'], rfl, by decide, by decide⟩

theorem word_begins (p : Placeholder) : ∃ c more, p.word = c :: more ∧ isBlank c = false := by
  cases p with
  | arg name => exact ⟨'a', ['r', 'g', '.'], rfl, by decide⟩
  | context path => exact ⟨'c', ['o', 'n', 't', 'e', 'x', 't', '.'], rfl, by decide⟩

theorem readKind?_word (p : Placeholder) (rest : List Char) :
    ∃ kind, readKind? (p.word ++ rest) = some (kind, rest) ∧ kind p.name = p := by
  cases p with
  | arg name =>
    have harg : behind? "arg.".toList ("arg.".toList ++ rest) = some rest :=
      behind?_eq_some_iff.mpr rfl
    refine ⟨.arg, ?_, rfl⟩
    unfold readKind? Placeholder.word
    rw [harg]
  | context path =>
    have harg : behind? "arg.".toList ("context.".toList ++ rest) = none := by simp [behind?]
    have hcontext : behind? "context.".toList ("context.".toList ++ rest) = some rest :=
      behind?_eq_some_iff.mpr rfl
    refine ⟨.context, ?_, rfl⟩
    unfold readKind? Placeholder.word
    rw [harg, hcontext]
    rfl

theorem word_of_readKind? {kind : String → Placeholder} (h : readKind? cs = some (kind, rest))
    (name : String) : cs = (kind name).word ++ rest ∧ (kind name).name = name := by
  rw [readKind?] at h
  split at h
  · rename_i harg
    obtain ⟨rfl, rfl⟩ := Prod.mk.inj (Option.some.inj h)
    exact ⟨behind?_eq_some_iff.mp harg, rfl⟩
  · obtain ⟨behind, hcontext, h⟩ := Option.map_eq_some_iff.mp h
    obtain ⟨rfl, rfl⟩ := Prod.mk.inj h
    exact ⟨behind?_eq_some_iff.mp hcontext, rfl⟩

/-- What is read as a placeholder is written as one. -/
theorem spelled_of_readPlaceholder? (h : readPlaceholder? cs = some (p, rest)) :
    ∃ text, p.Spelled text ∧ cs = text ++ rest := by
  rw [readPlaceholder?] at h
  obtain ⟨inner, hopening, h⟩ := Option.bind_eq_some_iff.mp h
  obtain ⟨⟨kind, named⟩, hkind, h⟩ := Option.bind_eq_some_iff.mp h
  dsimp only at h
  split at h
  · cases h
  rename_i hne
  obtain ⟨behind, hclosing, h⟩ := Option.bind_eq_some_iff.mp h
  obtain ⟨hp, rfl⟩ := Prod.mk.inj (Option.some.inj h)
  obtain ⟨hword, hname⟩ := word_of_readKind? hkind (String.ofList (named.takeWhile isNameChar))
  rw [hp] at hword hname
  have hnamed : p.name.toList = named.takeWhile isNameChar := by
    rw [hname, String.toList_ofList]
  have hcs : cs = opening ++ (inner.takeWhile isBlank ++ (p.word ++ (p.name.toList ++
      ((named.dropWhile isNameChar).takeWhile isBlank ++ closing)))) ++ behind := by
    calc cs = opening ++ (inner.takeWhile isBlank ++ inner.dropWhile isBlank) := by
          rw [behind?_eq_some_iff.mp hopening, List.takeWhile_append_dropWhile]
      _ = opening ++ (inner.takeWhile isBlank ++ (p.word ++ (named.takeWhile isNameChar ++
            ((named.dropWhile isNameChar).takeWhile isBlank ++
              (named.dropWhile isNameChar).dropWhile isBlank)))) := by
          rw [hword, List.takeWhile_append_dropWhile, List.takeWhile_append_dropWhile]
      _ = _ := by
          rw [behind?_eq_some_iff.mp hclosing, hnamed]
          simp only [List.append_assoc]
  refine ⟨_, .intro ?_ ?_ ?_ ?_, hcs⟩
  · exact fun c hc => List.all_eq_true.mp List.all_takeWhile c hc
  · exact fun c hc => List.all_eq_true.mp List.all_takeWhile c hc
  · rw [hnamed]
    exact mt List.isEmpty_iff.mpr hne
  · rw [hnamed]
    exact fun c hc => List.all_eq_true.mp List.all_takeWhile c hc

/-- What is written as a placeholder is read as that. -/
theorem readPlaceholder?_spelled {text : List Char} (h : p.Spelled text) (rest : List Char) :
    readPlaceholder? (text ++ rest) = some (p, rest) := by
  obtain @⟨before, after, hbefore, hafter, hne, hname⟩ := h
  obtain ⟨kind, hkind, hp⟩ := readKind?_word p (p.name.toList ++ (after ++ (closing ++ rest)))
  have hword : ∀ c ∈ (p.word ++ (p.name.toList ++ (after ++ (closing ++ rest)))).head?,
      isBlank c = false := by
    obtain ⟨c, more, hc, hblank⟩ := word_begins p
    simpa [hc] using hblank
  obtain ⟨brace, more, hclosing, hblank, hbrace⟩ := closing_begins
  have hend : ∀ c ∈ (closing ++ rest).head?, isBlank c = false := by
    simpa [hclosing] using hblank
  have hbehind : ∀ c ∈ (after ++ (closing ++ rest)).head?, isNameChar c = false := by
    cases after with
    | nil => simpa [hclosing] using hbrace
    | cons c after => simp [isNameChar, hafter c List.mem_cons_self]
  have hopen : behind? opening (opening ++ (before ++ (p.word ++ (p.name.toList ++
      (after ++ (closing ++ rest)))))) = some _ := behind?_eq_some_iff.mpr rfl
  have hclose : behind? closing (closing ++ rest) = some rest := behind?_eq_some_iff.mpr rfl
  have hfilled : ¬ p.name.toList.isEmpty = true := mt List.isEmpty_iff.mp hne
  simp only [readPlaceholder?, List.append_assoc, Option.bind_eq_bind, Option.bind_some, hopen,
    dropWhile_run hbefore hword, hkind, takeWhile_run hname hbehind, dropWhile_run hname hbehind,
    if_neg hfilled, dropWhile_run hafter hend, hclose, String.ofList_toList, hp, Option.pure_def]

theorem readPlaceholder?_eq_some_iff :
    readPlaceholder? cs = some (p, rest) ↔ ∃ text, p.Spelled text ∧ cs = text ++ rest := by
  refine ⟨spelled_of_readPlaceholder?, ?_⟩
  rintro ⟨text, hs, rfl⟩
  exact readPlaceholder?_spelled hs rest

/-- The pieces that a text consists of from left to right: where a placeholder is written it is one
piece, and any other character stands for itself. -/
inductive Reads : List Char → List TemplatePiece → Prop
  | nil : Reads [] []
  | placeholder {p : Placeholder} {text rest : List Char} {pieces : List TemplatePiece} :
      p.Spelled text → Reads rest pieces → Reads (text ++ rest) (.placeholder p :: pieces)
  | char {c : Char} {rest : List Char} {pieces : List TemplatePiece} :
      (∀ p text, Placeholder.Spelled p text → ¬ text <+: c :: rest) → Reads rest pieces →
      Reads (c :: rest) (.char c :: pieces)

theorem splitFrom_eq_drop (skipped : Nat) (cs : List Char) :
    splitFrom skipped cs = splitFrom 0 (cs.drop skipped) := by
  induction cs generalizing skipped with
  | nil => cases skipped <;> rfl
  | cons c rest ih =>
    cases skipped with
    | zero => rfl
    | succ skipped => rw [splitFrom, ih, List.drop_succ_cons]

theorem splitFrom_spelled {text : List Char} (h : p.Spelled text) (rest : List Char) :
    splitFrom 0 (text ++ rest) = .placeholder p :: splitFrom 0 rest := by
  obtain ⟨c, more, rfl⟩ := List.exists_cons_of_ne_nil h.ne_nil
  have hread : readPlaceholder? (c :: (more ++ rest)) = some (p, rest) :=
    readPlaceholder?_eq_some_iff.mpr ⟨_, h, rfl⟩
  have hskip : (more ++ rest).length - rest.length = more.length := by
    rw [List.length_append]
    omega
  rw [List.cons_append, splitFrom, hread]
  dsimp only
  rw [hskip, splitFrom_eq_drop, List.drop_left]

theorem splitFrom_char {c : Char}
    (h : ∀ p text, Placeholder.Spelled p text → ¬ text <+: c :: rest) :
    splitFrom 0 (c :: rest) = .char c :: splitFrom 0 rest := by
  have hread : readPlaceholder? (c :: rest) = none := by
    refine Option.eq_none_iff_forall_ne_some.mpr fun ⟨p, behind⟩ hp => ?_
    obtain ⟨text, hs, htext⟩ := readPlaceholder?_eq_some_iff.mp hp
    exact h p text hs ⟨behind, htext.symm⟩
  rw [splitFrom, hread]

theorem Reads.eq_splitFrom {pieces : List TemplatePiece} (h : Reads cs pieces) :
    pieces = splitFrom 0 cs := by
  induction h with
  | nil => rfl
  | placeholder hs _ ih => rw [splitFrom_spelled hs, ih]
  | char hnone _ ih => rw [splitFrom_char hnone, ih]

theorem reads_splitFrom (skipped : Nat) (cs : List Char) :
    Reads (cs.drop skipped) (splitFrom skipped cs) := by
  fun_induction splitFrom skipped cs with
  | case1 skipped => rw [List.drop_nil]; exact .nil
  | case2 skipped c rest ih => exact ih
  | case3 c rest p behind hread ih =>
    obtain ⟨text, hs, htext⟩ := readPlaceholder?_eq_some_iff.mp hread
    obtain ⟨d, more, rfl⟩ := List.exists_cons_of_ne_nil hs.ne_nil
    obtain rfl : rest = more ++ behind := (List.cons.inj htext).2
    rw [List.drop_zero, htext]
    have hskip : (more ++ behind).length - behind.length = more.length := by
      rw [List.length_append]
      omega
    rw [hskip] at ih ⊢
    rw [List.drop_left] at ih
    exact .placeholder hs ih
  | case4 c rest hread ih =>
    refine .char (fun p text hs ⟨behind, htext⟩ => ?_) ih
    have hsome := readPlaceholder?_eq_some_iff.mpr ⟨text, hs, htext.symm⟩
    rw [hread] at hsome
    cases hsome

/-- A template consists of the pieces that it is split into, and of no others. -/
theorem reads_iff_eq_split {template : String} {pieces : List TemplatePiece} :
    Reads template.toList pieces ↔ pieces = split template := by
  refine ⟨Reads.eq_splitFrom, ?_⟩
  rintro rfl
  exact reads_splitFrom 0 _

end Template

/-- The plain string of the value that a placeholder names; none at all if the path to it cannot be
read. -/
def Placeholder.filled (inputs : Inputs) : Placeholder → String
  | .arg name => (inputs.args.getD name).plain
  | .context path =>
    match inputs.context.lookupD path with
    | .ok v => v.plain
    | .error _ => ""

def TemplatePiece.filled (inputs : Inputs) : TemplatePiece → String
  | .char c => String.ofList [c]
  | .placeholder p => p.filled inputs

/-- The pieces of a template in order, with the plain strings of values for its placeholders. -/
def Template.filled (template : String) (inputs : Inputs) : String :=
  String.join ((split template).map (TemplatePiece.filled inputs))

section Filled

variable {template : String} {inputs : Inputs} {piece : TemplatePiece}

/-- The piece does not name a value of the context, or one to which the path can be read. -/
def TemplatePiece.Fillable (inputs : Inputs) (piece : TemplatePiece) : Prop :=
  ∀ path, piece = .placeholder (.context path) → ∃ v, inputs.context.lookupD path = .ok v

theorem TemplatePiece.text_returns_iff :
    (∃ s, piece.text inputs = .ok s) ↔ piece.Fillable inputs := by
  cases piece with
  | char c => exact ⟨fun _ => nofun, fun _ => ⟨_, rfl⟩⟩
  | placeholder p =>
    cases p with
    | arg name => exact ⟨fun _ => nofun, fun _ => ⟨_, rfl⟩⟩
    | context path =>
      rw [TemplatePiece.text, Placeholder.text, map_returns_iff]
      simp [Fillable]

theorem TemplatePiece.eq_filled_of_text {s : String} (h : piece.text inputs = .ok s) :
    s = piece.filled inputs := by
  cases piece with
  | char c => exact (Except.ok.inj h).symm
  | placeholder p =>
    cases p with
    | arg name => exact (Except.ok.inj h).symm
    | context path =>
      obtain ⟨v, hv, rfl⟩ := map_eq_ok_iff.mp h
      simp [filled, Placeholder.filled, hv]

theorem interpolate_returns_iff :
    (∃ s, interpolate template inputs = .ok s) ↔
      ∀ piece ∈ Template.split template, piece.Fillable inputs := by
  rw [interpolate, map_returns_iff, mapM_returns_iff]
  exact forall₂_congr fun _ _ => TemplatePiece.text_returns_iff

theorem eq_filled_of_interpolate {s : String} (h : interpolate template inputs = .ok s) :
    s = Template.filled template inputs := by
  obtain ⟨texts, htexts, rfl⟩ := map_eq_ok_iff.mp h
  have hfilled : (Template.split template).map (TemplatePiece.filled inputs) = texts := by
    rw [← List.forall₂_eq_eq_eq, List.forall₂_map_left_iff]
    exact (forall₂_of_mapM_ok htexts).imp fun _ _ h => (TemplatePiece.eq_filled_of_text h).symm
  rw [Template.filled, hfilled]

theorem interpolate_congr {other : Inputs}
    (same : ∀ p, .placeholder p ∈ Template.split template → p.text other = p.text inputs) :
    interpolate template other = interpolate template inputs := by
  have hpieces : ∀ piece ∈ Template.split template, piece.text other = piece.text inputs := by
    intro piece hm
    cases piece with
    | char c => rfl
    | placeholder p => exact same p hm
  rw [interpolate, interpolate, mapM_congr hpieces]

end Filled

/-- A template is split into its pieces by itself, and it is filled exactly if all paths to values
of the context that it names can be read. What it is filled with depends on the plain strings of
the values that it names, and on nothing else. -/
theorem interpolate_eq_filled_iff (template : String) (inputs : Inputs) :
    (∀ pieces, Template.Reads template.toList pieces ↔ pieces = Template.split template) ∧
      (interpolate template inputs = .ok (Template.filled template inputs) ↔
        ∀ piece ∈ Template.split template, piece.Fillable inputs) ∧
      ∀ other : Inputs,
        (∀ p, .placeholder p ∈ Template.split template → p.text other = p.text inputs) →
          interpolate template other = interpolate template inputs := by
  refine ⟨fun _ => Template.reads_iff_eq_split, ⟨fun h => ?_, fun h => ?_⟩, fun _ => ?_⟩
  · exact interpolate_returns_iff.mp ⟨_, h⟩
  · obtain ⟨s, hs⟩ := interpolate_returns_iff.mpr h
    exact eq_filled_of_interpolate hs ▸ hs
  · exact interpolate_congr

/-- A superscript looks like an index and cannot be read as one, so that the template is not filled,
not even with the empty text of a path that leads nowhere. -/
theorem interpolate_breaks_off :
    interpolate "\x7b\x7bcontext.items.²\x7d\x7d" ⟨[], .object [("items", .list [.str "a"])]⟩ =
        .error .unreadableInteger ∧
      Template.filled "\x7b\x7bcontext.items.²\x7d\x7d"
        ⟨[], .object [("items", .list [.str "a"])]⟩ = "" := by
  decide +kernel

/-- A text that looks like a placeholder is not filled in its turn. -/
example : interpolate "a \x7b\x7b arg.x\x7d\x7d.b\x7d\x7d"
    ⟨[("x", .str "\x7b\x7barg"), ("b", .str "no")], .null⟩ = .ok "a \x7b\x7barg.b\x7d\x7d" := by
  decide +kernel

end GridRules
