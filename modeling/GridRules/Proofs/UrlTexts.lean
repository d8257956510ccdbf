import GridRules.Proofs.UrlForms
/-!
URLs read from their texts. What is read as a URL is in form, and so is what it becomes when a
parameter is set; the text of a settled URL is read as a URL with the same host and port.
-/

namespace GridRules

namespace Url

section Texts

variable {url : Url}

def queryText (url : Url) : List Char :=
  match url.query with
  | some query => '?' :: query
  | none => []

def fragmentText (url : Url) : List Char :=
  match url.fragment with
  | some fragment => '#' :: fragment
  | none => []

theorem Formed.mem_queryText (formed : url.Formed) {c : Char} (h : c ∈ url.queryText) :
    c = '?' ∨ isQuerySafe c = true := by
  unfold queryText at h
  split at h
  next query hquery => exact (List.mem_cons.mp h).imp_right (formed.query query hquery c)
  next => cases h

theorem Formed.mem_fragmentText (formed : url.Formed) {c : Char} (h : c ∈ url.fragmentText) :
    c = '#' ∨ isFragmentSafe c = true := by
  unfold fragmentText at h
  split at h
  next fragment hfragment =>
    exact (List.mem_cons.mp h).imp_right (formed.fragment fragment hfragment c)
  next => cases h

theorem text_toList (hauthority : url.authority ≠ []) :
    url.text.toList = (if url.scheme.isEmpty then [] else url.scheme ++ [':']) ++
      '/' :: '/' :: (url.authority ++ (url.path ++ (url.queryText ++ url.fragmentText))) := by
  cases hcons : url.authority with
  | nil => exact absurd hcons hauthority
  | cons c rest =>
    unfold text queryText fragmentText
    rw [hcons, String.toList_ofList]
    cases url.query <;> cases url.fragment <;> simp

/-- Nothing in the text of a URL is a control character. -/
theorem Formed.text_plain (formed : url.Formed) (hauthority : url.authority ≠ []) :
    url.text.toList.any isControl = false := by
  have hplain : ∀ c ∈ url.text.toList, isControl c = false := by
    intro c hc
    have hof : isAuthorityChar c = true → isControl c = false := by
      intro h
      simp only [isAuthorityChar, Bool.and_eq_true, Bool.not_eq_true'] at h
      exact h.1.1.1
    rw [text_toList hauthority] at hc
    simp only [List.mem_append, List.mem_cons] at hc
    obtain hc | rfl | rfl | hc | hc | hc | hc := hc
    · split at hc
      · cases hc
      · rcases List.mem_append.mp hc with hc | hc
        · exact isControl_of_isSchemeChar (formed.scheme.mem hc)
        · obtain rfl := List.mem_singleton.mp hc
          rfl
    · rfl
    · rfl
    · exact hof (formed.authority_chars c hc)
    · exact (of_isSafeBut (formed.path c hc)).1
    · obtain rfl | hsafe := formed.mem_queryText hc
      · rfl
      · exact (of_isSafeBut hsafe).1
    · obtain rfl | hsafe := formed.mem_fragmentText hc
      · rfl
      · exact (of_isSafeBut hsafe).1
  rw [← Bool.not_eq_true, List.any_eq_true]
  rintro ⟨c, hc, hcontrol⟩
  rw [hplain c hc] at hcontrol
  cases hcontrol

theorem Formed.cutScheme_text (formed : url.Formed) (rest : List Char) :
    cutScheme ((if url.scheme.isEmpty then [] else url.scheme ++ [':']) ++ '/' :: rest) =
      (url.scheme, '/' :: rest) := by
  cases hscheme : url.scheme with
  | nil =>
    rw [cutScheme, List.isEmpty_nil, if_pos rfl, List.nil_append, cutAt_cons (by decide)]
    cases (cutAt (· == ':') rest).2 <;> rfl
  | cons c scheme =>
    have hcolon : ∀ d ∈ c :: scheme, (d == ':') = false := fun d hd =>
      beq_eq_false_iff_ne.mpr (ne_of_class (formed.scheme.mem (hscheme ▸ hd)) rfl)
    obtain ⟨halpha, hrest⟩ := formed.scheme c scheme hscheme
    have hall : (scheme.all fun d => d.isAlphanum || d == '+' || d == '-' || d == '.') = true :=
      List.all_eq_true.mpr hrest
    rw [List.isEmpty_cons, if_neg (by decide), List.append_assoc, List.singleton_append, cutScheme,
      cutAt_append hcolon (by decide)]
    simp [halpha, hall]

/-- What follows an authority is cut into the parts that it was written from. -/
theorem Formed.cut_rest (formed : url.Formed) :
    cutAt (· == '#') (url.path ++ (url.queryText ++ url.fragmentText)) =
        (url.path ++ url.queryText, url.fragment) ∧
      cutAt (· == '?') (url.path ++ url.queryText) = (url.path, url.query) := by
  have hhash : ∀ c ∈ url.path ++ url.queryText, (c == '#') = false := by
    intro c hc
    rw [beq_eq_false_iff_ne]
    rcases List.mem_append.mp hc with hc | hc
    · exact ne_of_isSafeBut (formed.path c hc) (by decide)
    · obtain rfl | hsafe := formed.mem_queryText hc
      · decide
      · exact ne_of_isSafeBut hsafe (by decide)
  have hquestion : ∀ c ∈ url.path, (c == '?') = false := fun c hc =>
    beq_eq_false_iff_ne.mpr (ne_of_isSafeBut (formed.path c hc) (by decide))
  constructor
  · rw [← List.append_assoc, fragmentText]
    cases url.fragment with
    | none => rw [List.append_nil, cutAt_eq_self hhash]
    | some fragment => exact cutAt_append hhash (by decide)
  · rw [queryText]
    cases url.query with
    | none => rw [List.append_nil, cutAt_eq_self hquestion]
    | some query => exact cutAt_append hquestion (by decide)

/-- An authority ends where the path, the query or the fragment starts. -/
theorem Formed.takeWhile_authority (formed : url.Formed) (hauthority : url.authority ≠ []) :
    (url.authority ++ (url.path ++ (url.queryText ++ url.fragmentText))).takeWhile
      (fun c => c != '/' && c != '?' && c != '#') = url.authority := by
  have hall : ∀ c ∈ url.authority, (c != '/' && c != '?' && c != '#') = true := by
    intro c hc
    have hchar := formed.authority_chars c hc
    simp only [isAuthorityChar, Bool.and_eq_true] at hchar ⊢
    exact ⟨⟨hchar.1.1.2, hchar.1.2⟩, hchar.2⟩
  have hstop : ∀ c ∈ (url.path ++ (url.queryText ++ url.fragmentText)).head?,
      (c != '/' && c != '?' && c != '#') = false := by
    cases hpath : url.path with
    | cons c rest =>
      obtain rfl : c = '/' := formed.rooted hauthority c (by rw [hpath]; rfl)
      simp
    | nil =>
      unfold queryText fragmentText
      cases url.query <;> cases url.fragment <;> simp
  exact takeWhile_run hall hstop

theorem parse?_eq_of_cut {cs scheme behind path front : List Char}
    {query fragment : Option (List Char)} (hplain : cs.any isControl = false)
    (hscheme : cutScheme cs = (scheme, '/' :: '/' :: behind))
    (hfragment : cutAt (· == '#') (behind.drop
      (behind.takeWhile fun c => c != '/' && c != '?' && c != '#').length) = (front, fragment))
    (hquery : cutAt (· == '?') front = (path, query)) :
    parse? cs = if maxLength < cs.length then none
      else ofParts scheme (behind.takeWhile fun c => c != '/' && c != '?' && c != '#')
        path query fragment := by
  have hpath : path = (cutAt (· == '?') front).1 := by rw [hquery]
  have hrest : query = (cutAt (· == '?') front).2 := by rw [hquery]
  have hfront : front = (cutAt (· == '#') (behind.drop
      (behind.takeWhile fun c => c != '/' && c != '?' && c != '#').length)).1 := by rw [hfragment]
  have hend : fragment = (cutAt (· == '#') (behind.drop
      (behind.takeWhile fun c => c != '/' && c != '?' && c != '#').length)).2 := by rw [hfragment]
  unfold parse?
  rw [hplain, hscheme, Bool.or_false, hpath, hrest, hend, hfront]
  simp only [decide_eq_true_eq]

/-- The text of a URL is read as the parts that it was written from. -/
theorem Formed.parse?_text (formed : url.Formed) (hauthority : url.authority ≠ []) :
    parse? url.text.toList =
      if maxLength < url.text.toList.length then none
      else ofParts url.scheme url.authority url.path url.query url.fragment := by
  obtain ⟨hfragment, hquery⟩ := formed.cut_rest
  have htake := formed.takeWhile_authority hauthority
  have hscheme := formed.cutScheme_text
    ('/' :: (url.authority ++ (url.path ++ (url.queryText ++ url.fragmentText))))
  rw [← text_toList hauthority] at hscheme
  have hparse := parse?_eq_of_cut (formed.text_plain hauthority) hscheme
    (by rw [htake, List.drop_left, hfragment]) hquery
  rw [hparse, htake]

end Texts

section Reading

theorem cutScheme_spec (cs : List Char) :
    IsScheme (cutScheme cs).1 ∧ ∀ c ∈ (cutScheme cs).2, c ∈ cs := by
  have hnone : IsScheme [] := nofun
  unfold cutScheme
  split
  next behind hcut => exact ⟨hnone, fun c hc => mem_of_mem_cutAt.2 behind (by rw [hcut]) hc⟩
  next first rest behind hcut =>
    split
    next hscheme =>
      refine ⟨?_, fun c hc => mem_of_mem_cutAt.2 behind (by rw [hcut]) hc⟩
      rintro c others ⟨⟩
      rw [Bool.and_eq_true, List.all_eq_true] at hscheme
      exact hscheme
    next => exact ⟨hnone, fun c hc => hc⟩
  next => exact ⟨hnone, fun c hc => hc⟩

/-- Whatever is read as a URL is in form. -/
theorem formed_of_parse? {cs : List Char} {url : Url} (h : parse? cs = some url) : url.Formed := by
  obtain ⟨hscheme, hbehind⟩ := cutScheme_spec cs
  unfold parse? at h
  split at h
  next => cases h
  next hguard =>
    have hcontrol : ∀ c ∈ cs, isControl c = false := by
      intro c hc
      simp only [Bool.or_eq_true, not_or, Bool.not_eq_true, List.any_eq_false] at hguard
      exact hguard.2 c hc
    refine formed_of_ofParts hscheme ?_ h
    intro c hc
    split at hc
    next behind hcut =>
      -- an authority is cut from a text without control characters before the first delimiter
      have hmem : c ∈ behind := (List.takeWhile_prefix _).subset hc
      have hends := List.mem_takeWhile_imp hc
      rw [show (cutScheme cs).2 = '/' :: '/' :: behind from hcut] at hbehind
      have hplain := hcontrol c (hbehind c (List.mem_cons_of_mem _ (List.mem_cons_of_mem _ hmem)))
      simp only [Bool.and_eq_true] at hends
      simp [isAuthorityChar, hplain, hends]
    next => cases hc

/-- A parameter that is set leaves a URL in form, and settled. -/
theorem Formed.setParam? {url changed : Url} {name value : String} (formed : url.Formed)
    (h : url.setParam? name value = some changed) : changed.Formed ∧ changed.Settled := by
  unfold Url.setParam? at h
  dsimp only at h
  split at h
  next => cases h
  next =>
    have hformed := formed_of_ofParts formed.scheme formed.authority_chars h
    exact ⟨hformed, formed.settled_of_ofParts h⟩

/-- The text of a settled URL is read as a URL with its host and its port. -/
theorem Formed.read_text {url : Url} (formed : url.Formed) (settled : url.Settled)
    (hauthority : url.authority ≠ []) (hlength : url.text.length ≤ maxLength) :
    ∃ again, parse? url.text.toList = some again ∧ again.hostAndPort? = url.hostAndPort? := by
  obtain ⟨again, hagain⟩ := formed.exists_ofParts settled hauthority url.query url.fragment
  obtain ⟨hhost, hport⟩ := formed.ofParts_settled settled hagain
  refine ⟨again, ?_, by rw [hostAndPort?, hostAndPort?, hhost, hport]⟩
  rw [formed.parse?_text hauthority, if_neg (by rw [String.length_toList]; omega), hagain]

end Reading

end Url

end GridRules
