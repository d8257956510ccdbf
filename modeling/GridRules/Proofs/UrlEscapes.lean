import GridRules.Proofs.Lists
import GridRules.Url.Basic
import GridRules.Url.Join
import Mathlib.Data.List.DropRight
/-!
Characters are told apart by their codes: what a class leaves out, and what becomes of it in lower
case, is a comparison of numbers. So it is with what escapes leave in the parts of a URL: no part
has the delimiter in it that ends it, so that the parts can be found again in the text.
-/

namespace GridRules

namespace Url

section Codes

variable {c : Char}

theorem isDigit_iff : c.isDigit = true ↔ 0x30 ≤ c.toNat ∧ c.toNat ≤ 0x39 := by
  simp [Char.isDigit_iff_toNat]

theorem isUpper_iff : c.isUpper = true ↔ 0x41 ≤ c.toNat ∧ c.toNat ≤ 0x5A := by
  change decide (c.val ≥ 'A'.val ∧ c.val ≤ 'Z'.val) = true ↔ _
  simp [UInt32.le_iff_toNat_le]

theorem isLower_iff : c.isLower = true ↔ 0x61 ≤ c.toNat ∧ c.toNat ≤ 0x7A := by
  change (decide (c.val ≥ 'a'.val) && decide (c.val ≤ 'z'.val)) = true ↔ _
  simp [UInt32.le_iff_toNat_le]

theorem isAlpha_iff :
    c.isAlpha = true ↔ 0x41 ≤ c.toNat ∧ c.toNat ≤ 0x5A ∨ 0x61 ≤ c.toNat ∧ c.toNat ≤ 0x7A := by
  rw [show c.isAlpha = (c.isUpper || c.isLower) from rfl, Bool.or_eq_true, isUpper_iff,
    isLower_iff]

theorem isAlphanum_iff :
    c.isAlphanum = true ↔ (0x41 ≤ c.toNat ∧ c.toNat ≤ 0x5A ∨ 0x61 ≤ c.toNat ∧ c.toNat ≤ 0x7A) ∨
      0x30 ≤ c.toNat ∧ c.toNat ≤ 0x39 := by
  rw [Char.isAlphanum, Bool.or_eq_true, isAlpha_iff, isDigit_iff]

theorem beq_iff_toNat {d : Char} : (c == d) = true ↔ c.toNat = d.toNat := by
  rw [beq_iff_eq, Char.toNat_inj]

theorem isUnreserved_iff :
    isUnreserved c = true ↔ c.isAlphanum = true ∨ c.toNat = 0x2D ∨ c.toNat = 0x2E ∨
      c.toNat = 0x5F ∨ c.toNat = 0x7E := by
  simp only [isUnreserved, Bool.or_eq_true, beq_iff_toNat, Char.reduceToNat, or_assoc]

theorem isSchemeChar_iff :
    isSchemeChar c = true ↔
      c.isAlphanum = true ∨ c.toNat = 0x2B ∨ c.toNat = 0x2D ∨ c.toNat = 0x2E := by
  simp only [isSchemeChar, Bool.or_eq_true, beq_iff_toNat, Char.reduceToNat, or_assoc]

theorem isHexDigit_iff :
    isHexDigit c = true ↔ 0x30 ≤ c.toNat ∧ c.toNat ≤ 0x39 ∨ 0x61 ≤ c.toNat ∧ c.toNat ≤ 0x66 ∨
      0x41 ≤ c.toNat ∧ c.toNat ≤ 0x46 := by
  simp [isHexDigit, isDigit_iff, Char.le_def, UInt32.le_iff_toNat_le, or_assoc]

theorem isControl_eq_false_iff : isControl c = false ↔ 0x20 ≤ c.toNat ∧ c.toNat ≠ 0x7F := by
  simp [isControl]

theorem toNat_toLower (c : Char) :
    0x41 ≤ c.toNat ∧ c.toNat ≤ 0x5A ∧ c.toLower.toNat = c.toNat + 0x20 ∨
      ¬(0x41 ≤ c.toNat ∧ c.toNat ≤ 0x5A) ∧ c.toLower.toNat = c.toNat := by
  unfold Char.toLower
  simp only [ge_iff_le, UInt32.le_iff_toNat_le, Char.toNat_val, Char.reduceToNat]
  split
  next h =>
    have hsum : (c.val + 0x20).toNat = c.toNat + 0x20 := by
      rw [UInt32.toNat_add, Char.toNat_val]
      exact Nat.mod_eq_of_lt (by simp only [UInt32.reduceToNat]; omega)
    exact .inl ⟨h.1, h.2, hsum⟩
  next h => exact .inr ⟨h, rfl⟩

end Codes

section Classes

variable {c : Char}

/-- A character that a class has is none that it leaves out. -/
theorem ne_of_class {p : Char → Bool} {d : Char} (hc : p c = true) (hd : p d = false) : c ≠ d := by
  rintro rfl
  rw [hc] at hd
  cases hd

theorem of_isUnreserved (h : isUnreserved c = true) : 0x20 ≤ c.toNat ∧ c.toNat < 0x7F := by
  rw [isUnreserved_iff, isAlphanum_iff] at h
  omega

theorem isUnreserved_of_isHexDigit (h : isHexDigit c = true) : isUnreserved c = true := by
  rw [isHexDigit_iff] at h
  rw [isUnreserved_iff, isAlphanum_iff]
  omega

theorem isUnreserved_toLower (h : isUnreserved c = true) : isUnreserved c.toLower = true := by
  have hlower := toNat_toLower c
  rw [isUnreserved_iff, isAlphanum_iff] at h ⊢
  omega

theorem toLower_toLower (c : Char) : c.toLower.toLower = c.toLower := by
  have hlower := toNat_toLower c
  have hagain := toNat_toLower c.toLower
  rw [← Char.toNat_inj]
  omega

theorem isDigit_toLower (c : Char) : c.toLower.isDigit = c.isDigit := by
  have hlower := toNat_toLower c
  rw [Bool.eq_iff_iff, isDigit_iff, isDigit_iff]
  omega

theorem toLower_of_isDigit (h : c.isDigit = true) : c.toLower = c := by
  have hlower := toNat_toLower c
  rw [isDigit_iff] at h
  rw [← Char.toNat_inj]
  omega

theorem isSchemeChar_toLower (h : isSchemeChar c = true) : isSchemeChar c.toLower = true := by
  have hlower := toNat_toLower c
  rw [isSchemeChar_iff, isAlphanum_iff] at h ⊢
  omega

theorem isAlpha_toLower (h : c.isAlpha = true) : c.toLower.isAlpha = true := by
  have hlower := toNat_toLower c
  rw [isAlpha_iff] at h ⊢
  omega

theorem isControl_of_isSchemeChar (h : isSchemeChar c = true) : isControl c = false := by
  rw [isSchemeChar_iff, isAlphanum_iff] at h
  rw [isControl_eq_false_iff]
  omega

end Classes

/-- What may stand in a name of a host. -/
def isHostChar (c : Char) : Bool :=
  isUnreserved c || isHostSafe c

def hostMarks : List Char :=
  "!$&'()*+,;=\"`\x7b\x7d%|\\".toList

/-- What does not end an authority. -/
def isAuthorityChar (c : Char) : Bool :=
  !isControl c && c != '/' && c != '?' && c != '#'

section Characters

variable {c : Char}

theorem of_mem_hostMarks (h : c ∈ hostMarks) :
    0x20 ≤ c.toNat ∧ c.toNat < 0x7F ∧ c.toLower = c := by
  have hall : (hostMarks.all fun c => 0x20 ≤ c.toNat ∧ c.toNat < 0x7F ∧ c.toLower = c) = true := by
    decide
  exact of_decide_eq_true (List.all_eq_true.mp hall c h)

theorem isHostChar_cases (h : isHostChar c = true) : isUnreserved c = true ∨ c ∈ hostMarks :=
  (Bool.or_eq_true _ _ ▸ h).imp_right List.contains_iff_mem.mp

theorem printable_of_isHostChar (h : isHostChar c = true) : 0x20 ≤ c.toNat ∧ c.toNat < 0x7F := by
  obtain h | h := isHostChar_cases h
  · exact of_isUnreserved h
  · exact ⟨(of_mem_hostMarks h).1, (of_mem_hostMarks h).2.1⟩

theorem of_isHostChar (h : isHostChar c = true) :
    isAuthorityChar c = true ∧ c ≠ ':' ∧ c ≠ '@' ∧ c ≠ '[' ∧ c ≠ ']' := by
  obtain ⟨hlow, hhigh⟩ := printable_of_isHostChar h
  have hcontrol : isControl c = false := isControl_eq_false_iff.mpr ⟨hlow, by omega⟩
  have hauthority : isAuthorityChar c = true := by
    simp [isAuthorityChar, hcontrol, ne_of_class (d := '/') h rfl, ne_of_class (d := '?') h rfl,
      ne_of_class (d := '#') h rfl]
  exact ⟨hauthority, ne_of_class h rfl, ne_of_class h rfl, ne_of_class h rfl, ne_of_class h rfl⟩

theorem isHostChar_toLower (h : isHostChar c = true) : isHostChar c.toLower = true := by
  obtain hplain | hmark := isHostChar_cases h
  · simp [isHostChar, isUnreserved_toLower hplain]
  · rw [(of_mem_hostMarks hmark).2.2]
    exact h

theorem isHostChar_of_isDigit (h : c.isDigit = true) : isHostChar c = true := by
  simp [isHostChar, isUnreserved, Char.isAlphanum, h]

theorem of_isSafeBut {marks : String} (h : isSafeBut marks c = true) :
    isControl c = false ∧ c ∉ marks.toList := by
  simp only [isSafeBut, Bool.and_eq_true, decide_eq_true_eq, Bool.not_eq_true',
    List.contains_eq_mem, decide_eq_false_iff_not] at h
  obtain ⟨⟨hlow, hhigh⟩, hmarks⟩ := h
  refine ⟨?_, hmarks⟩
  simp only [isControl, Bool.or_eq_false_iff, decide_eq_false_iff_not, beq_eq_false_iff_ne]
  omega

theorem ne_of_isSafeBut {marks : String} {d : Char} (h : isSafeBut marks c = true)
    (hd : d ∈ marks.toList) : c ≠ d := by
  rintro rfl
  exact (of_isSafeBut h).2 hd

theorem of_isUserInfoSafe (h : isUserInfoSafe c = true) : isAuthorityChar c = true := by
  have hslash := ne_of_isSafeBut (d := '/') h (by decide)
  have hquestion := ne_of_isSafeBut (d := '?') h (by decide)
  have hhash := ne_of_isSafeBut (d := '#') h (by decide)
  simp [isAuthorityChar, (of_isSafeBut h).1, hslash, hquestion, hhash]

theorem isSafeBut_of_isUnreserved {marks : String}
    (hmarks : (marks.toList.all fun d => !isUnreserved d) = true) (h : isUnreserved c = true) :
    isSafeBut marks c = true := by
  have hnone : c ∉ marks.toList := by
    intro hmem
    have hreserved := List.all_eq_true.mp hmarks c hmem
    rw [h] at hreserved
    cases hreserved
  simp [isSafeBut, of_isUnreserved h, hnone]

/-- What never needs an escape is safe in every part. -/
theorem isSafe_of_isUnreserved (h : isUnreserved c = true) :
    isUserInfoSafe c = true ∧ isPathSafe c = true ∧ isQuerySafe c = true ∧
      isFragmentSafe c = true :=
  ⟨isSafeBut_of_isUnreserved (by decide) h, isSafeBut_of_isUnreserved (by decide) h,
    isSafeBut_of_isUnreserved (by decide) h, isSafeBut_of_isUnreserved (by decide) h⟩

end Characters

section Escapes

theorem isUnreserved_hexDigit {n : Nat} (h : n < 16) : isUnreserved (hexDigit n) = true := by
  have hall : ∀ n < 16, isUnreserved (hexDigit n) = true := by decide
  exact hall n h

variable {safe : Char → Bool} {cs : List Char} {c : Char}

theorem mem_escapeChar {d : Char} (h : c ∈ escapeChar safe d) :
    isUnreserved c = true ∨ safe c = true ∨ c = '%' := by
  unfold escapeChar at h
  split at h
  next hd =>
    obtain rfl := List.mem_singleton.mp h
    exact (Bool.or_eq_true _ _ ▸ hd).imp_right .inl
  next =>
    obtain ⟨byte, -, hbyte⟩ := List.mem_flatMap.mp h
    have hlt := byte.toNat_lt
    simp only [escapeByte, List.mem_cons, List.not_mem_nil, or_false] at hbyte
    obtain rfl | rfl | rfl := hbyte
    · exact .inr (.inr rfl)
    · exact .inl (isUnreserved_hexDigit (by omega))
    · exact .inl (isUnreserved_hexDigit (by omega))

theorem mem_escape (h : c ∈ escape safe cs) :
    isUnreserved c = true ∨ safe c = true ∨ c = '%' := by
  fun_induction escape safe cs with
  | case1 => cases h
  | case2 d => exact mem_escapeChar h
  | case3 d e => exact (List.mem_append.mp h).elim mem_escapeChar mem_escapeChar
  | case4 d e f rest hescape ih =>
    simp only [Bool.and_eq_true, beq_iff_eq] at hescape
    obtain ⟨⟨rfl, he⟩, hf⟩ := hescape
    simp only [List.mem_cons] at h
    obtain rfl | rfl | rfl | h := h
    · exact .inr (.inr rfl)
    · exact .inl (isUnreserved_of_isHexDigit he)
    · exact .inl (isUnreserved_of_isHexDigit hf)
    · exact ih h
  | case5 d e f rest hescape ih =>
    exact (List.mem_append.mp h).elim mem_escapeChar ih

theorem escape_of_safe (h : ∀ c ∈ cs, isUnreserved c = true ∨ safe c = true) :
    escape safe cs = cs := by
  have hchar : ∀ c, isUnreserved c = true ∨ safe c = true → escapeChar safe c = [c] :=
    fun c hc => if_pos (Bool.or_eq_true _ _ ▸ hc)
  fun_induction escape safe cs with
  | case1 => rfl
  | case2 d => exact hchar d (h d (by simp))
  | case3 d e => rw [hchar d (h d (by simp)), hchar e (h e (by simp))]; rfl
  | case4 d e f rest hescape ih => rw [ih fun c hc => h c (by simp [hc])]
  | case5 d e f rest hescape ih =>
    rw [hchar d (h d (by simp)), ih fun c hc => h c (List.mem_cons_of_mem _ hc)]
    rfl

/-- What is escaped is safe, if the escapes are. -/
theorem isSafe_of_mem_escape (hunreserved : ∀ c, isUnreserved c = true → safe c = true)
    (hpercent : safe '%' = true) : ∀ c ∈ escape safe cs, safe c = true := by
  intro c hc
  obtain hc | hc | rfl := mem_escape hc
  · exact hunreserved c hc
  · exact hc
  · exact hpercent

theorem escape_cons_of_safe (hc : safe c = true) : ∃ rest, escape safe (c :: cs) = c :: rest := by
  have hchar : escapeChar safe c = [c] := if_pos (by simp [hc])
  match cs with
  | [] => exact ⟨[], hchar⟩
  | [d] => exact ⟨_, by rw [escape, hchar]; rfl⟩
  | d :: e :: rest =>
    rw [escape, hchar]
    split
    · exact ⟨_, rfl⟩
    · exact ⟨_, rfl⟩

end Escapes

section Pieces

variable {separator c : Char} {cs : List Char}

theorem splitAt_ne_nil : splitAt separator cs ≠ [] := by
  cases cs with
  | nil => simp [splitAt]
  | cons c rest =>
    rw [splitAt]
    split
    next => simp
    next => split <;> simp

theorem splitAt_of_not_mem (h : separator ∉ cs) : splitAt separator cs = [cs] := by
  induction cs with
  | nil => rfl
  | cons d rest ih =>
    simp only [List.mem_cons, not_or] at h
    rw [splitAt, if_neg (by simpa using Ne.symm h.1), ih h.2]

variable (separator) in
theorem mem_splitAt (h : c ∈ cs) :
    c = separator ∨ ∃ piece ∈ splitAt separator cs, c ∈ piece := by
  induction cs with
  | nil => cases h
  | cons d rest ih =>
    rw [splitAt]
    split
    next hd =>
      rcases List.mem_cons.mp h with rfl | h
      · exact .inl (beq_iff_eq.mp hd)
      · exact (ih h).imp_right fun ⟨piece, hmem, hc⟩ => ⟨piece, List.mem_cons_of_mem _ hmem, hc⟩
    next =>
      split
      next piece pieces hsplit =>
        rcases List.mem_cons.mp h with rfl | h
        · exact .inr ⟨c :: piece, List.mem_cons_self, List.mem_cons_self⟩
        · obtain hsep | ⟨other, hmem, hc⟩ := ih h
          · exact .inl hsep
          · rw [hsplit] at hmem
            rcases List.mem_cons.mp hmem with rfl | hmem
            · exact .inr ⟨d :: other, List.mem_cons_self, List.mem_cons_of_mem _ hc⟩
            · exact .inr ⟨other, List.mem_cons_of_mem _ hmem, hc⟩
      next hsplit => exact absurd hsplit splitAt_ne_nil

theorem mem_joinWith {pieces : List (List Char)} (h : c ∈ joinWith separator pieces) :
    c = separator ∨ ∃ piece ∈ pieces, c ∈ piece := by
  unfold joinWith at h
  induction pieces with
  | nil => simp at h
  | cons piece rest ih =>
    by_cases hrest : rest = []
    · subst hrest
      rw [List.intercalate_singleton] at h
      exact .inr ⟨piece, List.mem_singleton_self _, h⟩
    · rw [List.intercalate_cons_of_ne_nil hrest, List.mem_append, List.mem_append] at h
      obtain (h | h) | h := h
      · exact .inr ⟨piece, List.mem_cons_self, h⟩
      · exact .inl (List.mem_singleton.mp h)
      · obtain hsep | ⟨other, hmem, hc⟩ := ih h
        · exact .inl hsep
        · exact .inr ⟨other, List.mem_cons_of_mem _ hmem, hc⟩

/-- A path that starts with a slash still does, or is empty, when its dots are dropped. -/
theorem head?_dropDots {path : List Char} (h : ∀ c ∈ path.head?, c = '/') :
    ∀ c ∈ (dropDots path).head?, c = '/' := by
  cases path with
  | nil => exact h
  | cons first rest =>
    obtain rfl := h first rfl
    have hpieces : splitAt '/' ('/' :: rest) = [] :: splitAt '/' rest := rfl
    unfold dropDots
    dsimp only
    split
    · exact h
    · rw [hpieces, List.foldl_cons]
      generalize hfold : List.foldl _ _ _ = kept
      have hhead : kept.head? = some [] := by
        rw [← hfold]
        -- the empty piece in front of the first slash is never dropped
        refine List.foldlRecOn (motive := fun kept : List (List Char) => kept.head? = some [])
          _ _ rfl ?_
        intro kept hkept piece _
        obtain ⟨more, rfl⟩ := List.head?_eq_some_iff.mp hkept
        split
        · rfl
        · split
          · cases more <;> rfl
          · rfl
      cases kept with
      | nil => cases hhead
      | cons k more =>
        obtain rfl := Option.some.inj hhead
        cases more with
        | nil => nofun
        | cons l more =>
          rw [joinWith, List.intercalate_cons_cons]
          intro c hc
          exact (Option.some.inj hc).symm

end Pieces

section Cuts

variable {p : Char → Bool} {front rest : List Char} {c : Char}

theorem cutAt_eq_self (h : ∀ c ∈ front, p c = false) : cutAt p front = (front, none) := by
  have hdrop : front.dropWhile (fun c => !p c) = [] :=
    List.dropWhile_eq_nil_iff.mpr fun c hc => by simp [h c hc]
  rw [cutAt, hdrop]

theorem cutAt_cons (hc : p c = false) :
    cutAt p (c :: rest) = (c :: (cutAt p rest).1, (cutAt p rest).2) := by
  unfold cutAt
  rw [List.dropWhile_cons_of_pos (by simp [hc]), List.takeWhile_cons_of_pos (by simp [hc])]
  cases rest.dropWhile fun c => !p c <;> rfl

theorem cutAt_append (h : ∀ c ∈ front, p c = false) (hc : p c = true) :
    cutAt p (front ++ c :: rest) = (front, some rest) := by
  have hall : ∀ c ∈ front, (!p c) = true := fun c hmem => by simp [h c hmem]
  have hdrop : (front ++ c :: rest).dropWhile (fun c => !p c) = c :: rest := by
    rw [List.dropWhile_append_of_pos hall, List.dropWhile_cons_of_neg (by simp [hc])]
  have htake : (front ++ c :: rest).takeWhile (fun c => !p c) = front := by
    rw [List.takeWhile_append_of_pos hall, List.takeWhile_cons_of_neg (by simp [hc]),
      List.append_nil]
  rw [cutAt, hdrop]
  exact Prod.ext htake rfl

theorem mem_of_mem_cutAt {d : Char} {cs : List Char} :
    (d ∈ (cutAt p cs).1 → d ∈ cs) ∧
      ∀ behind, (cutAt p cs).2 = some behind → d ∈ behind → d ∈ cs := by
  unfold cutAt
  split
  next => exact ⟨fun h => h, nofun⟩
  next first rest hdrop =>
    refine ⟨fun h => (List.takeWhile_prefix _).subset h, fun behind hbehind h => ?_⟩
    obtain rfl := Option.some.inj hbehind
    have hmem := List.mem_cons_of_mem first h
    rw [← hdrop] at hmem
    exact (List.dropWhile_suffix _).subset hmem

/-- A text before its longest end of a kind, counted from the front. -/
theorem take_eq_rdropWhile (p : Char → Bool) (cs : List Char) :
    cs.take (cs.length - (cs.rtakeWhile p).length) = cs.rdropWhile p := by
  have happend : cs.rdropWhile p ++ cs.rtakeWhile p = cs := List.rdropWhile_append_rtakeWhile
  have hlength := congrArg List.length happend
  rw [List.length_append] at hlength
  calc cs.take (cs.length - (cs.rtakeWhile p).length)
      = (cs.rdropWhile p ++ cs.rtakeWhile p).take (cs.length - (cs.rtakeWhile p).length) := by
        rw [happend]
    _ = cs.rdropWhile p := List.take_left' (by omega)

/-- The longest end of a kind behind a character of another kind. -/
theorem rtakeWhile_append {p : Char → Bool} {front back : List Char}
    (hback : ∀ c ∈ back, p c = true) (hfront : ∀ c ∈ front.getLast?, p c = false) :
    (front ++ back).rtakeWhile p = back := by
  have hall : ∀ c ∈ back.reverse, p c = true := fun c hc => hback c (List.mem_reverse.mp hc)
  have hstop : ∀ c ∈ front.reverse.head?, p c = false := by
    rw [List.head?_reverse]
    exact hfront
  rw [List.rtakeWhile, List.reverse_append, takeWhile_run hall hstop, List.reverse_reverse]

end Cuts

end Url

end GridRules
