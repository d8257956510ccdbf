import GridRules.Proofs.UrlEscapes
/-!
Names that are encoded for sending are made of letters, digits and hyphens, with dots between their
labels: a label that is in ASCII already has to decode, and nothing else decodes to what names may
have.
-/

namespace GridRules

namespace Idna

def isLabelChar (c : Char) : Bool :=
  c.isAlphanum || c == '-'

theorem isLabelChar_iff {c : Char} :
    isLabelChar c = true ↔ c.isAlphanum = true ∨ c.toNat = 0x2D := by
  rw [isLabelChar, Bool.or_eq_true, Url.beq_iff_toNat]
  rfl

theorem isHostChar_of_isLabelChar {c : Char} (h : isLabelChar c = true) :
    Url.isHostChar c = true := by
  rw [isLabelChar_iff] at h
  have hunreserved : Url.isUnreserved c = true :=
    Url.isUnreserved_iff.mpr (h.imp_right .inl)
  simp [Url.isHostChar, hunreserved]

theorem isLabelChar_of_isNameChar {c : Char} (h : isNameChar c = true) (hc : c.toNat < 0x80) :
    isLabelChar c = true := by
  have hranges : ∀ range ∈ nameRanges, range.1 < 0x80 → ∀ n ≤ range.2, range.1 ≤ n →
      isLabelChar (Char.ofNat n) = true := by decide +kernel
  have hfar : ∀ range ∈ alternatingRanges, 0x80 ≤ range.1 := by decide +kernel
  simp only [isNameChar, inRanges, Bool.or_eq_true, List.any_eq_true, Bool.and_eq_true,
    decide_eq_true_eq] at h
  obtain ⟨range, hmem, hlow, hhigh⟩ | ⟨range, hmem, ⟨hlow, -⟩, -⟩ := h
  · have hlabel := hranges range hmem (by omega) c.toNat hhigh hlow
    rwa [Char.ofNat_toNat] at hlabel
  · have hlarge := hfar range hmem
    omega

theorem isLabelChar_of_toLower {c : Char} (h : isLabelChar c.toLower = true) :
    isLabelChar c = true := by
  have hlower := Url.toNat_toLower c
  rw [isLabelChar_iff, Url.isAlphanum_iff] at h ⊢
  omega

theorem isLabelChar_of_mem_mark {c : Char} (h : c ∈ mark) : isLabelChar c = true := by
  have hall : mark.all isLabelChar = true := by decide
  exact List.all_eq_true.mp hall c h

theorem all_of_isAllowed {label : List Char} (h : isAllowed label = true) :
    ∀ c ∈ label, isNameChar c = true := by
  simp only [isAllowed, Bool.and_eq_true] at h
  exact List.all_eq_true.mp h.2

section Decoding

theorem isLabelChar_of_digitValue? {c : Char} (h : (digitValue? c).isSome = true) :
    isLabelChar c = true := by
  rw [isLabelChar_iff, Url.isAlphanum_iff]
  unfold digitValue? at h
  simp only [Bool.and_eq_true, decide_eq_true_eq, Char.le_def, UInt32.le_iff_toNat_le,
    Char.toNat_val, Char.reduceToNat, Url.isDigit_iff] at h
  split at h
  next => omega
  next =>
    split at h
    next => omega
    next =>
      split at h
      next => omega
      next => cases h

/-- A distance is read off the front, digit by digit. -/
theorem readDistance_digits {bias place weight sum : Nat} {cs rest : List Char} {distance : Nat}
    (h : readDistance bias place weight sum cs = some (distance, rest)) :
    ∃ digits, digits ≠ [] ∧ cs = digits ++ rest ∧ ∀ c ∈ digits, (digitValue? c).isSome = true := by
  induction cs generalizing place weight sum with
  | nil => simp [readDistance] at h
  | cons c more ih =>
    rw [readDistance] at h
    obtain ⟨d, hd, h⟩ := Option.bind_eq_some_iff.mp h
    have hc : (digitValue? c).isSome = true := by rw [hd]; rfl
    dsimp only at h
    split at h
    next =>
      obtain ⟨-, rfl⟩ := Prod.mk.inj (Option.some.inj h)
      exact ⟨[c], by simp, rfl, by simpa using hc⟩
    next =>
      obtain ⟨digits, -, rfl, hdigits⟩ := ih h
      exact ⟨c :: digits, by simp, rfl, by simpa using ⟨hc, hdigits⟩⟩

/-- What was there stays, and whatever is read is a digit. -/
theorem readAll_spec {fuel code place bias : Nat} {output cs shown : List Char}
    (hfuel : cs.length ≤ fuel) (h : readAll fuel code place bias output cs = some shown) :
    (∀ c ∈ output, c ∈ shown) ∧ ∀ c ∈ cs, (digitValue? c).isSome = true := by
  induction fuel generalizing code place bias output cs with
  | zero =>
    obtain rfl : cs = [] := List.length_eq_zero_iff.mp (Nat.le_zero.mp hfuel)
    obtain rfl := Option.some.inj h
    exact ⟨fun c hc => hc, nofun⟩
  | succ fuel ih =>
    cases cs with
    | nil =>
      obtain rfl := Option.some.inj h
      exact ⟨fun c hc => hc, nofun⟩
    | cons c more =>
      rw [readAll] at h
      · obtain ⟨⟨distance, rest⟩, hread, h⟩ := Option.bind_eq_some_iff.mp h
        obtain ⟨digits, hne, hdigits, hall⟩ := readDistance_digits hread
        dsimp only at h
        split at h
        next => cases h
        next =>
          have hlength := congrArg List.length hdigits
          have hpos := List.length_pos_iff.mpr hne
          rw [List.length_append] at hlength
          obtain ⟨houtput, hrest⟩ := ih (by omega) h
          -- a character is put in between, so the others stay
          refine ⟨fun d hd => houtput d ?_, fun d hd => ?_⟩
          · rw [← List.take_append_drop ((place + distance) % (output.length + 1)) output] at hd
            simp only [List.mem_append, List.mem_cons] at hd ⊢
            exact hd.imp_right .inr
          · rw [hdigits] at hd
            exact (List.mem_append.mp hd).elim (hall d) (hrest d)
      · exact nofun

theorem decodeLabel_spec {cs shown : List Char} (h : decodeLabel cs = some shown) :
    ∀ c ∈ cs, c = '-' ∨ (c ∈ shown ∧ c.toNat < 0x80) ∨ (digitValue? c).isSome = true := by
  have happend : cs.rdropWhile (· != '-') ++ cs.rtakeWhile (· != '-') = cs :=
    List.rdropWhile_append_rtakeWhile
  have hbehind : (cs.reverse.takeWhile (· != '-')).reverse = cs.rtakeWhile (· != '-') := rfl
  unfold decodeLabel at h
  dsimp only at h
  rw [hbehind, Url.take_eq_rdropWhile] at h
  split at h
  next hascii =>
    obtain ⟨hbasic, hdigits⟩ := readAll_spec le_rfl h
    intro c hc
    rw [← happend] at hc
    rcases List.mem_append.mp hc with hc | hc
    -- in front of the last hyphen stand the characters that stay, behind it the digits
    · have hne := List.ne_nil_of_mem hc
      rw [← List.dropLast_append_getLast hne] at hc
      rcases List.mem_append.mp hc with hc | hc
      · have hlt := List.all_eq_true.mp hascii c hc
        exact .inr (.inl ⟨hbasic c hc, of_decide_eq_true hlt⟩)
      · obtain rfl := List.mem_singleton.mp hc
        have hlast := List.rdropWhile_last_not _ _ hne
        exact .inl (by simpa using hlast)
    · exact .inr (.inr (hdigits c hc))
  next => cases h

end Decoding

section Sending

theorem isLabelChar_of_showLabel {label shown : List Char} (hascii : ∀ c ∈ label, c.toNat < 0x80)
    (h : showLabel label = some shown) : ∀ c ∈ label, isLabelChar c = true := by
  have hlower : ∀ c ∈ label, c.toLower ∈ label.map Char.toLower ∧ c.toLower.toNat < 0x80 := by
    intro c hc
    have hlt := hascii c hc
    have htoLower := Url.toNat_toLower c
    exact ⟨List.mem_map_of_mem hc, by omega⟩
  unfold showLabel at h
  dsimp only at h
  intro c hc
  obtain ⟨hmem, hlt⟩ := hlower c hc
  refine isLabelChar_of_toLower ?_
  split at h
  next hmark =>
    obtain ⟨decoded, hdecoded, h⟩ := Option.bind_eq_some_iff.mp h
    split at h
    next hallowed =>
      simp only [Bool.and_eq_true] at hallowed
      obtain ⟨encoded, hencoded⟩ := List.isPrefixOf_iff_prefix.mp hmark
      rw [← hencoded] at hmem hdecoded
      rcases List.mem_append.mp hmem with hmem | hmem
      · exact isLabelChar_of_mem_mark hmem
      · obtain heq | ⟨hshown, -⟩ | hdigit := decodeLabel_spec hdecoded c.toLower hmem
        · rw [heq]
          rfl
        · exact isLabelChar_of_isNameChar (all_of_isAllowed hallowed.1.1 _ hshown) hlt
        · exact isLabelChar_of_digitValue? hdigit
    next => cases h
  next =>
    split at h
    next hallowed => exact isLabelChar_of_isNameChar (all_of_isAllowed hallowed _ hmem) hlt
    next => cases h

theorem isLabelChar_digitChar {n : Nat} (h : n < 36) : isLabelChar (digitChar n) = true := by
  have hall : ∀ n < 36, isLabelChar (digitChar n) = true := by decide
  exact hall n h

theorem threshold_bounds (bias place : Nat) :
    1 ≤ threshold bias place ∧ threshold bias place ≤ 26 := by
  unfold threshold
  split
  · omega
  · split <;> omega

theorem isLabelChar_of_mem_writeDistance {bias fuel place n : Nat} :
    ∀ c ∈ writeDistance bias fuel place n, isLabelChar c = true := by
  induction fuel generalizing place n with
  | zero => nofun
  | succ fuel ih =>
    obtain ⟨hlow, hhigh⟩ := threshold_bounds bias place
    have hmod := Nat.mod_lt (n - threshold bias place)
      (show 0 < 36 - threshold bias place by omega)
    rw [writeDistance]
    intro c hc
    split at hc
    · obtain rfl := List.mem_singleton.mp hc
      exact isLabelChar_digitChar (by omega)
    · rcases List.mem_cons.mp hc with rfl | hc
      · exact isLabelChar_digitChar (by omega)
      · exact ih c hc

/-- Whatever is written is made of digits of distances. -/
theorem isLabelChar_of_mem_writePlaces {basic code : Nat} {codes : List Nat} {state : Progress}
    (h : ∀ c ∈ state.output, isLabelChar c = true) :
    ∀ c ∈ (writePlaces basic code codes state).output, isLabelChar c = true := by
  unfold writePlaces
  induction codes generalizing state with
  | nil => exact h
  | cons n rest ih =>
    refine ih ?_
    dsimp only
    split
    · exact h
    · split
      · intro c hc
        exact (List.mem_append.mp hc).elim (h c) (isLabelChar_of_mem_writeDistance c)
      · exact h

theorem isLabelChar_of_mem_writeAll {basic last : Nat} {codes others : List Nat} {state : Progress}
    (h : ∀ c ∈ state.output, isLabelChar c = true) :
    ∀ c ∈ writeAll basic codes others last state, isLabelChar c = true := by
  induction others generalizing last state with
  | nil => exact h
  | cons code rest ih => exact ih (isLabelChar_of_mem_writePlaces h)

theorem isLabelChar_of_mem_encodeLabel {label : List Char} (h : isAllowed label = true) :
    ∀ c ∈ encodeLabel label, isLabelChar c = true := by
  have hbasic : ∀ c ∈ label.filter fun c => c.toNat < 0x80, isLabelChar c = true := by
    intro c hc
    obtain ⟨hmem, hlt⟩ := List.mem_filter.mp hc
    exact isLabelChar_of_isNameChar (all_of_isAllowed h c hmem) (of_decide_eq_true hlt)
  intro c hc
  unfold encodeLabel at hc
  rcases List.mem_append.mp hc with hc | hc
  · split at hc
    · cases hc
    · rcases List.mem_append.mp hc with hc | hc
      · exact hbasic c hc
      · obtain rfl := List.mem_singleton.mp hc
        rfl
  · exact isLabelChar_of_mem_writeAll (List.forall_mem_nil _) c hc

theorem isLabelChar_of_sendLabel {label sent : List Char} (h : sendLabel label = some sent) :
    ∀ c ∈ sent, isLabelChar c = true := by
  unfold sendLabel at h
  split at h
  next hascii =>
    obtain ⟨shown, hshown, h⟩ := Option.bind_eq_some_iff.mp h
    split at h
    next => cases h
    next =>
      obtain rfl := Option.some.inj h
      have hlt : ∀ c ∈ label, c.toNat < 0x80 := fun c hc =>
        of_decide_eq_true (List.all_eq_true.mp hascii c hc)
      exact isLabelChar_of_showLabel hlt hshown
  next =>
    split at h
    next hallowed =>
      dsimp only at h
      split at h
      next => cases h
      next =>
        obtain rfl := Option.some.inj h
        intro c hc
        exact (List.mem_append.mp hc).elim isLabelChar_of_mem_mark
          (isLabelChar_of_mem_encodeLabel hallowed c)
    next => cases h

theorem exists_of_mem_mapM {f : List Char → Option (List Char)} {pieces done : List (List Char)}
    (h : pieces.mapM f = some done) : ∀ y ∈ done, ∃ x ∈ pieces, f x = some y := by
  induction pieces generalizing done with
  | nil =>
    obtain rfl := Option.some.inj h
    nofun
  | cons piece rest ih =>
    rw [List.mapM_cons] at h
    obtain ⟨first, hfirst, h⟩ := Option.bind_eq_some_iff.mp h
    obtain ⟨others, hothers, h⟩ := Option.bind_eq_some_iff.mp h
    obtain rfl := Option.some.inj h
    intro y hy
    rcases List.mem_cons.mp hy with rfl | hy
    · exact ⟨piece, List.mem_cons_self, hfirst⟩
    · obtain ⟨x, hx, hxy⟩ := ih hothers y hy
      exact ⟨x, List.mem_cons_of_mem _ hx, hxy⟩

/-- A name that is sent is in ASCII and has no delimiter in it. -/
theorem isHostChar_of_encode {name sent : List Char} (h : encode name = some sent) :
    ∀ c ∈ sent, Url.isHostChar c = true := by
  obtain ⟨converted, hconverted, h⟩ := Option.bind_eq_some_iff.mp h
  obtain ⟨done, hdone, hjoined⟩ := Option.bind_eq_some_iff.mp hconverted
  split at h
  next =>
    obtain rfl := Option.some.inj h
    obtain rfl := Option.some.inj hjoined
    have hlabels : ∀ piece ∈ done, ∀ c ∈ piece, isLabelChar c = true := by
      intro piece hpiece
      obtain ⟨label, -, hsent⟩ := exists_of_mem_mapM hdone piece hpiece
      exact isLabelChar_of_sendLabel hsent
    intro c hc
    obtain rfl | ⟨piece, hpiece, hc⟩ := Url.mem_joinWith hc
    · decide
    · refine isHostChar_of_isLabelChar ?_
      split at hpiece
      · rcases List.mem_append.mp hpiece with hpiece | hpiece
        · exact hlabels piece hpiece c hc
        · obtain rfl := List.mem_singleton.mp hpiece
          cases hc
      · exact hlabels piece hpiece c hc
  next => cases h

end Sending

end Idna

end GridRules
