import GridRules.Proofs.EncodedNames
/-!
Hosts as URLs have them: an address of the long kind, which the text of a URL puts in brackets, or a
name. Encoding one of them again leaves an address as it is and writes a name in lower case.
-/

namespace GridRules

namespace Url

/-- What a URL can have as its host. -/
def IsHost (host : List Char) : Prop :=
  (∀ c ∈ host, isHostChar c = true) ∨
    isIpv6 host = true ∧ ∀ c ∈ host, isAuthorityChar c = true ∧ c ≠ '@'

/-- A host as the text of a URL has it. -/
def bracketed (host : List Char) : List Char :=
  if host.contains ':' then '[' :: host ++ [']'] else host

section Addresses

variable {host : List Char}

theorem dot_or_isDigit_of_isIpv4 (h : isIpv4 host = true) :
    ∀ c ∈ host, c = '.' ∨ c.isDigit = true := by
  unfold isIpv4 at h
  simp only [Bool.and_eq_true, List.all_eq_true] at h
  intro c hc
  obtain rfl | ⟨octet, hoctet, hc⟩ := mem_splitAt '.' hc
  · exact .inl rfl
  · have hdigits := h.2 octet hoctet
    simp only [isOctet, Bool.and_eq_true, List.all_eq_true] at hdigits
    exact .inr (hdigits.1.1.1.2 c hc)

theorem map_toLower_of_isIpv4 (h : isIpv4 host = true) : host.map Char.toLower = host := by
  have hkept : ∀ c ∈ host, c.toLower = c := by
    intro c hc
    obtain rfl | hdigit := dot_or_isDigit_of_isIpv4 h c hc
    · rfl
    · exact toLower_of_isDigit hdigit
  exact (List.map_congr_left hkept).trans (List.map_id' host)

theorem colon_mem_of_isIpv6Groups (h : isIpv6Groups host = true) : ':' ∈ host := by
  by_contra hnone
  have hpieces : ipv6Pieces host = none := by
    simp [ipv6Pieces, splitAt_of_not_mem hnone]
  rw [isIpv6Groups, hpieces] at h
  cases h

theorem colon_mem_of_isIpv6 (h : isIpv6 host = true) : ':' ∈ host := by
  have hgroups : isIpv6Groups (cutAt (· == '%') host).1 = true := by
    unfold isIpv6 at h
    split at h
    next hcut => simpa [hcut] using h
    next hcut => simpa [hcut] using (Bool.and_eq_true _ _ ▸ h).2
  exact mem_of_mem_cutAt.1 (colon_mem_of_isIpv6Groups hgroups)

theorem contains_colon_of_isIpv6 (h : isIpv6 host = true) : host.contains ':' = true :=
  List.contains_iff_mem.mpr (colon_mem_of_isIpv6 h)

theorem not_contains_colon (h : ∀ c ∈ host, isHostChar c = true) : host.contains ':' = false := by
  rw [Bool.eq_false_iff, ne_eq, List.contains_iff_mem]
  intro hmem
  exact (of_isHostChar (h _ hmem)).2.1 rfl

end Addresses

section Numeric

theorem looksNumeric_map {f : Char → Char} {host : List Char} {separators : Nat} {seen : Bool}
    (h : ∀ c ∈ host, (f c).isDigit = c.isDigit) :
    looksNumeric separators seen (host.map f) = looksNumeric separators seen host := by
  induction host generalizing separators seen with
  | nil => rfl
  | cons c rest ih =>
    have hrest : ∀ separators seen, looksNumeric separators seen (rest.map f) =
        looksNumeric separators seen rest :=
      fun _ _ => ih fun d hd => h d (List.mem_cons_of_mem _ hd)
    cases separators <;>
      simp only [List.map_cons, looksNumeric, h c List.mem_cons_self, hrest]

end Numeric

section Encoding

variable {host sent : List Char}

theorem isHost_of_encodeHost (hchars : ∀ c ∈ host, isAuthorityChar c = true ∧ c ≠ '@')
    (h : encodeHost host = some sent) : IsHost sent := by
  unfold encodeHost at h
  split at h
  next =>
    obtain rfl := Option.some.inj h
    exact .inl nofun
  next =>
    split at h
    next =>
      split at h
      next haddress =>
        obtain rfl := Option.some.inj h
        refine .inl fun c hc => ?_
        obtain rfl | hdigit := dot_or_isDigit_of_isIpv4 haddress c hc
        · rfl
        · exact isHostChar_of_isDigit hdigit
      next => cases h
    next =>
      split at h
      next hbrackets =>
        dsimp only at h
        split at h
        next haddress =>
          obtain rfl := Option.some.inj h
          exact .inr ⟨haddress, fun c hc =>
            hchars c (List.mem_of_mem_tail (List.dropLast_subset _ hc))⟩
        next => cases h
      next =>
        split at h
        next =>
          obtain rfl := Option.some.inj h
          refine .inl fun c hc => ?_
          obtain hc | hc | rfl := mem_escape hc
          · simp [isHostChar, hc]
          · simp [isHostChar, hc]
          · rfl
        next => exact .inl (Idna.isHostChar_of_encode h)

/-- A name has nothing to escape, in any case of its letters. -/
theorem escape_toLower (h : ∀ c ∈ host, isHostChar c = true) :
    escape isHostSafe (host.map Char.toLower) = host.map Char.toLower := by
  refine escape_of_safe fun c hc => ?_
  obtain ⟨d, hd, rfl⟩ := List.mem_map.mp hc
  exact Bool.or_eq_true _ _ ▸ isHostChar_toLower (h d hd)

/-- A host that is encoded again. -/
theorem encodeHost_bracketed (h : IsHost host) :
    encodeHost (bracketed host) =
      if host.contains ':' then some host
      else if looksNumeric 3 false host && !isIpv4 host then none
      else some (host.map Char.toLower) := by
  obtain hname | ⟨haddress, -⟩ := h
  -- a name is in ASCII, so it is only tested for a numeral and put in lower case
  · have hcolon := not_contains_colon hname
    have hascii : (host.all fun c => c.toNat < 0x80) = true :=
      List.all_eq_true.mpr fun c hc => decide_eq_true (by
        have hprintable := printable_of_isHostChar (hname c hc)
        omega)
    have hbracket : (host.head? == some '[') = false := by
      rw [beq_eq_false_iff_ne]
      intro hhead
      have hmem := List.mem_of_mem_head? (Option.mem_def.mpr hhead)
      exact (of_isHostChar (hname _ hmem)).2.2.2.1 rfl
    rw [bracketed, hcolon, if_neg (by decide), if_neg (by decide)]
    cases host with
    | nil => rfl
    | cons c rest =>
      unfold encodeHost
      rw [hbracket, hascii, escape_toLower hname]
      by_cases hnumeric : looksNumeric 3 false (c :: rest) = true
      · by_cases hipv4 : isIpv4 (c :: rest) = true
        · simp [hnumeric, hipv4, map_toLower_of_isIpv4 hipv4]
        · simp [hnumeric, hipv4]
      · simp [hnumeric]
  -- an address is taken out of the brackets that were put around it
  · have hcolon := contains_colon_of_isIpv6 haddress
    have hnumeric : looksNumeric 3 false ('[' :: (host ++ [']'])) = false := by
      simp [looksNumeric]
    have hlast : ('[' :: (host ++ [']'])).getLast? = some ']' := by
      rw [← List.cons_append, List.getLast?_concat]
    rw [bracketed, hcolon, if_pos rfl, if_pos rfl]
    unfold encodeHost
    simp [hnumeric, hlast, haddress]

end Encoding

end Url

end GridRules
