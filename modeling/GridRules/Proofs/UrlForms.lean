import GridRules.Proofs.HostForms
import GridRules.Proofs.NumberTexts
import GridRules.Url.Join
/-!
The form of URLs. Whatever parts a URL is made of, it is in form, and it can be made of its own
parts again; then its host is in lower case and its port not the one that the scheme implies.
-/

namespace GridRules

namespace Numeral

theorem trimList_of_none {p : Char → Bool} {cs : List Char} (h : ∀ c ∈ cs, p c = false) :
    trimList p cs = cs := by
  have hdrop : ∀ ds : List Char, (∀ c ∈ ds, p c = false) → ds.dropWhile p = ds := by
    intro ds hds
    cases ds with
    | nil => rfl
    | cons d rest => exact List.dropWhile_cons_of_neg (by simp [hds d (by simp)])
  rw [trimList, hdrop cs h, hdrop cs.reverse fun c hc => h c (List.mem_reverse.mp hc),
    List.reverse_reverse]

theorem dropUnderscores?_of_not_mem {before : Option Char} {cs : List Char} (h : '_' ∉ cs) :
    dropUnderscores? before cs = some cs := by
  induction cs generalizing before with
  | nil => rfl
  | cons c rest ih =>
    simp only [List.mem_cons, not_or] at h
    rw [dropUnderscores?, ih h.2]
    · rfl
    · rintro rfl
      exact h.1 rfl

theorem mem_toString_int {n : Int} {c : Char} (h : c ∈ (toString n).toList) :
    c = '-' ∨ c.isDigit = true := by
  rw [toString_int_toList] at h
  split at h
  · exact (List.mem_cons.mp h).imp_right (Nat.isDigit_of_mem_toDigits (by decide) (by decide))
  · exact .inr (Nat.isDigit_of_mem_toDigits (by decide) (by decide) h)

/-- A numeral in ASCII is left as it is before it is read. -/
theorem asciiDigits_of_plain {cs : List Char} (h : ∀ c ∈ cs, c = '-' ∨ c.isDigit = true) :
    asciiDigits (trimList isBlank cs) = cs ∧ '_' ∉ cs := by
  have hdigits : ∀ n < 10, isBlank (Char.ofNat (0x30 + n)) = false ∧
      decimalValue? (Char.ofNat (0x30 + n)) = some n ∧
        Nat.digitChar n = Char.ofNat (0x30 + n) := by decide
  have hplain : ∀ c ∈ cs, isBlank c = false ∧ c ≠ '_' ∧ asciiDigits [c] = [c] := by
    intro c hc
    obtain rfl | hdigit := h c hc
    · decide
    · obtain ⟨hlow, hhigh⟩ := Url.isDigit_iff.mp hdigit
      obtain ⟨hblank, hvalue, hchar⟩ := hdigits (c.toNat - 0x30) (by omega)
      rw [Nat.add_sub_cancel' hlow, Char.ofNat_toNat] at hblank hvalue hchar
      refine ⟨hblank, Url.ne_of_class hdigit rfl, ?_⟩
      rw [asciiDigits, List.map_singleton, hvalue]
      exact congrArg (fun d => [d]) hchar
  rw [trimList_of_none fun c hc => (hplain c hc).1]
  refine ⟨?_, fun hmem => (hplain _ hmem).2.1 rfl⟩
  have hkept : ∀ c ∈ cs, _ = c := fun c hc => List.singleton_inj.mp (hplain c hc).2.2
  exact (List.map_congr_left hkept).trans (List.map_id' cs)

/-- An integer is read back from its text. -/
theorem integer?_toString (n : Int) : integer? (toString n) = some n := by
  obtain ⟨hdigits, hplain⟩ := asciiDigits_of_plain fun c => mem_toString_int (n := n)
  have hall : (Nat.toDigits 10 n.natAbs).all Char.isDigit = true :=
    List.all_eq_true.mpr fun c => Nat.isDigit_of_mem_toDigits (by decide) (by decide)
  have hne : (Nat.toDigits 10 n.natAbs).isEmpty = false := by
    simp
  rw [integer?, hdigits, dropUnderscores?_of_not_mem hplain, toString_int_toList]
  by_cases hneg : n < 0
  · rw [if_pos hneg]
    simp only [Option.bind_eq_bind, Option.bind_some, takeSign, hall, hne, Bool.not_true,
      Bool.or_self, Bool.false_eq_true, ↓reduceIte, Nat.ofDigitChars_ten_toDigits]
    exact congrArg some (by omega)
  · rw [if_neg hneg]
    have hsign : takeSign (Nat.toDigits 10 n.natAbs) = (false, Nat.toDigits 10 n.natAbs) :=
      (reads_toDigits _).takeSign_eq
    simp only [Option.bind_eq_bind, Option.bind_some, hsign, hall, hne, Bool.not_true,
      Bool.or_self, Bool.false_eq_true, ↓reduceIte, Nat.ofDigitChars_ten_toDigits]
    exact congrArg some (by omega)

end Numeral

namespace Url

/-- A scheme, or none. -/
def IsScheme (scheme : List Char) : Prop :=
  ∀ c rest, scheme = c :: rest → c.isAlpha = true ∧ ∀ d ∈ rest, isSchemeChar d = true

/-- What a URL has in its parts after it was read or changed. -/
structure Formed (url : Url) : Prop where
  scheme : IsScheme url.scheme
  lower : url.scheme.map Char.toLower = url.scheme
  userInfo : ∀ c ∈ url.userInfo, isUserInfoSafe c = true
  host : IsHost url.host
  path : ∀ c ∈ url.path, isPathSafe c = true
  rooted : url.authority ≠ [] → ∀ c ∈ url.path.head?, c = '/'
  query : ∀ query ∈ url.query, ∀ c ∈ query, isQuerySafe c = true
  fragment : ∀ fragment ∈ url.fragment, ∀ c ∈ fragment, isFragmentSafe c = true

section Ports

def portDigits : Option Int → List Char
  | some n => (toString n).toList
  | none => []

theorem mem_portText {port : Option Int} {c : Char} (h : c ∈ portText port) :
    c = ':' ∨ c = '-' ∨ c.isDigit = true := by
  cases port with
  | none => cases h
  | some n => exact (List.mem_cons.mp h).imp_right Numeral.mem_toString_int

theorem of_mem_portText {port : Option Int} {c : Char} (h : c ∈ portText port) :
    isAuthorityChar c = true ∧ c ≠ '@' ∧ c ≠ '[' ∧ c ≠ ']' := by
  obtain rfl | rfl | hdigit := mem_portText h
  · decide
  · decide
  · obtain ⟨hauthority, -, hrest⟩ := of_isHostChar (isHostChar_of_isDigit hdigit)
    exact ⟨hauthority, hrest⟩

/-- A port that is read again; the default port of the scheme is dropped. -/
theorem readPort_portDigits (scheme : List Char) (port : Option Int) :
    readPort scheme (portDigits port) =
      some (port.filter fun n => some n != defaultPort? scheme) := by
  cases port with
  | none => rfl
  | some n =>
    have hne : (toString n).toList.isEmpty = false := by
      have hshows := (Numeral.shows_int n).ne_nil
      simpa using hshows
    rw [portDigits, readPort, hne, if_neg (by decide), String.ofList_toList,
      Numeral.integer?_toString, Option.map_some, Option.filter_some]
    by_cases hdefault : some n = defaultPort? scheme
    · simp [hdefault]
    · simp [hdefault]

end Ports

section Authorities

theorem of_mem_bracketed {host : List Char} (h : IsHost host) {c : Char} (hc : c ∈ bracketed host) :
    isAuthorityChar c = true ∧ c ≠ '@' := by
  have hhost : ∀ c ∈ host, isAuthorityChar c = true ∧ c ≠ '@' := by
    obtain hname | ⟨-, haddress⟩ := h
    · intro c hc
      obtain ⟨hauthority, -, hat, -⟩ := of_isHostChar (hname c hc)
      exact ⟨hauthority, hat⟩
    · exact haddress
  unfold bracketed at hc
  split at hc
  · simp only [List.cons_append, List.mem_cons, List.mem_append, List.not_mem_nil, or_false] at hc
    obtain rfl | hc | rfl := hc
    · decide
    · exact hhost c hc
    · decide
  · exact hhost c hc

theorem authority_eq (url : Url) :
    url.authority = (if url.userInfo.isEmpty then [] else url.userInfo ++ ['@']) ++
      (bracketed url.host ++ portText url.port) := by
  rw [authority, bracketed, List.append_assoc]

theorem authority_eq_nil_iff (url : Url) :
    url.authority = [] ↔ url.userInfo = [] ∧ url.host = [] ∧ url.port = none := by
  rw [authority_eq, List.append_eq_nil_iff, List.append_eq_nil_iff]
  refine and_congr ?_ (and_congr ?_ ?_)
  · cases url.userInfo <;> simp
  · unfold bracketed
    split
    next hcolon =>
      have hne := List.ne_nil_of_mem (List.contains_iff_mem.mp hcolon)
      simp [hne]
    next => rfl
  · cases url.port <;> simp [portText]

theorem Formed.authority_chars {url : Url} (formed : url.Formed) :
    ∀ c ∈ url.authority, isAuthorityChar c = true := by
  intro c hc
  rw [authority_eq, List.mem_append, List.mem_append] at hc
  obtain hc | hc | hc := hc
  · split at hc
    · cases hc
    · rcases List.mem_append.mp hc with hc | hc
      · exact of_isUserInfoSafe (formed.userInfo c hc)
      · obtain rfl := List.mem_singleton.mp hc
        decide
  · exact (of_mem_bracketed formed.host hc).1
  · exact (of_mem_portText hc).1

/-- The host in front of a port. -/
theorem host_of_append {host : List Char} (h : IsHost host) (port : Option Int) :
    (if (bracketed host ++ portText port).head? == some '[' &&
        (bracketed host ++ portText port).contains ']' then
      ((bracketed host ++ portText port).reverse.dropWhile (· != ']')).reverse
    else (bracketed host ++ portText port).takeWhile (· != ':')) = bracketed host := by
  obtain hname | ⟨haddress, -⟩ := h
  · have hplain : bracketed host = host := by
      rw [bracketed, not_contains_colon hname, if_neg (by decide)]
    have hhead : ((host ++ portText port).head? == some '[') = false := by
      rw [beq_eq_false_iff_ne]
      intro hhead
      have hmem := List.mem_of_mem_head? (Option.mem_def.mpr hhead)
      rcases List.mem_append.mp hmem with hmem | hmem
      · exact (of_isHostChar (hname _ hmem)).2.2.2.1 rfl
      · exact (of_mem_portText hmem).2.2.1 rfl
    have hstop : ∀ c ∈ (portText port).head?, (c != ':') = false := by
      cases port <;> simp [portText]
    have hall : ∀ c ∈ host, (c != ':') = true := fun c hc =>
      bne_iff_ne.mpr (of_isHostChar (hname c hc)).2.1
    rw [hplain, hhead, Bool.false_and, if_neg (by decide), takeWhile_run hall hstop]
  · have hbrackets : bracketed host = '[' :: host ++ [']'] := by
      rw [bracketed, contains_colon_of_isIpv6 haddress, if_pos rfl]
    have hall : ∀ c ∈ (portText port).reverse, (c != ']') = true := fun c hc =>
      bne_iff_ne.mpr (of_mem_portText (List.mem_reverse.mp hc)).2.2.2
    rw [hbrackets, if_pos (by simp), List.reverse_append, List.dropWhile_append_of_pos hall,
      List.reverse_append, List.reverse_singleton, List.singleton_append,
      List.dropWhile_cons_of_neg (by decide)]
    simp

/-- The parts of an authority are found again. -/
theorem Formed.splitAuthority_authority {url : Url} (formed : url.Formed) :
    splitAuthority url.authority = (url.userInfo, bracketed url.host, portDigits url.port) := by
  -- behind the user information there is no other at sign, so its own is the last
  have hback : ∀ c ∈ bracketed url.host ++ portText url.port, (c != '@') = true := by
    intro c hc
    rw [bne_iff_ne]
    exact (List.mem_append.mp hc).elim (fun hc => (of_mem_bracketed formed.host hc).2)
      fun hc => (of_mem_portText hc).2.1
  have hfront : ∀ c ∈ (if url.userInfo.isEmpty then [] else url.userInfo ++ ['@']).getLast?,
      (c != '@') = false := by
    intro c hc
    split at hc
    · cases hc
    · rw [List.getLast?_concat] at hc
      obtain rfl := Option.some.inj hc
      rfl
  have hbehind := rtakeWhile_append hback hfront
  have htake : url.authority.take
      (url.authority.length - (bracketed url.host ++ portText url.port).length) =
        if url.userInfo.isEmpty then [] else url.userInfo ++ ['@'] := by
    rw [authority_eq]
    exact List.take_left' (by rw [List.length_append]; omega)
  have hdrop : (if url.userInfo.isEmpty then [] else url.userInfo ++ ['@']).dropLast =
      url.userInfo := by
    by_cases hempty : url.userInfo = []
    · simp [hempty]
    · rw [if_neg (by simpa using hempty), List.dropLast_concat]
  rw [← authority_eq] at hbehind
  unfold splitAuthority
  dsimp only
  rw [show (url.authority.reverse.takeWhile (· != '@')).reverse =
    bracketed url.host ++ portText url.port from hbehind, host_of_append formed.host, htake, hdrop,
    List.drop_left]
  cases url.port <;> rfl

end Authorities

/-- What a URL keeps when it is read from its own text: its host is in lower case and no numeral
that is no address, and its port is not the one that the scheme implies. -/
def Settled (url : Url) : Prop :=
  (':' ∈ url.host ∨ url.host.map Char.toLower = url.host ∧
      (looksNumeric 3 false url.host = true → isIpv4 url.host = true)) ∧
    ∀ n ∈ url.port, defaultPort? url.scheme ≠ some n

section Parts

variable {scheme authority path : List Char} {query fragment : Option (List Char)} {url : Url}

theorem ofParts_eq_some_iff :
    ofParts scheme authority path query fragment = some url ↔
      let parts := splitAuthority authority
      let hasAuthority := !url.userInfo.isEmpty || !url.host.isEmpty || url.port.isSome
      url.scheme = scheme.map Char.toLower ∧
      url.userInfo = escape isUserInfoSafe parts.1 ∧
      encodeHost parts.2.1 = some url.host ∧
      readPort scheme parts.2.2 = some url.port ∧
      pathFits (!scheme.isEmpty) hasAuthority path = true ∧
      url.path =
        escape isPathSafe (if !scheme.isEmpty || hasAuthority then dropDots path else path) ∧
      url.query = query.map (escape isQuerySafe) ∧
      url.fragment = fragment.map (escape isFragmentSafe) := by
  unfold ofParts
  generalize splitAuthority authority = parts
  obtain ⟨userInfo, host, port⟩ := parts
  obtain ⟨urlScheme, urlUserInfo, urlHost, urlPort, urlPath, urlQuery, urlFragment⟩ := url
  dsimp only
  constructor
  · intro h
    obtain ⟨host', hhost, h⟩ := Option.bind_eq_some_iff.mp h
    obtain ⟨port', hport, h⟩ := Option.bind_eq_some_iff.mp h
    split at h
    next => cases h
    next hfits =>
      cases Option.some.inj h
      exact ⟨rfl, rfl, hhost, hport, by simpa using hfits, rfl, rfl, rfl⟩
  · rintro ⟨rfl, rfl, hhost, hport, hfits, rfl, rfl, rfl⟩
    rw [hhost, hport]
    simp [hfits]

theorem authority_ne_nil_iff : url.authority ≠ [] ↔
    (!url.userInfo.isEmpty || !url.host.isEmpty || url.port.isSome) = true := by
  rw [ne_eq, authority_eq_nil_iff]
  cases url.userInfo <;> cases url.host <;> cases url.port <;> simp

theorem of_mem_splitAuthority_host {c : Char} (h : c ∈ (splitAuthority authority).2.1) :
    c ∈ authority ∧ c ≠ '@' := by
  have hbehind : ∀ d ∈ authority.rtakeWhile (· != '@'), d ∈ authority ∧ d ≠ '@' := by
    intro d hd
    have hne := List.mem_takeWhile_imp (List.mem_reverse.mp hd)
    exact ⟨(List.rtakeWhile_suffix _ authority).subset hd, bne_iff_ne.mp hne⟩
  refine hbehind c ?_
  unfold splitAuthority at h
  dsimp only at h
  split at h
  · exact (List.rdropWhile_prefix _ _).subset h
  · exact (List.takeWhile_prefix _).subset h

theorem IsScheme.mem {c : Char} (hscheme : IsScheme scheme) (hc : c ∈ scheme) :
    isSchemeChar c = true := by
  cases scheme with
  | nil => cases hc
  | cons first rest =>
    obtain ⟨halpha, hrest⟩ := hscheme first rest rfl
    rcases List.mem_cons.mp hc with rfl | hc
    · simp [isSchemeChar, Char.isAlphanum, halpha]
    · exact hrest c hc

theorem IsScheme.toLower (hscheme : IsScheme scheme) :
    IsScheme (scheme.map Char.toLower) ∧
      (scheme.map Char.toLower).map Char.toLower = scheme.map Char.toLower := by
  constructor
  · intro c rest hcons
    obtain ⟨first, others, rfl, rfl, rfl⟩ := List.map_eq_cons_iff.mp hcons
    obtain ⟨halpha, hrest⟩ := hscheme first others rfl
    refine ⟨isAlpha_toLower halpha, fun d hd => ?_⟩
    obtain ⟨e, he, rfl⟩ := List.mem_map.mp hd
    exact isSchemeChar_toLower (hrest e he)
  · rw [List.map_map]
    exact List.map_congr_left fun c _ => toLower_toLower c

/-- Whatever parts a URL is made of, it is in form. -/
theorem formed_of_ofParts (hscheme : IsScheme scheme)
    (hauthority : ∀ c ∈ authority, isAuthorityChar c = true)
    (h : ofParts scheme authority path query fragment = some url) : url.Formed := by
  obtain ⟨hlower, huser, hhost, -, hfits, hpath, hquery, hfragment⟩ := ofParts_eq_some_iff.mp h
  have hhostChars : ∀ c ∈ (splitAuthority authority).2.1, isAuthorityChar c = true ∧ c ≠ '@' :=
    fun c hc => ⟨hauthority c (of_mem_splitAuthority_host hc).1, (of_mem_splitAuthority_host hc).2⟩
  exact {
    scheme := hlower ▸ hscheme.toLower.1
    lower := hlower ▸ hscheme.toLower.2
    userInfo := huser ▸ isSafe_of_mem_escape (fun c hc => (isSafe_of_isUnreserved hc).1) rfl
    host := isHost_of_encodeHost hhostChars hhost
    path := hpath ▸ isSafe_of_mem_escape (fun c hc => (isSafe_of_isUnreserved hc).2.1) rfl
    rooted := by
      intro hne c hc
      -- the path that was given fits an authority, and dropping dots and escaping keep its slash
      have hsome := authority_ne_nil_iff.mp hne
      have hrooted : ∀ c ∈ path.head?, c = '/' := by
        rw [hsome, pathFits, if_pos rfl, Bool.or_eq_true] at hfits
        intro d hd
        obtain hempty | hslash := hfits
        · rw [List.isEmpty_iff.mp hempty] at hd
          cases hd
        · rw [beq_iff_eq.mp hslash] at hd
          exact (Option.some.inj hd).symm
      rw [hpath, hsome, Bool.or_true, if_pos rfl] at hc
      have hdropped := head?_dropDots hrooted
      cases hdots : dropDots path with
      | nil =>
        rw [hdots] at hc
        cases hc
      | cons d rest =>
        obtain rfl : d = '/' := hdropped d (by rw [hdots]; rfl)
        obtain ⟨escaped, hescaped⟩ : ∃ escaped, escape isPathSafe ('/' :: rest) = '/' :: escaped :=
          escape_cons_of_safe rfl
        rw [hdots, hescaped] at hc
        exact (Option.some.inj hc).symm
    query := by
      intro q hq
      rw [hquery] at hq
      obtain ⟨given, -, rfl⟩ := Option.map_eq_some_iff.mp hq
      exact isSafe_of_mem_escape (fun c hc => (isSafe_of_isUnreserved hc).2.2.1) rfl
    fragment := by
      intro f hf
      rw [hfragment] at hf
      obtain ⟨given, -, rfl⟩ := Option.map_eq_some_iff.mp hf
      exact isSafe_of_mem_escape (fun c hc => (isSafe_of_isUnreserved hc).2.2.2) rfl }

/-- The host and the port of a URL that is made of its own parts again. -/
theorem Formed.ofParts_again {again : Url} (formed : url.Formed)
    (h : ofParts url.scheme url.authority path query fragment = some again) :
    again.scheme = url.scheme ∧ encodeHost (bracketed url.host) = some again.host ∧
      again.port = url.port.filter fun n => some n != defaultPort? url.scheme := by
  obtain ⟨hscheme, -, hhost, hport, -⟩ := ofParts_eq_some_iff.mp h
  rw [formed.splitAuthority_authority] at hhost hport
  rw [readPort_portDigits] at hport
  exact ⟨hscheme.trans formed.lower, hhost, (Option.some.inj hport).symm⟩

/-- A URL that is made of its own parts again is settled. -/
theorem Formed.settled_of_ofParts {again : Url} (formed : url.Formed)
    (h : ofParts url.scheme url.authority path query fragment = some again) : again.Settled := by
  obtain ⟨hscheme, hhost, hport⟩ := formed.ofParts_again h
  refine ⟨?_, fun n hn hdefault => ?_⟩
  · rw [encodeHost_bracketed formed.host] at hhost
    split at hhost
    next hcolon =>
      rw [← Option.some.inj hhost]
      exact .inl (List.contains_iff_mem.mp hcolon)
    next hcolon =>
      -- a name without digits that pass for a numeral has none in lower case either
      have hname : ∀ c ∈ url.host, isHostChar c = true := by
        obtain hname | ⟨haddress, -⟩ := formed.host
        · exact hname
        · exact absurd (contains_colon_of_isIpv6 haddress) hcolon
      split at hhost
      next => cases hhost
      next hnumeric =>
        obtain hlower := Option.some.inj hhost
        rw [← hlower]
        refine .inr ⟨?_, fun hagain => ?_⟩
        · rw [List.map_map]
          exact List.map_congr_left fun c _ => toLower_toLower c
        · rw [looksNumeric_map fun c _ => isDigit_toLower c] at hagain
          have hipv4 : isIpv4 url.host = true := by simpa [hagain] using hnumeric
          rwa [map_toLower_of_isIpv4 hipv4]
  · rw [hport] at hn
    obtain ⟨-, hne⟩ := Option.mem_filter_iff.mp hn
    exact bne_iff_ne.mp hne (hscheme ▸ hdefault.symm)

/-- The host of a settled URL stays as it is. -/
theorem Formed.encodeHost_settled (formed : url.Formed) (settled : url.Settled) :
    encodeHost (bracketed url.host) = some url.host := by
  rw [encodeHost_bracketed formed.host]
  obtain hcolon | ⟨hlower, hnumeric⟩ := settled.1
  · rw [if_pos (List.contains_iff_mem.mpr hcolon)]
  · split
    next => rfl
    next =>
      have hplain : (looksNumeric 3 false url.host && !isIpv4 url.host) = false := by
        cases hlooks : looksNumeric 3 false url.host with
        | false => rfl
        | true => simp [hnumeric hlooks]
      rw [hplain, if_neg (by decide), hlower]

theorem Settled.filter_port (settled : url.Settled) :
    (url.port.filter fun n => some n != defaultPort? url.scheme) = url.port := by
  cases hport : url.port with
  | none => rfl
  | some n =>
    have hne := settled.2 n hport
    exact if_pos (bne_iff_ne.mpr hne.symm)

theorem Formed.ofParts_settled {again : Url} (formed : url.Formed) (settled : url.Settled)
    (h : ofParts url.scheme url.authority path query fragment = some again) :
    again.host = url.host ∧ again.port = url.port := by
  obtain ⟨-, hhost, hport⟩ := formed.ofParts_again h
  rw [formed.encodeHost_settled settled] at hhost
  exact ⟨(Option.some.inj hhost).symm, hport.trans settled.filter_port⟩

theorem Formed.exists_ofParts (formed : url.Formed) (settled : url.Settled)
    (hauthority : url.authority ≠ []) (query fragment : Option (List Char)) :
    ∃ again, ofParts url.scheme url.authority url.path query fragment = some again := by
  have huser : escape isUserInfoSafe url.userInfo = url.userInfo :=
    escape_of_safe fun c hc => .inr (formed.userInfo c hc)
  have hsome := authority_ne_nil_iff.mp hauthority
  have hrooted : (url.path.isEmpty || url.path.head? == some '/') = true := by
    cases hpath : url.path with
    | nil => rfl
    | cons c rest =>
      obtain rfl : c = '/' := formed.rooted hauthority c (by rw [hpath]; rfl)
      rfl
  have hport : readPort url.scheme (portDigits url.port) = some url.port := by
    rw [readPort_portDigits, settled.filter_port]
  refine ⟨⟨url.scheme.map Char.toLower, url.userInfo, url.host, url.port,
    escape isPathSafe (dropDots url.path), query.map (escape isQuerySafe),
    fragment.map (escape isFragmentSafe)⟩, ofParts_eq_some_iff.mpr ?_⟩
  dsimp only
  rw [formed.splitAuthority_authority, hsome, Bool.or_true, if_pos rfl]
  exact ⟨rfl, huser.symm, formed.encodeHost_settled settled, hport, hrooted, rfl, rfl, rfl⟩

end Parts

end Url

end GridRules
