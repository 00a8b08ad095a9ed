import Mathlib
import QueryBridge.Proofs.Url.Port
import QueryBridge.Proofs.Url.Resource

/-!
# Origins

The origin of a URL says where its requests go: its scheme, its host and the port that is meant.
A URL below a base is written from the parts of the base and then read again.  Reading finds the
same authority, though hosts with encoded characters may come back in other letters; so every
URL below a base has the origin of the base.
-/

namespace QueryBridge.Url

open QueryBridge.Text.Percent (encodeExcept isUnreserved)

/-- Where requests for a URL go.  The host is in small letters, as case does not count in it. -/
structure Origin where
  scheme : List Char
  host : List Char
  port : Option Int
deriving DecidableEq

def origin (url : Url) : Origin :=
  ⟨url.scheme, url.host.map Char.toLower, meantPort? url.scheme url.port⟩

/-! ## Hosts in small letters -/

theorem map_toLower_map_toLower (text : List Char) :
    (text.map Char.toLower).map Char.toLower = text.map Char.toLower := by
  rw [List.map_map]
  apply List.map_congr_left
  exact fun c _ => Char.toLower_toLower_eq_toLower c

theorem isUnreserved_toLower_of_isUpper {c : Char} (h : c.isUpper = true) :
    isUnreserved c.toLower = true := by
  have halpha : c.isAlpha = true := by simp [Char.isAlpha, h]
  have hlower : c.toLower.isLower = true := by
    rw [Char.isLower_toLower_eq_isAlpha]
    exact halpha
  simp [isUnreserved, Char.isAlphanum, Char.isAlpha, hlower]

theorem eq_of_toLower_eq {c d : Char} (h : c.toLower = d) (hd : d.isLower = false) : c = d := by
  by_cases hupper : c.isUpper = true
  · have hlower : c.toLower.isLower = true := by
      rw [Char.isLower_toLower_eq_isAlpha]
      simp [Char.isAlpha, hupper]
    rw [h, hd] at hlower
    cases hlower
  · rw [← h, Char.toLower_eq_of_not_isUpper hupper]

theorem isHostSafe_toLower {c : Char} (h : isHostSafe c = true) : isHostSafe c.toLower = true := by
  by_cases hupper : c.isUpper = true
  · simp [isHostSafe, isUnreserved_toLower_of_isUpper hupper]
  · rw [Char.toLower_eq_of_not_isUpper hupper]
    exact h

theorem keepsEncoded_isHostSafe : KeepsEncoded isHostSafe :=
  ⟨by decide, fun c hc => by simp [isHostSafe, hc]⟩

/-- A name is encoded once; reading it again only makes its letters small. -/
theorem encode_toLower_encode (name : List Char) :
    encodeExcept isHostSafe ((encodeExcept isHostSafe name).map Char.toLower) =
      (encodeExcept isHostSafe name).map Char.toLower := by
  apply Text.Percent.encodeExcept_of_isSafe
  intro c hc
  obtain ⟨d, hd, rfl⟩ := List.mem_map.mp hc
  exact isHostSafe_toLower (keepsEncoded_isHostSafe.isSafe_of_mem hd)

/-! ## The forms of a host -/

theorem looksLikeNumbers_bracket (rest : List Char) : looksLikeNumbers 3 ('[' :: rest) = false := by
  simp [looksLikeNumbers]

theorem isBracketed_iff {text : List Char} :
    isBracketed text = true ↔ ∃ inner, text = '[' :: inner ++ [']'] := by
  constructor
  · intro h
    simp only [isBracketed, Bool.and_eq_true, beq_iff_eq, decide_eq_true_eq] at h
    obtain ⟨⟨hhead, hlast⟩, hlength⟩ := h
    obtain ⟨rest, rfl⟩ := List.head?_eq_some_iff.mp hhead
    have hne : rest ≠ [] := by
      rintro rfl
      simp at hlength
    refine ⟨rest.dropLast, ?_⟩
    rw [List.getLast?_cons_of_ne_nil hne] at hlast
    rw [List.cons_append, List.dropLast_append_getLast? _ (Option.mem_def.mpr hlast)]
  · rintro ⟨inner, rfl⟩
    have hlast : ('[' :: (inner ++ [']'])).getLast? = some ']' := by
      rw [← List.cons_append, List.getLast?_concat]
    simp [isBracketed, hlast]

theorem normalHost_bracketed (address : List Char) :
    normalHost ('[' :: address ++ [']']) =
      if isIpv6 address then .ok address else .error (.ipv6 ('[' :: address ++ [']'])) := by
  have hbracketed : isBracketed ('[' :: address ++ [']']) = true :=
    isBracketed_iff.mpr ⟨address, rfl⟩
  unfold normalHost
  rw [if_neg (by simp), List.cons_append, looksLikeNumbers_bracket, if_neg Bool.false_ne_true,
    ← List.cons_append, if_pos hbracketed]
  simp

/-- A host is an address between brackets, or else it is kept as it is or encoded. -/
theorem normalHost_cases {text host : List Char} (h : normalHost text = .ok host) :
    (text = '[' :: host ++ [']'] ∧ isIpv6 host = true) ∨
      isBracketed text = false ∧
        (host = text ∧ '[' ∉ text.head? ∨
          host = encodeExcept isHostSafe (text.map Char.toLower)) := by
  cases hbracketed : isBracketed text with
  | true =>
      obtain ⟨inner, rfl⟩ := isBracketed_iff.mp hbracketed
      rw [normalHost_bracketed] at h
      split at h
      · next haddress =>
          cases h
          exact Or.inl ⟨rfl, haddress⟩
      · cases h
  | false =>
      refine Or.inr ⟨rfl, ?_⟩
      unfold normalHost at h
      rw [hbracketed] at h
      split at h
      · next hempty =>
          cases h
          left
          simp [List.isEmpty_iff.mp hempty]
      split at h
      · next hnumbers =>
          split at h
          · cases h
            left
            refine ⟨rfl, fun hhead => ?_⟩
            obtain ⟨rest, rfl⟩ := List.head?_eq_some_iff.mp (Option.mem_def.mp hhead)
            rw [looksLikeNumbers_bracket] at hnumbers
            cases hnumbers
          · cases h
      split at h
      · next hfalse => cases hfalse
      split at h
      · cases h
        exact Or.inr rfl
      · cases h

/-! ## Reading an authority again -/

/-- A host as it stands in an authority. -/
def hostText (host : List Char) : List Char :=
  if host.contains ':' then '[' :: host ++ [']'] else host

theorem authority_eq (url : Url) :
    url.authority = (if url.userinfo.isEmpty then [] else url.userinfo ++ ['@']) ++
      (hostText url.host ++ portText url.port) := by
  unfold authority hostText portText
  exact List.append_assoc _ _ _

/-- Hosts that are written without brackets.  Reading one again leaves it as it is but for
capital letters. -/
structure IsPlainHost (host : List Char) : Prop where
  colon : ':' ∉ host
  bracket : '[' ∉ host.head?
  again : ∀ other, normalHost host = .ok other → other.map Char.toLower = host.map Char.toLower

theorem colon_mem_of_isIpv6 {address : List Char} (h : isIpv6 address = true) : ':' ∈ address := by
  by_contra hcolon
  have hpart : ':' ∉ (Text.cutAt '%' address).1 :=
    fun hmem => hcolon ((List.takeWhile_prefix _).subset hmem)
  -- without a colon there is one part only
  have hplain : isPlainIpv6 (Text.cutAt '%' address).1 = false := by
    unfold isPlainIpv6
    rw [Text.splitOn_of_not_mem hpart]
    simp
  simp [isIpv6, hplain] at h

/-- An address is cut off behind its last bracket. -/
theorem cutHost_bracketed (address : List Char) {rest : List Char} (h : ']' ∉ rest) :
    cutHost ('[' :: address ++ ']' :: rest) = ('[' :: address ++ [']'], rest) := by
  have hreverse : ('[' :: address ++ ']' :: rest).reverse =
      rest.reverse ++ ']' :: ('[' :: address).reverse := by simp
  have hall : ∀ c ∈ rest.reverse, (c != ']') = true := by
    intro c hc
    simpa using fun heq : c = ']' => h (heq ▸ List.mem_reverse.mp hc)
  unfold cutHost
  rw [if_pos (by simp), hreverse, List.takeWhile_append_of_pos hall,
    List.dropWhile_append_of_pos hall]
  simp

/-- A text without an address is cut at its first colon. -/
theorem cutHost_of_not_bracket {text : List Char} (h : '[' ∈ text.head? → ']' ∉ text) :
    cutHost text = (text.takeWhile (fun c => c != ':' && c != '@'),
      text.dropWhile fun c => c != ':' && c != '@') := by
  unfold cutHost
  rw [if_neg]
  simpa using h

/-- What is cut off as a host has brackets around it, or holds no colon. -/
theorem cutHost_cases (text : List Char) :
    isBracketed (cutHost text).1 = true ∨ ':' ∉ (cutHost text).1 := by
  by_cases haddress : '[' ∈ text.head? ∧ ']' ∈ text
  · obtain ⟨hhead, hclose⟩ := haddress
    obtain ⟨rest, rfl⟩ := List.head?_eq_some_iff.mp (Option.mem_def.mp hhead)
    have hrest : ']' ∈ rest := by simpa using hclose
    obtain ⟨after, before, hreverse, hafter⟩ :=
      List.eq_append_cons_of_mem (List.mem_reverse.mpr hrest)
    have hsplit : rest = before.reverse ++ ']' :: after.reverse := by
      simpa using congrArg List.reverse hreverse
    have hcut := cutHost_bracketed before.reverse
      (show ']' ∉ after.reverse by simpa using hafter)
    left
    rw [hsplit, ← List.cons_append, hcut]
    exact isBracketed_iff.mpr ⟨_, rfl⟩
  · right
    rw [cutHost_of_not_bracket (not_and.mp haddress)]
    intro hmem
    simpa using List.mem_takeWhile_imp hmem

/-- The host of a URL is an address or a plain one. -/
theorem isIpv6_or_isPlainHost {components : Components} {url : Url}
    (h : ofComponents components = .ok url) : isIpv6 url.host = true ∨ IsPlainHost url.host := by
  have hhost := (ofComponents_parts h).2.2
  generalize (cutUserinfo components.authority).2 = text at hhost
  rcases normalHost_cases hhost with ⟨-, haddress⟩ | ⟨hbracketed, hform⟩
  · exact Or.inl haddress
  · right
    have hcolon : ':' ∉ (cutHost text).1 := by
      rcases cutHost_cases text with hcut | hcut
      · cases hbracketed.symm.trans hcut
      · exact hcut
    rcases hform with ⟨hkept, hhead⟩ | hencoded
    · rw [hkept] at hhost ⊢
      refine ⟨hcolon, hhead, fun other hother => ?_⟩
      rw [hhost] at hother
      cases hother
      rfl
    · have hcolon' : ':' ∉ url.host := by
        rw [hencoded]
        refine Text.Percent.not_mem_encodeExcept (Or.inl fun hmem => ?_) (by decide) (by decide)
        obtain ⟨c, hc, heq⟩ := List.mem_map.mp hmem
        rw [eq_of_toLower_eq heq (by decide)] at hc
        exact hcolon hc
      have hbracket : '[' ∉ url.host := by
        rw [hencoded]
        intro hmem
        have hsafe := keepsEncoded_isHostSafe.isSafe_of_mem hmem
        revert hsafe
        decide
      refine ⟨hcolon', fun hmem => hbracket (List.mem_of_mem_head? hmem), fun other hother => ?_⟩
      rcases normalHost_cases hother with ⟨hagain, -⟩ | ⟨-, ⟨hagain, -⟩ | hagain⟩
      · rw [hagain] at hbracket
        simp at hbracket
      · rw [hagain]
      · rw [hagain, hencoded, encode_toLower_encode, map_toLower_map_toLower]

/-- The host and the port of a URL are found again in its authority. -/
theorem cutHost_authority {components : Components} {url : Url}
    (h : ofComponents components = .ok url) :
    cutHost (hostText url.host ++ portText url.port) = (hostText url.host, portText url.port) := by
  rcases isIpv6_or_isPlainHost h with haddress | hplain
  · have hcolon : url.host.contains ':' = true := by simpa using colon_mem_of_isIpv6 haddress
    unfold hostText
    rw [if_pos hcolon, List.append_assoc, List.singleton_append]
    exact cutHost_bracketed url.host (bracket_not_mem_portText url.port)
  · have hat := not_mem_host_ofComponents h
    have hall : ∀ c ∈ url.host, (c != ':' && c != '@') = true := by
      intro c hc
      have hcolon : c ≠ ':' := fun heq => hplain.colon (heq ▸ hc)
      have hat' : c ≠ '@' := fun heq => hat (heq ▸ hc)
      simp [hcolon, hat']
    have hport : portText url.port = [] ∨ ∃ rest, portText url.port = ':' :: rest := by
      cases url.port with
      | none => exact Or.inl rfl
      | some port => exact Or.inr ⟨_, rfl⟩
    have hhead : '[' ∉ (url.host ++ portText url.port).head? := by
      intro hmem
      rw [List.head?_append, Option.mem_def, Option.or_eq_some_iff] at hmem
      rcases hmem with hmem | ⟨-, hmem⟩
      · exact hplain.bracket hmem
      · rcases hport with hport | ⟨rest, hport⟩
        · simp [hport] at hmem
        · simp [hport] at hmem
    unfold hostText
    rw [if_neg (by simpa using hplain.colon), cutHost_of_not_bracket fun hmem => absurd hmem hhead,
      List.takeWhile_append_of_pos hall, List.dropWhile_append_of_pos hall]
    rcases hport with hport | ⟨rest, hport⟩
    · simp [hport]
    · simp [hport]

/-! ## Origins below a base -/

theorem port_ofComponents {components : Components} {url : Url}
    (h : ofComponents components = .ok url) :
    normalPort components.scheme (cutPort (cutHost (cutUserinfo components.authority).2).2) =
      .ok url.port := by
  simp only [ofComponents, bind, Except.bind] at h
  split at h
  · cases h
  split at h
  · cases h
  next port hport =>
  split at h
  · cases h
  cases h
  exact hport

theorem cutUserinfo_authority {components : Components} {url : Url}
    (h : ofComponents components = .ok url) :
    (cutUserinfo url.authority).2 = hostText url.host ++ portText url.port := by
  have hat : '@' ∉ hostText url.host ++ portText url.port := by
    have hhost : '@' ∉ url.host := not_mem_host_ofComponents h
    have hanonymous := @not_mem_authority { url with userinfo := [] } rfl hhost
    rw [authority_eq] at hanonymous
    simpa using hanonymous
  rw [authority_eq]
  split
  · rw [List.nil_append, cutUserinfo_of_not_mem hat]
  · generalize hostText url.host ++ portText url.port = text at hat ⊢
    have hall : ∀ c ∈ text.reverse, (c != '@') = true := by
      intro c hc
      simpa using fun heq : c = '@' => hat (heq ▸ List.mem_reverse.mp hc)
    have hreverse : (url.userinfo ++ ['@'] ++ text).reverse =
        text.reverse ++ '@' :: url.userinfo.reverse := by simp
    unfold cutUserinfo
    rw [if_pos (by simp), hreverse, List.takeWhile_append_of_pos hall]
    simp

/-- The URL has been read from some components. -/
def IsNormal (url : Url) : Prop :=
  ∃ components, ofComponents components = .ok url

theorem IsNormal.of_parse {text : List Char} {url : Url} (h : parse text = .ok url) :
    url.IsNormal :=
  ⟨_, ofComponents_of_parse h⟩

variable {base url : Url}

/-- Replacing the path and the query of a URL does not change its origin. -/
theorem IsNormal.origin_withRawPath (hnormal : base.IsNormal) {rawPath : List Char}
    (h : base.withRawPath rawPath = .ok url) : url.origin = base.origin := by
  obtain ⟨components, hbase⟩ := hnormal
  have hurl := ofComponents_of_rebuild h
  obtain ⟨hscheme, -, hhost⟩ := ofComponents_parts hurl
  have hport := port_ofComponents hurl
  simp only [Url.components, cutUserinfo_authority hbase, cutHost_authority hbase]
    at hscheme hhost hport
  have hlower : base.scheme.map Char.toLower = base.scheme := by
    rw [(ofComponents_parts hbase).1, map_toLower_map_toLower]
  rw [hlower] at hscheme
  have hhost' : url.host.map Char.toLower = base.host.map Char.toLower := by
    unfold hostText at hhost
    rcases isIpv6_or_isPlainHost hbase with haddress | hplain
    · rw [if_pos (by simpa using colon_mem_of_isIpv6 haddress), normalHost_bracketed,
        if_pos haddress] at hhost
      rw [Except.ok.inj hhost]
    · rw [if_neg (by simpa using hplain.colon)] at hhost
      exact hplain.again _ hhost
  unfold origin
  rw [hscheme, hhost', normalPort_portText hport]

theorem IsNormal.toBase (hnormal : url.IsNormal) (h : url.toBase = .ok base) :
    base.IsNormal ∧ base.origin = url.origin := by
  unfold Url.toBase at h
  split at h
  · cases h
    exact ⟨hnormal, rfl⟩
  · exact ⟨⟨_, ofComponents_of_rebuild h⟩, hnormal.origin_withRawPath h⟩

/-- A resource below a base has the origin of the base. -/
theorem IsNormal.origin_below (hnormal : base.IsNormal) {text : List Char} (htext : IsRooted text)
    (h : base.below text = .ok url) : url.origin = base.origin := by
  cases htarget : parse text with
  | error error =>
      simp only [Url.below, bind, Except.bind, htarget] at h
      cases h
  | ok target =>
      rw [below_of_isRooted htext htarget] at h
      exact hnormal.origin_withRawPath h

end QueryBridge.Url
