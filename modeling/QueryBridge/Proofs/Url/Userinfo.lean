import Mathlib.Data.List.TakeWhile
import QueryBridge.Url.Basic
import QueryBridge.Proofs.Text.Percent

/-!
# User information below a base

A URL without user information stays without it when a path is appended: the host of a URL
in normal form holds no at sign, so that reading its authority again finds none either.
-/

namespace QueryBridge.Url

open QueryBridge.Text (Percent.encodeExcept)

/-! ## At signs in the parts of an authority -/

theorem not_mem_cutUserinfo (authority : List Char) : '@' ∉ (cutUserinfo authority).2 := by
  unfold cutUserinfo
  split
  · intro hmem
    have hmem := List.mem_takeWhile_imp (List.mem_reverse.mp hmem)
    simp at hmem
  · next hcontains => simpa using hcontains

theorem cutUserinfo_of_not_mem {authority : List Char} (h : '@' ∉ authority) :
    cutUserinfo authority = ([], authority) := by
  unfold cutUserinfo
  rw [if_neg (by simpa using h)]

theorem mem_of_mem_cutHost {text : List Char} {c : Char} (hc : c ∈ (cutHost text).1) :
    c ∈ text := by
  unfold cutHost at hc
  split at hc
  · exact List.mem_reverse.mp ((List.dropWhile_suffix _).subset (List.mem_reverse.mp hc))
  · exact (List.takeWhile_prefix _).subset hc

theorem toLower_ne_at {c : Char} (hc : c ≠ '@') : c.toLower ≠ '@' := by
  intro h
  unfold Char.toLower at h
  split at h
  · next hrange =>
      -- lowering adds 32 to a letter, and `@` stands below the letters
      have hval : (c.val.toNat + 32) % 4294967296 = 64 := by
        simpa using congrArg (fun c => c.val.toNat) h
      have hlow : 65 ≤ c.val.toNat := by simpa using UInt32.le_iff_toNat_le.mp hrange.1
      have hhigh : c.val.toNat ≤ 90 := by simpa using UInt32.le_iff_toNat_le.mp hrange.2
      omega
  · exact hc h

theorem not_mem_normalHost {text host : List Char} (hhost : normalHost text = .ok host)
    (h : '@' ∉ text) : '@' ∉ host := by
  unfold normalHost at hhost
  split at hhost
  · cases hhost
    exact List.not_mem_nil
  split at hhost
  · split at hhost
    · cases hhost
      exact h
    · cases hhost
  split at hhost
  · simp only at hhost
    split at hhost
    · cases hhost
      exact fun hmem => h ((List.drop_subset _ _) ((List.dropLast_subset _) hmem))
    · cases hhost
  split at hhost
  · cases hhost
    refine Text.Percent.not_mem_encodeExcept (Or.inl fun hmem => ?_) (by decide) (by decide)
    obtain ⟨c, hc, heq⟩ := List.mem_map.mp hmem
    exact toLower_ne_at (fun heq => h (heq ▸ hc)) heq
  · cases hhost

theorem not_mem_toString (n : Int) : '@' ∉ (toString n).toList := by
  have hdigits : ∀ m : Nat, '@' ∉ m.repr.toList := by
    intro m hmem
    rw [Nat.toList_repr] at hmem
    exact absurd (Nat.isDigit_of_mem_toDigits (by decide) (by decide) hmem) (by decide)
  rw [Int.toString_eq_repr, Int.repr_eq_if]
  split
  · exact hdigits _
  · rw [String.toList_append, List.mem_append]
    rintro (hsign | hmem)
    · exact absurd hsign (by decide)
    · exact hdigits _ hmem

/-! ## URLs in normal form -/

/-- What the parts of a URL are made from. -/
theorem ofComponents_parts {components : Components} {url : Url}
    (h : ofComponents components = .ok url) :
    url.scheme = components.scheme.map Char.toLower ∧
      url.userinfo =
        Text.Percent.encodeExcept isUserinfoSafe (cutUserinfo components.authority).1 ∧
      normalHost (cutHost (cutUserinfo components.authority).2).1 = .ok url.host := by
  simp only [ofComponents, bind, Except.bind] at h
  split at h
  · cases h
  next host hhost =>
  split at h
  · cases h
  split at h
  · cases h
  cases h
  exact ⟨rfl, rfl, hhost⟩

theorem not_mem_host_ofComponents {components : Components} {url : Url}
    (h : ofComponents components = .ok url) : '@' ∉ url.host :=
  not_mem_normalHost (ofComponents_parts h).2.2 fun hmem =>
    not_mem_cutUserinfo _ (mem_of_mem_cutHost hmem)

theorem ofComponents_of_parse {text : List Char} {url : Url} (h : parse text = .ok url) :
    ofComponents (Components.ofText text) = .ok url := by
  unfold parse at h
  split at h
  · cases h
  · split at h
    · cases h
    · exact h

theorem ofComponents_of_rebuild {components : Components} {url : Url}
    (h : rebuild components = .ok url) : ofComponents components = .ok url := by
  simp only [rebuild, bind, Except.bind] at h
  split at h
  · cases h
  · exact h

theorem not_mem_authority {url : Url} (huser : url.userinfo = []) (hhost : '@' ∉ url.host) :
    '@' ∉ url.authority := by
  unfold authority
  rw [huser, List.mem_append, List.mem_append]
  rintro ((huser | hhost') | hport)
  · exact absurd huser List.not_mem_nil
  · split at hhost'
    · simp [hhost] at hhost'
    · exact hhost hhost'
  · split at hport
    · exact absurd hport List.not_mem_nil
    · next port _ =>
        rcases List.mem_cons.mp hport with hcolon | hport
        · exact absurd hcolon (by decide)
        · exact not_mem_toString port hport

/-! ## Appending below a base -/

/-- A URL whose authority holds no credentials and cannot be read as if it did. -/
structure IsAnonymous (url : Url) : Prop where
  userinfo_eq : url.userinfo = []
  not_mem_host : '@' ∉ url.host

theorem IsAnonymous.of_parse {text : List Char} {url : Url} (h : parse text = .ok url)
    (huser : url.userinfo = []) : url.IsAnonymous :=
  ⟨huser, not_mem_host_ofComponents (ofComponents_of_parse h)⟩

theorem IsAnonymous.withRawPath {base url : Url} {rawPath : List Char} (hbase : base.IsAnonymous)
    (h : base.withRawPath rawPath = .ok url) : url.IsAnonymous := by
  -- the URL is read again from its parts, and the authority of the base has no at sign
  have hurl := ofComponents_of_rebuild h
  refine ⟨?_, not_mem_host_ofComponents hurl⟩
  have hauthority := not_mem_authority hbase.userinfo_eq hbase.not_mem_host
  rw [(ofComponents_parts hurl).2.1]
  simp only [components, cutUserinfo_of_not_mem hauthority]
  rfl

theorem IsAnonymous.toBase {url base : Url} (hurl : url.IsAnonymous) (h : url.toBase = .ok base) :
    base.IsAnonymous := by
  unfold Url.toBase at h
  split at h
  · cases h
    exact hurl
  · exact hurl.withRawPath h

/-- A text that begins with a slash is no absolute URL. -/
theorem not_isAbsolute_of_parse_slash {text : List Char} {url : Url}
    (h : parse ('/' :: text) = .ok url) : url.isAbsolute = false := by
  have hscheme : url.scheme = [] := by
    rw [(ofComponents_parts (ofComponents_of_parse h)).1]
    simp [Components.ofText, cutScheme, isSchemeChar]
  simp [isAbsolute, hscheme]

theorem IsAnonymous.below {base url : Url} {text : List Char} (hbase : base.IsAnonymous)
    (h : base.below ('/' :: text) = .ok url) : url.IsAnonymous := by
  simp only [Url.below, bind, Except.bind] at h
  split at h
  · cases h
  next target htarget =>
  rw [not_isAbsolute_of_parse_slash htarget, if_neg (by decide)] at h
  exact hbase.withRawPath h

end QueryBridge.Url
