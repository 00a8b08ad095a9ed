import Mathlib.Data.List.Basic
import Mathlib.Data.List.Induction
import QueryBridge.Proofs.Failure
import QueryBridge.Proofs.Url.Resource

/-!
# Endpoints

The text of an endpoint has neither a query nor a fragment, so it ends with the path of its root.
A path without dot segments is read as it is written, and it ends in a slash only if the text
does.  Below such a root every resource has its own path behind that of the root, up to dot
segments of its own.
-/

namespace QueryBridge.Url

open QueryBridge.Text.Percent (encodeExcept)

/-- The text names a root of the service: a URL of the web without a query, a fragment and dot
segments. -/
structure IsEndpoint (text : List Char) (root : Url) : Prop where
  parse_eq : parse text = .ok root
  scheme_eq : root.scheme = "http".toList ∨ root.scheme = "https".toList
  query_eq : root.query = none
  fragment_eq : root.fragment = none
  dotless : IsDotless (Components.ofText text).path

variable {text : List Char} {root : Url}

/-! ## Hosts in ASCII -/

/-- The host that a text names, as it stands. -/
def namedHost (text : List Char) : List Char :=
  (cutHost (cutUserinfo (Components.ofText text).authority).2).1

/-- The text names no international host. -/
def NamesAsciiHost (text : List Char) : Prop :=
  ∀ c ∈ namedHost text, c.toNat < 0x80

instance (text : List Char) : Decidable (NamesAsciiHost text) :=
  decidable_of_iff ((namedHost text).all (fun c => c.toNat < 0x80) = true) (by
    simp [NamesAsciiHost])

/-- The error is not that a host cannot be put into ASCII. -/
def Error.LeavesName (error : Error) : Prop :=
  ∀ name, error ≠ .hostname name

theorem failsOnly_normalHost {host : List Char} (h : ∀ c ∈ host, c.toNat < 0x80) :
    FailsOnly Error.LeavesName (normalHost host) := by
  have hascii : (host.all fun c => c.toNat < 0x80) = true :=
    List.all_eq_true.mpr fun c hc => decide_eq_true (h c hc)
  unfold normalHost
  refine .ite (failsOnly_ok _) (.ite ?_ (.ite ?_ ?_))
  · exact .ite (failsOnly_ok _) (failsOnly_error nofun)
  · exact .ite (failsOnly_ok _) (failsOnly_error nofun)
  · rw [if_pos hascii]
    exact failsOnly_ok _

theorem failsOnly_normalPort (scheme port : List Char) :
    FailsOnly Error.LeavesName (normalPort scheme port) := by
  unfold normalPort
  refine .ite (failsOnly_ok _) ?_
  split
  · exact failsOnly_error nofun
  · exact failsOnly_ok _

theorem failsOnly_checkPath (path : List Char) (hasScheme hasAuthority : Bool) :
    FailsOnly Error.LeavesName (checkPath path hasScheme hasAuthority) := by
  unfold checkPath
  refine .ite (.ite (failsOnly_ok _) (failsOnly_error nofun)) (.ite (failsOnly_ok _)
    (.ite (failsOnly_error nofun) (.ite (failsOnly_error nofun) (failsOnly_ok _))))

/-- A text that names no international host is not refused for the name of its host. -/
theorem NamesAsciiHost.failsOnly_parse (h : NamesAsciiHost text) :
    FailsOnly Error.LeavesName (parse text) := by
  unfold parse
  refine .ite (failsOnly_error nofun) ?_
  split
  · exact failsOnly_error nofun
  · exact (failsOnly_normalHost h).bind fun _ => (failsOnly_normalPort _ _).bind fun _ =>
      (failsOnly_checkPath _ _ _).bind fun _ => failsOnly_pure _

/-! ## The end of a text -/

theorem cutScheme_isSuffix (text : List Char) : (cutScheme text).2 <:+ text := by
  unfold cutScheme
  dsimp only
  split
  · next rest hrest =>
      split
      · have hcolon : rest <:+ ':' :: rest := List.suffix_cons ':' rest
        rw [← hrest] at hcolon
        exact hcolon.trans (List.dropWhile_suffix isSchemeChar)
      · exact List.suffix_refl text
  · exact List.suffix_refl text

theorem cutAuthority_isSuffix (text : List Char) : (cutAuthority text).2 <:+ text := by
  unfold cutAuthority
  split
  · next rest =>
      have hslashes : rest <:+ '/' :: '/' :: rest := List.suffix_append ['/', '/'] rest
      exact (List.dropWhile_suffix _).trans hslashes
  · exact List.suffix_refl text

theorem fst_cutMark_of_snd {mark : Char} (h : (cutMark mark text).2 = none) :
    (cutMark mark text).1 = text := by
  have hmark : mark ∉ text := by
    intro hmem
    unfold cutMark at h
    rw [if_pos (by simpa using hmem)] at h
    cases h
  rw [cutMark_of_not_mem hmark]

theorem path_isSuffix (hquery : (Components.ofText text).query = none)
    (hfragment : (Components.ofText text).fragment = none) :
    (Components.ofText text).path <:+ text := by
  unfold Components.ofText at hquery hfragment ⊢
  dsimp only at hquery hfragment ⊢
  rw [fst_cutMark_of_snd hquery, fst_cutMark_of_snd hfragment]
  exact (cutAuthority_isSuffix _).trans (cutScheme_isSuffix text)

/-- Encoding leaves the end of a text, unless it is encoded itself. -/
theorem getLast?_encodeExcept {isSafe : Char → Bool} {c : Char} (hpercent : c ≠ '%')
    (hhex : Text.Percent.hexValue? c = none)
    (h : (encodeExcept isSafe text).getLast? = some c) : text.getLast? = some c := by
  induction text using List.reverseRecOn with
  | nil => cases h
  | append_singleton text last _ =>
      have hlast : c ∈ encodeExcept isSafe [last] := by
        have hne : encodeExcept isSafe [last] ≠ [] := by
          have hlength := Text.Percent.length_le_length_encodeExcept isSafe [last]
          exact List.ne_nil_of_length_pos hlength
        rw [Text.Percent.encodeExcept_append, List.getLast?_append_of_ne_nil _ hne] at h
        exact List.mem_of_getLast? h
      rcases Text.Percent.mem_encodeExcept hlast with ⟨hmem, -⟩ | heq | hdigit
      · rw [List.getLast?_concat, List.mem_singleton.mp hmem]
      · exact absurd heq hpercent
      · rw [hhex] at hdigit
        cases hdigit

/-! ## The root of an endpoint -/

namespace IsEndpoint

theorem isRoot (h : IsEndpoint text root) : root.IsRoot :=
  .of_parse h.parse_eq h.query_eq

theorem scheme_ne (h : IsEndpoint text root) : root.scheme ≠ [] := by
  rcases h.scheme_eq with heq | heq
  · rw [heq]
    decide
  · rw [heq]
    decide

/-- The path of the root is written at the end of the text. -/
theorem path_eq (h : IsEndpoint text root) : ∃ path, path <:+ text ∧ IsDotless path ∧
    root.path = encodeExcept isPathSafe path := by
  obtain ⟨hquery, hfragment, path, hwritten, -, hpath⟩ :=
    ofComponents_rest (ofComponents_of_parse h.parse_eq)
  rw [h.query_eq] at hquery
  rw [h.fragment_eq] at hfragment
  rw [normalPath_of_isDotless h.dotless, or_self] at hwritten
  subst hwritten
  exact ⟨_, path_isSuffix (Option.map_eq_none_iff.mp hquery.symm)
    (Option.map_eq_none_iff.mp hfragment.symm), h.dotless, hpath⟩

theorem isDotless_path (h : IsEndpoint text root) : IsDotless root.path := by
  obtain ⟨path, -, hdotless, hpath⟩ := h.path_eq
  rw [hpath, isDotless_encodeExcept_iff (by decide) (by decide)]
  exact hdotless

theorem getLast?_path_ne (h : IsEndpoint text root) (hend : text.getLast? ≠ some '/') :
    root.path.getLast? ≠ some '/' := by
  intro hslash
  obtain ⟨path, ⟨before, rfl⟩, -, hpath⟩ := h.path_eq
  rw [hpath] at hslash
  have hlast : path.getLast? = some '/' :=
    getLast?_encodeExcept (by decide) (by decide) hslash
  apply hend
  rw [List.getLast?_append, hlast]
  rfl

/-- The path of a resource below the root. -/
theorem path_below (h : IsEndpoint text root) (hend : text.getLast? ≠ some '/') {base url : Url}
    (hbase : root.toBase = .ok base) {inner : List Char} {query : Option (List Char)}
    (hinner : IsResourcePath inner) (hurl : base.below (resourceText inner query) = .ok url) :
    url.path = normalPath (root.path ++ '/' :: inner) := by
  have hraw : base.rawPath = root.path ++ ['/'] :=
    h.isRoot.rawPath_toBase h.isDotless_path (h.getLast?_path_ne hend) hbase
  obtain ⟨-, -, hpath⟩ := below_eq_ok (h.isRoot.toBase hbase) hinner hurl
  calc url.path
      = normalPath (base.rawPath ++ inner) := hpath (scheme_toBase hbase h.scheme_ne)
    _ = normalPath (root.path ++ '/' :: inner) := by
        rw [hraw, List.append_assoc, List.singleton_append]

end IsEndpoint

end QueryBridge.Url
