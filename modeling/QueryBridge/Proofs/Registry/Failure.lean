import QueryBridge.Proofs.Registry.Document
import QueryBridge.Proofs.Yaml.Value

/-!
# Files that give no registry

A file gives a registry if its bytes are a YAML list of entries that are usable.  Otherwise the
first of the stages of reading that goes wrong decides the error: the encoding, the text, the kind
of its value, and then the entries in order.

This is so for files that are read as a whole before anything in them is parsed, or that have
nothing wrong with their characters, and for documents that are covered.
-/

namespace QueryBridge.Registry

variable [Runtime]

/-- The most characters of a file that are read at once. -/
def blockSize : Nat := 4096

/-- All that can be wrong with the characters is met first: the bytes fit into one block, or
nothing is wrong. -/
def AreReadFirst (bytes : List UInt8) : Prop :=
  bytes.length ≤ blockSize ∨ ∃ text, Text.Utf8.decode? bytes = some text ∧
    (Text.unifyNewlines text).all Yaml.isAdmitted = true

/-- The bytes are read in the order of the stages, and the document in them, if there is one, is
covered. -/
structure IsCovered (bytes : List UInt8) : Prop where
  first : AreReadFirst bytes
  document : ∀ text reason, Text.Utf8.decode? bytes = some text →
    Yaml.read (Text.unifyNewlines text) ≠ .error (.uncovered reason)

/-- Why the bytes of a file give no registry. -/
inductive IsFileFault (path : String) (bytes : List UInt8) : LoadError → Prop
  | encoding (h : Text.Utf8.decode? bytes = none) : IsFileFault path bytes .encoding
  | malformed {text : List Char} (htext : Text.Utf8.decode? bytes = some text)
      (h : Yaml.read (Text.unifyNewlines text) = .error .syntaxError) :
      IsFileFault path bytes (.malformed path)
  | value {text : List Char} {fault : Yaml.Error} (htext : Text.Utf8.decode? bytes = some text)
      (h : Yaml.read (Text.unifyNewlines text) = .error fault) (hfault : fault ≠ .syntaxError) :
      IsFileFault path bytes (.value fault)
  | notList {value : Datum} (h : IsDocument bytes value) (hlist : ∀ items, value ≠ .list items) :
      IsFileFault path bytes (.notList path)
  | entry {before after : List Datum} {entry : Datum} {names : List String} {error : LoadError}
      (h : IsDocument bytes (.list (before ++ entry :: after))) (hbefore : AreUsable before names)
      (hentry : IsEntryFault path names entry error) : IsFileFault path bytes error

/-- Why the error of a file is none of loading a registry. -/
inductive IsUnreported (bytes : List UInt8) : LoadError → Prop
  | encoding (h : Text.Utf8.decode? bytes = none) : IsUnreported bytes .encoding
  | value {text : List Char} {fault : Yaml.Error} (htext : Text.Utf8.decode? bytes = some text)
      (h : Yaml.IsTextFault (Text.unifyNewlines text) fault) (hfault : fault ≠ .syntaxError)
      (hcovered : ∀ reason, fault ≠ .uncovered reason) : IsUnreported bytes (.value fault)
  | unwritable {entries : List Datum} {entry : Datum} {fault : Datum.Fault}
      (h : IsDocument bytes (.list entries)) (hentry : entry ∈ entries)
      (hfault : IsFirstFault entry fault) : IsUnreported bytes (.unwritable fault)

variable {path : String} {bytes : List UInt8} {error : LoadError}

theorem ofDatum_of_ne_list {value : Datum} (h : ∀ items, value ≠ .list items) (path : String) :
    ofDatum path value = .error (.notList path) := by
  cases value with
  | list items => exact absurd rfl (h items)
  | _ => rfl

theorem ofFile_of_isFileFault (h : IsFileFault path bytes error) :
    ofFile path (some bytes) = .error error := by
  cases h with
  | encoding htext => simp only [ofFile, ofBytes, htext]
  | malformed htext hread => simp only [ofFile, ofBytes, htext, hread]
  | value htext hread hfault =>
      simp only [ofFile, ofBytes, htext, hread]
  | notList hdocument hlist => rw [ofFile_of_isDocument hdocument, ofDatum_of_ne_list hlist]
  | entry hdocument hbefore hentry =>
      rw [ofFile_of_isDocument hdocument]
      exact ofDatum_list_eq_error_iff.mpr ⟨_, _, _, _, rfl, hbefore, hentry⟩

/-- The bytes are no text, or the text is no YAML, or they are a document. -/
theorem isFileFault_or_isDocument (path : String) (bytes : List UInt8) :
    (∃ error, IsFileFault path bytes error) ∨ ∃ value, IsDocument bytes value := by
  cases htext : Text.Utf8.decode? bytes with
  | none => exact .inl ⟨_, .encoding htext⟩
  | some text =>
      cases hread : Yaml.read (Text.unifyNewlines text) with
      | ok value => exact .inr ⟨value, text, htext, hread⟩
      | error fault =>
          by_cases hfault : fault = .syntaxError
          · rw [hfault] at hread
            exact .inl ⟨_, .malformed htext hread⟩
          · exact .inl ⟨_, .value htext hread hfault⟩

/-- The error of a file is that of the first stage of reading that goes wrong. -/
theorem ofFile_eq_error_iff :
    ofFile path (some bytes) = .error error ↔ IsFileFault path bytes error := by
  refine ⟨fun h => ?_, ofFile_of_isFileFault⟩
  rcases isFileFault_or_isDocument path bytes with ⟨other, hother⟩ | ⟨value, hdocument⟩
  · rw [ofFile_of_isFileFault hother] at h
    cases h
    exact hother
  · rw [ofFile_of_isDocument hdocument] at h
    -- a document is wrong in its kind, or else in the first entry that cannot be used
    by_cases hlist : ∃ items, value = .list items
    · obtain ⟨items, rfl⟩ := hlist
      obtain ⟨before, entry, after, names, rfl, hbefore, hentry⟩ :=
        ofDatum_list_eq_error_iff.mp h
      exact .entry hdocument hbefore hentry
    · have hlist' : ∀ items, value ≠ .list items := fun items heq => hlist ⟨items, heq⟩
      rw [ofDatum_of_ne_list hlist'] at h
      cases h
      exact .notList hdocument hlist'

/-- A file gives a registry exactly if its bytes are a YAML list of usable entries. -/
theorem exists_ofFile_eq_ok_iff (path : String) (bytes : List UInt8) :
    (∃ registry, ofFile path (some bytes) = .ok registry) ↔
      ∃ entries names, IsDocument bytes (.list entries) ∧ AreUsable entries names := by
  constructor
  · rintro ⟨registry, h⟩
    rcases isFileFault_or_isDocument path bytes with ⟨error, hfault⟩ | ⟨value, hdocument⟩
    · rw [ofFile_of_isFileFault hfault] at h
      cases h
    · rw [ofFile_of_isDocument hdocument] at h
      by_cases hlist : ∃ items, value = .list items
      · obtain ⟨items, rfl⟩ := hlist
        exact ⟨items, _, hdocument, areUsable_of_areAdmitted (foldlM_addRead_eq_ok_iff.mp h)⟩
      · rw [ofDatum_of_ne_list fun items heq => hlist ⟨items, heq⟩] at h
        cases h
  · rintro ⟨entries, names, hdocument, husable⟩
    obtain ⟨descriptors, hadmitted, -⟩ := exists_areAdmitted husable path
    refine ⟨⟨descriptors⟩, ?_⟩
    rw [ofFile_of_isDocument hdocument]
    exact foldlM_addRead_eq_ok_iff.mpr hadmitted

/-- Bytes are covered if what is wrong with them is. -/
theorem isCovered_of_ofFile (hfirst : AreReadFirst bytes)
    (h : ofFile path (some bytes) = .error error)
    (hcovered : ∀ reason, error ≠ .value (.uncovered reason)) : IsCovered bytes := by
  refine ⟨hfirst, fun text reason htext hread => hcovered reason ?_⟩
  simp only [ofFile, ofBytes, htext, hread] at h
  exact (Except.error.inj h).symm

/-- The errors that are not reported come from the encoding, from the tokens or a scalar of the
text, or from a value of an entry that cannot be shown. -/
theorem isReported_eq_false_iff (hcovered : IsCovered bytes) (h : IsFileFault path bytes error) :
    error.isReported = false ↔ IsUnreported bytes error := by
  constructor
  · intro hunreported
    cases h with
    | encoding htext => exact .encoding htext
    | malformed => cases hunreported
    | value htext hread hfault =>
        refine .value htext (Yaml.failsOnly_read _ _ hread) hfault ?_
        rintro reason rfl
        exact hcovered.document _ reason htext hread
    | notList => cases hunreported
    | entry hdocument _ hentry =>
        cases hentry with
        | unwritable _ hfault =>
            exact .unwritable hdocument (List.mem_append_right _ List.mem_cons_self) hfault
        | _ => cases hunreported
  · intro hunreported
    cases hunreported <;> rfl

end QueryBridge.Registry
