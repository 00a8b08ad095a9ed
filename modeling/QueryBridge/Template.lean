import QueryBridge.Text.Blank

/-!
# Query templates

A template is a text with placeholders such as `<%=parameter["Name"]%>`.  Blanks
may stand after `<%=`, around the quoted name and before `%>`; the name is put
between quotes of either kind, holds no line feed, and ends at the first quote
after which the rest of the placeholder follows.

`pieces` cuts a template into placeholders and the characters between them, from
left to right.  `resolve` puts the bound values in, once it is clear that every
name is bound; a value is taken as it is and not scanned again.
-/

namespace QueryBridge.Template

/-- The values bound to parameter names. -/
abbrev Parameters := List (String × String)

inductive Piece where
  | char (c : Char)
  | placeholder (name : List Char)
deriving Repr, DecidableEq

/-! ## Recognising one placeholder -/

/-- What follows `word` at the start of a text. -/
def after? : List Char → List Char → Option (List Char)
  | [], text => some text
  | _ :: _, [] => none
  | w :: word, c :: text => if w = c then after? word text else none

def skipBlanks (text : List Char) : List Char :=
  text.dropWhile Text.isBlank

/-- What follows the part of a placeholder behind the name: a quote, `]` and `%>`. -/
def afterClosing? (quote : Char) (text : List Char) : Option (List Char) := do
  let text ← after? [quote] text
  let text ← after? [']'] (skipBlanks text)
  after? ['%', '>'] (skipBlanks text)

/-- Reads the shortest name that the closing part follows. -/
def name? (quote : Char) : List Char → Option (List Char × List Char)
  | [] => none
  | c :: text =>
      match afterClosing? quote (c :: text) with
      | some rest => some ([], rest)
      | none =>
          if c = '\n' then none
          else (name? quote text).map fun found => (c :: found.1, found.2)

/-- What follows the part of a placeholder in front of the name, and the quote that
opens the name. -/
def afterOpening? (text : List Char) : Option (Char × List Char) := do
  let text ← after? ['<', '%', '='] text
  let text ← after? "parameter[".toList (skipBlanks text)
  match skipBlanks text with
  | c :: rest => if c = '"' || c = '\'' then some (c, rest) else none
  | [] => none

/-- The name of the placeholder at the start of a text, and what follows it. -/
def placeholder? (text : List Char) : Option (List Char × List Char) := do
  let opened ← afterOpening? text
  name? opened.1 opened.2

/-! ### A placeholder is not empty -/

theorem length_of_after? {word text rest : List Char} (h : after? word text = some rest) :
    text.length = word.length + rest.length := by
  induction word generalizing text with
  | nil => simp_all [after?]
  | cons w word ih =>
      cases text with
      | nil => simp [after?] at h
      | cons c text =>
          simp only [after?] at h
          split at h
          · simp only [List.length_cons, ih h]
            omega
          · simp at h

theorem length_skipBlanks_le (text : List Char) : (skipBlanks text).length ≤ text.length := by
  induction text with
  | nil => simp [skipBlanks]
  | cons c text ih =>
      simp only [skipBlanks, List.dropWhile_cons] at ih ⊢
      split
      · simp only [List.length_cons]
        omega
      · simp

theorem length_lt_of_afterClosing? {quote : Char} {text rest : List Char}
    (h : afterClosing? quote text = some rest) : rest.length < text.length := by
  simp only [afterClosing?, Option.bind_eq_bind, Option.bind_eq_some_iff] at h
  obtain ⟨first, hfirst, second, hsecond, hthird⟩ := h
  have h₁ := length_of_after? hfirst
  have h₂ := length_of_after? hsecond
  have h₃ := length_of_after? hthird
  have h₄ := length_skipBlanks_le first
  have h₅ := length_skipBlanks_le second
  simp only [List.length_cons, List.length_nil] at h₁ h₂ h₃
  omega

theorem length_lt_of_name? {quote : Char} {text : List Char} {found : List Char × List Char}
    (h : name? quote text = some found) : found.2.length < text.length := by
  induction text generalizing found with
  | nil => simp [name?] at h
  | cons c text ih =>
      simp only [name?] at h
      split at h
      · next rest hrest =>
          cases h
          exact length_lt_of_afterClosing? hrest
      · split at h
        · simp at h
        · obtain ⟨inner, hinner, rfl⟩ := Option.map_eq_some_iff.mp h
          have := ih hinner
          simp only [List.length_cons]
          omega

theorem length_lt_of_placeholder? {text : List Char} {found : List Char × List Char}
    (h : placeholder? text = some found) : found.2.length < text.length := by
  simp only [placeholder?, afterOpening?, Option.bind_eq_bind, Option.bind_eq_some_iff] at h
  obtain ⟨opened, ⟨first, hfirst, second, hsecond, hopened⟩, hname⟩ := h
  have h₁ := length_of_after? hfirst
  have h₂ := length_of_after? hsecond
  have h₃ := length_skipBlanks_le first
  have h₄ := length_skipBlanks_le second
  have h₅ := length_lt_of_name? hname
  split at hopened
  · next c rest hrest =>
      split at hopened
      · cases hopened
        rw [hrest] at h₄
        simp only [List.length_cons, List.length_nil] at h₁ h₄ h₅
        omega
      · simp at hopened
  · simp at hopened

/-! ## The pieces of a template -/

def pieces (text : List Char) : List Piece :=
  match _h : placeholder? text with
  | some found => .placeholder found.1 :: pieces found.2
  | none =>
      match text with
      | [] => []
      | c :: rest => .char c :: pieces rest
termination_by text.length
decreasing_by
  · exact length_lt_of_placeholder? _h
  · simp

def Piece.name? : Piece → Option String
  | .char _ => none
  | .placeholder name => some (String.ofList name)

/-- The names of the placeholders in order of appearance, repetitions included. -/
def placeholderNames (template : String) : List String :=
  (pieces template.toList).filterMap Piece.name?

/-! ## Resolution -/

/-- No value is bound to the name. -/
structure Unbound where
  name : String
deriving Repr, DecidableEq

def Unbound.message (failure : Unbound) : String :=
  "Unable to resolve parameter '" ++ failure.name ++ "': no value was supplied."

def Piece.fill (parameters : Parameters) : Piece → List Char
  | .char c => [c]
  | .placeholder name => ((parameters.lookup (String.ofList name)).getD "").toList

/-- The template with every placeholder replaced by its value, or the first name in
template order that has none. -/
def resolve (template : String) (parameters : Parameters) : Except Unbound String :=
  match (placeholderNames template).find? fun name => (parameters.lookup name).isNone with
  | some name => .error ⟨name⟩
  | none =>
      .ok (String.ofList ((pieces template.toList).flatMap (Piece.fill parameters)))

end QueryBridge.Template
