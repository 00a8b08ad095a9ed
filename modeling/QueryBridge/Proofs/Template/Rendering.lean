import QueryBridge.Proofs.Template.Layout

/-!
# Templates that are written

A template can be written as literal texts with placeholders between them, each placeholder in a
style: the kind of its quotes, and blanks at the four places where they may stand.  As long as no
literal text holds `<%=`, and no name a line feed or the quotes of its style, the template is read
as it was written.  No opening is made across a joint, since only its first character could end a
literal text, and the first closing behind a name is the one that was written there.
-/

namespace QueryBridge.Template

open Text (IsBlankRun)

/-- Any number of blanks, of any kind. -/
abbrev BlankRun := { run : List Char // IsBlankRun run }

/-- The kind of the quotes around a name, and the blanks at the places where they may stand. -/
structure Style where
  quote : Char
  isQuote : IsQuote quote
  behindSign : BlankRun
  behindBracket : BlankRun
  behindQuotes : BlankRun
  beforeEnd : BlankRun

namespace Style

/-- The text of a placeholder up to its name. -/
def opening (style : Style) : List Char :=
  "<%=".toList ++ style.behindSign.val ++ "parameter[".toList ++ style.behindBracket.val ++
    [style.quote]

/-- The text of a placeholder behind its name. -/
def closing (style : Style) : List Char :=
  [style.quote] ++ style.behindQuotes.val ++ "]".toList ++ style.beforeEnd.val ++ "%>".toList

/-- The placeholder with the given name. -/
def write (style : Style) (name : String) : List Char :=
  style.opening ++ name.toList ++ style.closing

/-- A name of one line without the quotes of the style. -/
def Admits (style : Style) (name : String) : Prop :=
  '\n' ∉ name.toList ∧ style.quote ∉ name.toList

instance (style : Style) (name : String) : Decidable (style.Admits name) :=
  inferInstanceAs (Decidable ('\n' ∉ name.toList ∧ style.quote ∉ name.toList))

end Style

/-- A text in which no placeholder can begin. -/
def IsPlain (literal : List Char) : Prop :=
  ¬ "<%=".toList <:+: literal

instance (literal : List Char) : Decidable (IsPlain literal) :=
  inferInstanceAs (Decidable (¬ "<%=".toList <:+: literal))

/-- A literal text and the placeholder behind it. -/
structure Segment where
  literal : List Char
  name : String
  style : Style
  plain : IsPlain literal
  admitted : style.Admits name

def Segment.text (segment : Segment) : List Char :=
  segment.literal ++ segment.style.write segment.name

/-! ## Placeholders -/

variable {style : Style} {name : String} {literal rest : List Char}

theorem Style.isOpening (style : Style) : IsOpening style.opening style.quote :=
  ⟨style.isQuote, _, _, style.behindSign.property, style.behindBracket.property, rfl⟩

theorem Style.isClosing (style : Style) : IsClosing style.quote style.closing :=
  ⟨_, _, style.behindQuotes.property, style.beforeEnd.property, rfl⟩

/-- A text begins with one opening at most. -/
theorem opening_unique {first second behind behind' : List Char} {quote quote' : Char}
    (hfirst : IsOpening first quote) (hsecond : IsOpening second quote')
    (heq : first ++ behind = second ++ behind') : quote = quote' ∧ behind = behind' := by
  have hread : afterOpening? (first ++ behind) = some (quote, behind) :=
    afterOpening?_eq_some_iff.mpr ⟨first, hfirst, rfl⟩
  have hread' := afterOpening?_eq_some_iff.mpr ⟨second, hsecond, heq⟩
  cases hread.symm.trans hread'
  exact ⟨rfl, rfl⟩

/-- A written placeholder has the shortest name that can be read, as a shorter one would end at
quotes inside the name. -/
theorem isPlaceholder_write (h : style.Admits name) (rest : List Char) :
    IsPlaceholder (style.write name) name.toList rest where
  form := ⟨_, _, _, style.isOpening, h.1, style.isClosing, rfl⟩
  shortest := by
    rintro _ other rest' ⟨quote, opening, closing, hopening, -, hclosing, rfl⟩ heq
    simp only [Style.write, List.append_assoc] at heq
    obtain ⟨rfl, hbehind⟩ := opening_unique style.isOpening hopening heq
    obtain ⟨first, second, -, -, rfl⟩ := hclosing
    by_contra hshorter
    have hother : other ++ [style.quote] <+: name.toList ++ (style.closing ++ rest) := by
      rw [hbehind]
      exact ⟨_, by simp only [List.append_assoc]; rfl⟩
    have hlonger : other ++ [style.quote] <+: name.toList := by
      refine List.prefix_of_prefix_length_le hother (List.prefix_append _ _) ?_
      rw [List.length_append, List.length_singleton]
      omega
    exact h.2 (hlonger.subset (List.mem_append_right _ (List.mem_singleton_self _)))

/-! ## Literal texts -/

theorem BeginsForm.sign_prefix {text : List Char} (h : BeginsForm text) :
    "<%=".toList <+: text := by
  obtain ⟨_, name, rest, ⟨quote, _, closing, ⟨-, first, second, -, -, rfl⟩, -, -, rfl⟩, rfl⟩ := h
  exact ⟨_, by simp only [List.append_assoc]; rfl⟩

/-- Behind a plain text may stand nothing, or a text that begins with `<`. -/
theorem IsPlain.isLiteral (h : IsPlain literal) (hrest : ∀ c ∈ rest.head?, c = '<') :
    IsLiteral literal rest := by
  rintro before after rfl hafter hform
  have hsign := hform.sign_prefix
  have hinside : ¬ "<%=".toList <+: after := fun hprefix =>
    h (List.IsInfix.trans hprefix.isInfix (List.suffix_append before after).isInfix)
  -- so the sign begins in the literal text and ends behind it
  obtain ⟨tail, htail⟩ : after <+: "<%=".toList :=
    (List.prefix_or_prefix_of_prefix hsign (List.prefix_append after rest)).resolve_left hinside
  obtain ⟨d, after, rfl⟩ := List.exists_cons_of_ne_nil hafter
  cases tail with
  | nil =>
      rw [List.append_nil] at htail
      exact hinside (htail ▸ List.prefix_rfl)
  | cons c tail =>
      obtain ⟨behind, hbehind⟩ := hsign
      rw [← htail, List.append_assoc] at hbehind
      have hrest' : c :: tail ++ behind = rest := List.append_cancel_left hbehind
      have htail' : after ++ c :: tail = ['%', '='] := (List.cons.inj htail).2
      have hmem : c ∈ ['%', '='] := by
        rw [← htail']
        exact List.mem_append_right after List.mem_cons_self
      rw [hrest c (hrest' ▸ rfl)] at hmem
      exact absurd hmem (by decide)

/-! ## The layout of a written template -/

/-- The layout of segments with a literal text behind the last one. -/
def layoutOf (segments : List Segment) (last : List Char) : Layout :=
  segments.foldr (fun segment rest =>
    .part segment.literal (segment.style.write segment.name) segment.name.toList rest) (.last last)

variable {segments : List Segment} {last : List Char}

theorem text_layoutOf (segments : List Segment) (last : List Char) :
    (layoutOf segments last).text = segments.flatMap Segment.text ++ last := by
  induction segments with
  | nil => rfl
  | cons segment segments ih =>
      rw [List.flatMap_cons, List.append_assoc, ← ih]
      rfl

theorem names_layoutOf (segments : List Segment) (last : List Char) :
    (layoutOf segments last).names = segments.map Segment.name := by
  induction segments with
  | nil => rfl
  | cons segment segments ih =>
      rw [List.map_cons, ← ih, ← String.ofList_toList (s := segment.name)]
      rfl

theorem fill?_layoutOf {parameters : Parameters} {value : String → String}
    (h : ∀ segment ∈ segments, parameters.lookup segment.name = some (value segment.name)) :
    (layoutOf segments last).fill? parameters =
      some (segments.flatMap (fun segment =>
        segment.literal ++ (value segment.name).toList) ++ last) := by
  induction segments with
  | nil => rfl
  | cons segment segments ih =>
      obtain ⟨hsegment, hsegments⟩ := List.forall_mem_cons.mp h
      have hstep : (layoutOf (segment :: segments) last).fill? parameters =
          (parameters.lookup (String.ofList segment.name.toList)).bind fun value =>
            ((layoutOf segments last).fill? parameters).map fun filled =>
              segment.literal ++ value.toList ++ filled := rfl
      rw [hstep, String.ofList_toList, hsegment, ih hsegments, List.flatMap_cons,
        List.append_assoc]
      rfl

theorem isProper_layoutOf (hlast : IsPlain last) : (layoutOf segments last).IsProper := by
  induction segments with
  | nil => exact hlast.isLiteral (by simp)
  | cons segment segments ih =>
      refine ⟨segment.plain.isLiteral ?_, isPlaceholder_write segment.admitted _, ih⟩
      intro c hc
      exact (Option.some.inj hc).symm

/-- A template is read as it was written: the names are those of its placeholders, in order and
with repetitions, and with a value for each of them it resolves to its literal texts with the
values between them. -/
theorem written_templates_are_read (segments : List Segment) (last : List Char)
    (hlast : IsPlain last) :
    let template := String.ofList (segments.flatMap Segment.text ++ last)
    placeholderNames template = segments.map Segment.name ∧
    ∀ (parameters : Parameters) (value : String → String),
      (∀ segment ∈ segments, parameters.lookup segment.name = some (value segment.name)) →
      resolve template parameters = .ok (String.ofList
        (segments.flatMap (fun segment => segment.literal ++ (value segment.name).toList) ++
          last)) := by
  intro template
  have hproper : (layoutOf segments last).IsProper := isProper_layoutOf hlast
  have htext : (layoutOf segments last).text = template.toList := by
    rw [text_layoutOf, String.toList_ofList]
  constructor
  · rw [Layout.placeholderNames_eq_names hproper htext, names_layoutOf]
  · intro parameters value hbound
    rw [Layout.resolve_eq_ok_iff_fill? hproper htext, fill?_layoutOf hbound, String.toList_ofList]

/-- Names may hold delimiters and quotes of the other kind, and be empty or repeated. -/
theorem names_with_delimiters_are_read :
    let template :=
      "a<%<%=\tparameter[ 'it \"]%><%=' ] %>%><%=parameter[\"\"]\n%><%=parameter['']%><%"
    placeholderNames template = ["it \"]%><%=", "", ""] ∧
      resolve template [("", "&"), ("it \"]%><%=", "<%=parameter['']%>")] =
        .ok "a<%<%=parameter['']%>%>&&<%" := by
  intro template
  let none : BlankRun := ⟨[], by decide⟩
  let space : BlankRun := ⟨[' '], by decide⟩
  let segments : List Segment :=
    [⟨"a<%".toList, "it \"]%><%=", ⟨'\'', .inr rfl, ⟨['\t'], by decide⟩, space, space, space⟩,
        by decide, by decide⟩,
      ⟨"%>".toList, "", ⟨'"', .inl rfl, none, none, none, ⟨['\n'], by decide⟩⟩,
        by decide, by decide⟩,
      ⟨[], "", ⟨'\'', .inr rfl, none, none, none, none⟩, by decide, by decide⟩]
  have htext : template = String.ofList (segments.flatMap Segment.text ++ "<%".toList) := by
    decide +kernel
  obtain ⟨hnames, hresolve⟩ := written_templates_are_read segments "<%".toList (by decide)
  rw [← htext] at hnames hresolve
  refine ⟨hnames, ?_⟩
  rw [hresolve _ (fun name => if name = "" then "&" else "<%=parameter['']%>") (by decide +kernel)]
  decide +kernel

end QueryBridge.Template
