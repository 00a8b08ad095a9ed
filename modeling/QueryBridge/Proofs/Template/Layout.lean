import QueryBridge.Proofs.Template.Grammar
import QueryBridge.Proofs.Template.Occurrence

/-!
# The layout of a template

A layout cuts a text into literal parts and placeholders.  It is proper if every placeholder
is one of the written form with the shortest name that is possible there, and if none begins
inside a literal part.  Every text has exactly one proper layout, and both passes over a
template, the check of its names and the filling in, go by it.
-/

namespace QueryBridge.Template

variable {parameters : Parameters}

/-- No placeholder begins inside a literal that stands in front of `rest`. -/
def IsLiteral (literal rest : List Char) : Prop :=
  ∀ before after, literal = before ++ after → after ≠ [] → ¬ BeginsForm (after ++ rest)

/-- A text as literal parts with placeholders between them. -/
inductive Layout where
  | last (literal : List Char)
  | part (literal source name : List Char) (rest : Layout)
deriving Repr, DecidableEq

namespace Layout

def text : Layout → List Char
  | last literal => literal
  | part literal source _ rest => literal ++ source ++ rest.text

def names : Layout → List String
  | last _ => []
  | part _ _ name rest => String.ofList name :: rest.names

/-- The literal parts as they stand, with the bound values between them. -/
def fill? (parameters : Parameters) : Layout → Option (List Char)
  | last literal => some literal
  | part literal _ name rest =>
      (parameters.lookup (String.ofList name)).bind fun value =>
        (rest.fill? parameters).map fun filled => literal ++ value.toList ++ filled

def IsProper : Layout → Prop
  | last literal => IsLiteral literal []
  | part literal source name rest =>
      IsLiteral literal (source ++ rest.text) ∧ IsPlaceholder source name rest.text ∧ rest.IsProper

end Layout

/-! ## Literal parts -/

theorem isLiteral_nil (rest : List Char) : IsLiteral [] rest := by
  intro before after heq hafter
  exact absurd (List.append_eq_nil_iff.mp heq.symm).2 hafter

theorem isLiteral_cons_iff {c : Char} {literal rest : List Char} :
    IsLiteral (c :: literal) rest ↔
      ¬ BeginsForm (c :: (literal ++ rest)) ∧ IsLiteral literal rest := by
  constructor
  · intro h
    refine ⟨h [] (c :: literal) rfl (List.cons_ne_nil c literal), fun before after heq => ?_⟩
    exact h (c :: before) after (congrArg (c :: ·) heq)
  · rintro ⟨hfirst, hliteral⟩ before after heq hafter
    cases before with
    | nil =>
        rw [List.nil_append] at heq
        rw [← heq]
        exact hfirst
    | cons d before =>
        cases heq
        exact hliteral before after rfl hafter

/-- A literal ends where the next placeholder begins, or with the text. -/
theorem literal_unique {first second rest rest' : List Char} (hfirst : IsLiteral first rest)
    (hsecond : IsLiteral second rest') (hrest : rest = [] ∨ BeginsForm rest)
    (hrest' : rest' = [] ∨ BeginsForm rest') (heq : first ++ rest = second ++ rest') :
    first = second := by
  -- of two that differ the longer one goes on where a placeholder begins
  have hlonger : ∀ {short long behind behind' middle : List Char}, IsLiteral long behind' →
      (behind = [] ∨ BeginsForm behind) → long = short ++ middle → behind = middle ++ behind' →
      long = short := by
    intro short long behind behind' middle hlong hbehind heq heq'
    cases middle with
    | nil => rw [heq, List.append_nil]
    | cons c middle =>
        have hform : BeginsForm behind := by
          rcases hbehind with hnil | hform
          · rw [hnil] at heq'
            cases heq'
          · exact hform
        rw [heq'] at hform
        exact absurd hform (hlong short (c :: middle) heq (List.cons_ne_nil c middle))
  rcases List.append_eq_append_iff.mp heq with ⟨middle, h, h'⟩ | ⟨middle, h, h'⟩
  · exact (hlonger hsecond hrest h h').symm
  · exact hlonger hfirst hrest' h h'

theorem pieces_literal_append {literal rest : List Char} (h : IsLiteral literal rest) :
    pieces (literal ++ rest) = literal.map .char ++ pieces rest := by
  induction literal with
  | nil => rfl
  | cons c literal ih =>
      obtain ⟨hfirst, hliteral⟩ := isLiteral_cons_iff.mp h
      rw [List.cons_append, pieces_cons (placeholder?_eq_none_iff.mpr hfirst), ih hliteral]
      rfl

theorem filterMap_name?_map_char (literal : List Char) :
    (literal.map Piece.char).filterMap Piece.name? = [] := by
  rw [List.filterMap_map, List.filterMap_eq_nil_iff]
  intro c _
  rfl

/-! ## Placeholders -/

theorem source_ne_nil {source name : List Char} (h : IsForm source name) : source ≠ [] := by
  obtain ⟨quote, opening, closing, ⟨-, first, second, -, -, rfl⟩, -, -, rfl⟩ := h
  simp

theorem IsPlaceholder.beginsForm {source name rest : List Char}
    (h : IsPlaceholder source name rest) : BeginsForm (source ++ rest) :=
  ⟨source, name, rest, h.form, rfl⟩

theorem IsPlaceholder.unique {source name rest source' name' rest' : List Char}
    (h : IsPlaceholder source name rest) (h' : IsPlaceholder source' name' rest')
    (heq : source ++ rest = source' ++ rest') :
    source = source' ∧ name = name' ∧ rest = rest' := by
  have hfound := placeholder?_of_isPlaceholder h
  rw [heq, placeholder?_of_isPlaceholder h'] at hfound
  cases hfound
  exact ⟨List.append_cancel_right heq, rfl, rfl⟩

/-! ## The layout of a text -/

namespace Layout

/-- What stands in front of a layout goes to its first literal. -/
def prepend (c : Char) : Layout → Layout
  | last literal => last (c :: literal)
  | part literal source name rest => part (c :: literal) source name rest

theorem text_prepend (c : Char) (layout : Layout) : (layout.prepend c).text = c :: layout.text := by
  cases layout <;> rfl

theorem isProper_prepend {c : Char} {layout : Layout} (hlayout : layout.IsProper)
    (hc : ¬ BeginsForm (c :: layout.text)) : (layout.prepend c).IsProper := by
  cases layout with
  | last literal => exact isLiteral_cons_iff.mpr ⟨by simpa [text] using hc, hlayout⟩
  | part literal source name rest =>
      obtain ⟨hliteral, hplaceholder, hrest⟩ := hlayout
      exact ⟨isLiteral_cons_iff.mpr ⟨by simpa [text] using hc, hliteral⟩, hplaceholder, hrest⟩

theorem exists_isProper (text : List Char) :
    ∃ layout : Layout, layout.IsProper ∧ layout.text = text := by
  induction text using pieces.induct with
  | case1 text found hfound ih =>
      obtain ⟨layout, hlayout, htext⟩ := ih
      obtain ⟨source, hsource, hplaceholder⟩ := isPlaceholder_of_placeholder? hfound
      rw [← htext] at hsource hplaceholder
      exact ⟨part [] source found.1 layout, ⟨isLiteral_nil _, hplaceholder, hlayout⟩, hsource.symm⟩
  | case2 hnone => exact ⟨last [], isLiteral_nil [], rfl⟩
  | case3 c text hnone ih =>
      obtain ⟨layout, hlayout, htext⟩ := ih
      rw [← htext] at hnone
      refine ⟨layout.prepend c, isProper_prepend hlayout (placeholder?_eq_none_iff.mp hnone), ?_⟩
      rw [text_prepend, htext]

/-- What stands behind the first literal. -/
def behind : Layout → List Char
  | last _ => []
  | part _ source _ rest => source ++ rest.text

theorem behind_eq_nil_or_beginsForm {layout : Layout} (h : layout.IsProper) :
    layout.behind = [] ∨ BeginsForm layout.behind := by
  cases layout with
  | last literal => exact Or.inl rfl
  | part literal source name rest => exact Or.inr h.2.1.beginsForm

/-- Two proper layouts of one text are the same. -/
theorem eq_of_text_eq {first second : Layout} (hfirst : first.IsProper) (hsecond : second.IsProper)
    (htext : first.text = second.text) : first = second := by
  have hbehind := behind_eq_nil_or_beginsForm hfirst
  have hbehind' := behind_eq_nil_or_beginsForm hsecond
  induction first generalizing second with
  | last literal =>
      cases second with
      | last literal' => exact congrArg last htext
      | part literal' source name rest =>
          obtain ⟨hliteral, hplaceholder, -⟩ := hsecond
          have heq : literal ++ [] = literal' ++ (source ++ rest.text) := by
            rw [List.append_nil, ← List.append_assoc]
            exact htext
          obtain rfl := literal_unique hfirst hliteral hbehind hbehind' heq
          have hnil := List.append_cancel_left heq
          exact absurd (List.append_eq_nil_iff.mp hnil.symm).1 (source_ne_nil hplaceholder.form)
  | part literal source name rest ih =>
      obtain ⟨hliteral, hplaceholder, hrest⟩ := hfirst
      cases second with
      | last literal' =>
          have heq : literal' ++ [] = literal ++ (source ++ rest.text) := by
            rw [List.append_nil, ← List.append_assoc]
            exact htext.symm
          obtain rfl := literal_unique hsecond hliteral hbehind' hbehind heq
          have hnil := List.append_cancel_left heq
          exact absurd (List.append_eq_nil_iff.mp hnil.symm).1 (source_ne_nil hplaceholder.form)
      | part literal' source' name' rest' =>
          obtain ⟨hliteral', hplaceholder', hrest'⟩ := hsecond
          have heq : literal ++ (source ++ rest.text) = literal' ++ (source' ++ rest'.text) := by
            rw [← List.append_assoc, ← List.append_assoc]
            exact htext
          obtain rfl := literal_unique hliteral hliteral' hbehind hbehind' heq
          obtain ⟨rfl, rfl, hrests⟩ :=
            hplaceholder.unique hplaceholder' (List.append_cancel_left heq)
          rw [ih hrest hrest' hrests (behind_eq_nil_or_beginsForm hrest)
            (behind_eq_nil_or_beginsForm hrest')]

/-! ## Resolution by layout -/

theorem namesOf_text {layout : Layout} (h : layout.IsProper) :
    namesOf layout.text = layout.names := by
  unfold namesOf
  induction layout with
  | last literal =>
      have hpieces := pieces_literal_append h
      rw [List.append_nil, pieces_nil, List.append_nil] at hpieces
      rw [text, hpieces]
      exact filterMap_name?_map_char literal
  | part literal source name rest ih =>
      obtain ⟨hliteral, hplaceholder, hrest⟩ := h
      rw [text, List.append_assoc, pieces_literal_append hliteral,
        pieces_of_placeholder? (placeholder?_of_isPlaceholder hplaceholder), List.filterMap_append,
        filterMap_name?_map_char, List.nil_append, List.filterMap_cons_some
          (rfl : Piece.name? (.placeholder name) = some _), ih hrest]
      rfl

theorem fill_literal_append {literal rest : List Char} (h : IsLiteral literal rest) :
    Template.fill parameters (literal ++ rest) = literal ++ Template.fill parameters rest := by
  unfold Template.fill
  rw [pieces_literal_append h, List.flatMap_append, List.flatMap_map]
  simp [Piece.fill]

/-- The layout can be filled in if all names are bound, and so the text is. -/
theorem fill?_eq_some_iff {layout : Layout} (h : layout.IsProper) {filled : List Char} :
    layout.fill? parameters = some filled ↔
      (∀ name ∈ layout.names, IsBound parameters name) ∧
        filled = Template.fill parameters layout.text := by
  induction layout generalizing filled with
  | last literal =>
      have hfill : Template.fill parameters (literal ++ []) =
          literal ++ Template.fill parameters [] := fill_literal_append h
      rw [List.append_nil, fill_nil, List.append_nil] at hfill
      rw [text, hfill]
      simp [fill?, names, eq_comm]
  | part literal source name rest ih =>
      obtain ⟨hliteral, hplaceholder, hrest⟩ := h
      have hfill : Template.fill parameters (literal ++ source ++ rest.text) =
          literal ++ (((parameters.lookup (String.ofList name)).getD "").toList ++
            Template.fill parameters rest.text) := by
        rw [List.append_assoc, fill_literal_append hliteral]
        unfold Template.fill
        rw [pieces_of_placeholder? (placeholder?_of_isPlaceholder hplaceholder), List.flatMap_cons]
        rfl
      rw [text, hfill, fill?, names, List.forall_mem_cons, IsBound]
      cases hlookup : parameters.lookup (String.ofList name) with
      | none => simp
      | some value =>
          rw [Option.bind_some, Option.map_eq_some_iff]
          simp only [ih hrest, Option.isSome_some, true_and, Option.getD_some]
          constructor
          · rintro ⟨filled', ⟨hbound, rfl⟩, rfl⟩
            exact ⟨hbound, List.append_assoc _ _ _⟩
          · rintro ⟨hbound, rfl⟩
            exact ⟨_, ⟨hbound, rfl⟩, List.append_assoc _ _ _⟩

theorem placeholderNames_eq_names {template : String} {layout : Layout} (h : layout.IsProper)
    (htext : layout.text = template.toList) : placeholderNames template = layout.names := by
  rw [← namesOf_text h, htext]
  rfl

/-- A template resolves to its layout with the values filled in. -/
theorem resolve_eq_ok_iff_fill? {template resolved : String} {layout : Layout} (h : layout.IsProper)
    (htext : layout.text = template.toList) :
    resolve template parameters = .ok resolved ↔
      layout.fill? parameters = some resolved.toList := by
  rw [resolve_eq_ok_iff, fill?_eq_some_iff h, placeholderNames_eq_names h htext, htext, filled,
    String.ext_iff, String.toList_ofList]

end Layout

/-- Every template has exactly one proper layout.  Its names are those of the layout, and it
resolves, if all of them are bound, to the layout with the values filled in; otherwise it
fails with the first name that is not. -/
theorem resolve_follows_unique_layout (template : String) :
    ∃ layout : Layout,
      (layout.IsProper ∧ layout.text = template.toList) ∧
      (∀ other : Layout, other.IsProper → other.text = template.toList → other = layout) ∧
      placeholderNames template = layout.names ∧
      ∀ parameters,
        ((∃ resolved, resolve template parameters = .ok resolved) ↔
          ∀ name ∈ layout.names, IsBound parameters name) ∧
        (∀ resolved, resolve template parameters = .ok resolved ↔
          layout.fill? parameters = some resolved.toList) ∧
        ∀ failure, resolve template parameters = .error failure ↔
          ∃ before later, layout.names = before ++ failure.name :: later ∧
            (∀ earlier ∈ before, IsBound parameters earlier) ∧
            ¬ IsBound parameters failure.name := by
  obtain ⟨layout, hlayout, htext⟩ := Layout.exists_isProper template.toList
  have hnames := Layout.placeholderNames_eq_names hlayout htext
  refine ⟨layout, ⟨hlayout, htext⟩, fun other hother htext' => ?_, hnames, fun parameters => ?_⟩
  · exact Layout.eq_of_text_eq hother hlayout (htext'.trans htext.symm)
  · refine ⟨?_, fun resolved => Layout.resolve_eq_ok_iff_fill? hlayout htext, fun failure => ?_⟩
    · rw [← hnames]
      constructor
      · rintro ⟨resolved, h⟩
        exact (resolve_eq_ok_iff.mp h).1
      · intro h
        exact ⟨_, resolve_of_bound h⟩
    · rw [← hnames]
      exact resolve_eq_error_iff

end QueryBridge.Template
