import Mathlib
import QueryBridge.Log.Record
import QueryBridge.Proofs.Fields
import QueryBridge.Proofs.Text.CodeString

/-!
# The extras in a line

A line has its base, and behind it the extras that are to be shown: those with a name in the
focus order come first, in that order, and the others follow in the order of their names.  This
describes the row of extras completely, so that it does not depend on the order in which the
record got them.
-/

namespace QueryBridge.Log

/-! ## Listings -/

/-- The extra stands in the line: its name is not reserved and does not begin with an underscore,
and it has a value. -/
def IsListed (extra : String × Json.Value) : Prop :=
  isReserved extra.1 = false ∧ extra.1.toList.head? ≠ some '_' ∧ extra.2 ≠ .null

/-- The extras of a line in their order: those in the focus and the others. -/
structure IsListing (extras focus others : Fields Json.Value) : Prop where
  mem_iff : ∀ extra, extra ∈ focus ++ others ↔ extra ∈ extras ∧ IsListed extra
  names_nodup : (Fields.names (focus ++ others)).Nodup
  focus_sublist : (Fields.names focus).Sublist focusOrder
  others_not_mem : ∀ name ∈ Fields.names others, name ∉ focusOrder
  others_sorted : (Fields.names others).Pairwise (· < ·)

theorem isShown_iff {extra : String × Json.Value} : isShown extra = true ↔ IsListed extra := by
  obtain ⟨name, value⟩ := extra
  have hunderscore : name.startsWith "_" = true ↔ name.toList.head? = some '_' := by
    rw [String.startsWith_string_iff]
    cases name.toList <;> simp [eq_comm]
  unfold IsListed
  rw [ne_eq, ← hunderscore]
  cases value <;> simp [isShown]

/-! ## Sorting -/

variable {α : Type} {fields others : Fields α}

theorem perm_sortByName (fields : Fields α) : (sortByName fields).Perm fields :=
  List.mergeSort_perm _ _

theorem pairwise_le_sortByName (fields : Fields α) :
    (sortByName fields).Pairwise fun first second => first.1 ≤ second.1 := by
  have hsorted : (sortByName fields).Pairwise fun first second =>
      decide (first.1 ≤ second.1) = true := by
    refine List.pairwise_mergeSort (fun first second third h h' => ?_)
      (fun first second => ?_) fields
    · exact decide_eq_true (le_trans (of_decide_eq_true h) (of_decide_eq_true h'))
    · simpa using le_total first.1 second.1
  exact hsorted.imp of_decide_eq_true

theorem nodup_names_sortByName (h : (Fields.names fields).Nodup) :
    (Fields.names (sortByName fields)).Nodup :=
  ((perm_sortByName fields).map Prod.fst).nodup_iff.mpr h

theorem pairwise_names_sortByName (h : (Fields.names fields).Nodup) :
    (Fields.names (sortByName fields)).Pairwise (· < ·) := by
  have hle : (Fields.names (sortByName fields)).Pairwise (· ≤ ·) :=
    List.pairwise_map.mpr (pairwise_le_sortByName fields)
  exact (hle.and (nodup_names_sortByName h)).imp fun h => lt_of_le_of_ne h.1 h.2

/-- Sorting forgets the order in which fields with different names stood. -/
theorem sortByName_eq_of_perm (h : fields.Perm others) (hnames : (Fields.names fields).Nodup) :
    sortByName fields = sortByName others := by
  have hsame : (sortByName fields).Perm (sortByName others) :=
    (perm_sortByName fields).trans (h.trans (perm_sortByName others).symm)
  refine hsame.eq_of_pairwise ?_ (pairwise_le_sortByName fields) (pairwise_le_sortByName others)
  intro first second hfirst hsecond hle hge
  exact List.inj_on_of_nodup_map (nodup_names_sortByName hnames) hfirst
    (hsame.mem_iff.mpr hsecond) (le_antisymm hle hge)

/-! ## The extras that are shown -/

/-- The fields that have one of the names, in the order of the names. -/
def inOrder (order : List String) (fields : Fields α) : Fields α :=
  order.filterMap fun name => (Fields.get? fields name).map fun value => (name, value)

theorem mem_inOrder {order : List String} (hnames : (Fields.names fields).Nodup)
    {field : String × α} : field ∈ inOrder order fields ↔ field.1 ∈ order ∧ field ∈ fields := by
  obtain ⟨name, value⟩ := field
  simp [inOrder, Fields.get?_eq_some_iff hnames]

theorem names_inOrder (order : List String) (fields : Fields α) :
    Fields.names (inOrder order fields) =
      order.filter fun name => (Fields.get? fields name).isSome := by
  induction order with
  | nil => rfl
  | cons name order ih =>
      unfold Fields.names inOrder at ih ⊢
      cases hvalue : Fields.get? fields name with
      | none => simp [hvalue, ih]
      | some value => simp [hvalue, ih]

theorem shownExtras_eq (extras : Fields Json.Value) :
    shownExtras extras = inOrder focusOrder (extras.filter isShown) ++
      sortByName ((extras.filter isShown).filter fun extra => !focusOrder.contains extra.1) := rfl

theorem nodup_names_filter (p : String × α → Bool) (h : (Fields.names fields).Nodup) :
    (Fields.names (fields.filter p)).Nodup :=
  h.sublist (List.filter_sublist.map Prod.fst)

theorem mem_others {shown : Fields α} {field : String × α} :
    field ∈ sortByName (shown.filter fun field => !focusOrder.contains field.1) ↔
      field ∈ shown ∧ field.1 ∉ focusOrder := by
  rw [(perm_sortByName _).mem_iff, List.mem_filter]
  simp

/-- The extras that are shown are a listing. -/
theorem exists_isListing {extras : Fields Json.Value} (hnames : (Fields.names extras).Nodup) :
    ∃ focus others, shownExtras extras = focus ++ others ∧ IsListing extras focus others := by
  have hshown := nodup_names_filter isShown hnames
  have hothers := nodup_names_filter (fun extra => !focusOrder.contains extra.1) hshown
  have hfocus : (Fields.names (inOrder focusOrder (extras.filter isShown))).Sublist focusOrder := by
    rw [names_inOrder]
    exact List.filter_sublist
  have hnone : ∀ name ∈ Fields.names (sortByName ((extras.filter isShown).filter
      fun extra => !focusOrder.contains extra.1)), name ∉ focusOrder := by
    intro name hname
    obtain ⟨extra, hextra, rfl⟩ := List.mem_map.mp hname
    exact (mem_others.mp hextra).2
  refine ⟨_, _, shownExtras_eq extras, ?_, ?_, hfocus, hnone, pairwise_names_sortByName hothers⟩
  · intro extra
    rw [List.mem_append, mem_inOrder hshown, mem_others, List.mem_filter, isShown_iff]
    tauto
  · rw [Fields.names, List.map_append, List.nodup_append]
    refine ⟨List.Nodup.sublist hfocus (by decide), nodup_names_sortByName hothers, ?_⟩
    rintro first hfirst second hsecond rfl
    exact hnone first hsecond (hfocus.subset hfirst)

/-- The order in which a record got its extras does not show. -/
theorem shownExtras_eq_of_perm {first second : Fields Json.Value} (h : first.Perm second)
    (hnames : (Fields.names first).Nodup) : shownExtras first = shownExtras second := by
  have hshown := nodup_names_filter isShown hnames
  have hfound : Fields.get? (first.filter isShown) = Fields.get? (second.filter isShown) :=
    funext (Fields.get?_eq_of_perm (h.filter isShown) hshown)
  rw [shownExtras_eq, shownExtras_eq, inOrder, inOrder, hfound,
    sortByName_eq_of_perm ((h.filter isShown).filter _) (nodup_names_filter _ hshown)]

/-! ## Lines -/

namespace Record

/-- The line without extras. -/
def base (record : Record) : CodeString :=
  record.level.label ++ " | " ++ record.logger ++ " | " ++ record.message

theorem codes_showExtra_ne_nil (extra : String × Json.Value) : (showExtra extra).codes ≠ [] := by
  unfold showExtra
  rw [CodeString.codes_append, CodeString.codes_append]
  simp

theorem join_showExtra_eq_empty_iff {listed : Fields Json.Value} :
    CodeString.join " " (listed.map showExtra) = "" ↔ listed = [] := by
  rw [← CodeString.codes_eq_nil_iff, CodeString.codes_join]
  cases listed with
  | nil => simp
  | cons extra listed =>
      have hextra := codes_showExtra_ne_nil extra
      cases listed with
      | nil => simp [hextra]
      | cons next listed => simp [List.intercalate_cons_cons, hextra]

theorem line_eq (record : Record) :
    record.line = record.base ++
      (if shownExtras record.extras = [] then ""
      else " | " ++ CodeString.join " " ((shownExtras record.extras).map showExtra) :
        CodeString) := by
  unfold line
  dsimp only
  by_cases h : shownExtras record.extras = []
  · rw [if_pos (join_showExtra_eq_empty_iff.mpr h), if_pos h, CodeString.append_empty, base]
  · rw [if_neg (mt join_showExtra_eq_empty_iff.mp h), if_neg h, ← CodeString.append_assoc, base]

/-- A line lists the extras that are to be shown, each once: those in the focus first, then the
others by name, and nothing follows the base if there are none.  The order in which the record got
its extras does not show. -/
theorem lines_list_extras_in_order (record : Record)
    (hnames : (Fields.names record.extras).Nodup) :
    (∃ focus others, IsListing record.extras focus others ∧
      record.line = record.base ++
        (if focus ++ others = [] then ""
        else " | " ++ CodeString.join " "
          ((focus ++ others).map fun extra => extra.1 ++ "=" ++ showValue extra.2) :
          CodeString)) ∧
    ∀ other : Record, other.base = record.base → other.extras.Perm record.extras →
      other.line = record.line := by
  constructor
  · obtain ⟨focus, others, hshown, hlisting⟩ := exists_isListing hnames
    refine ⟨focus, others, hlisting, ?_⟩
    rw [line_eq, hshown]
    rfl
  · intro other hbase hextras
    rw [line_eq, line_eq, hbase, shownExtras_eq_of_perm hextras.symm hnames]

/-- In either order the method and the path come first and the other names are sorted; a null, a
reserved name and an underscore are left out. -/
theorem reversed_extras_give_same_line :
    let extras : Fields Json.Value := [("zeta", .int 1), ("module", .text "m"),
      ("operation", .null), ("_hidden", .bool true), ("Alpha", .bool true), ("url", .text "/u"),
      ("method", .text "GET")]
    (Fields.names extras).Nodup ∧
      (Record.mk Level.info "app" "done" extras).line =
        "INFO | app | done | method=GET url=/u Alpha=True zeta=1" ∧
      (Record.mk Level.info "app" "done" extras.reverse).line =
        "INFO | app | done | method=GET url=/u Alpha=True zeta=1" := by
  intro extras
  have hnames : (Fields.names extras).Nodup := by decide
  have hshown : shownExtras extras = [("method", .text "GET"), ("url", .text "/u"),
      ("Alpha", .bool true), ("zeta", .int 1)] := by
    simp [extras, shownExtras_eq, isShown, isReserved, attributeNames, inOrder, focusOrder,
      Fields.get?, sortByName, List.mergeSort, List.MergeSort.Internal.splitInTwo]
    rfl
  have hline : (Record.mk Level.info "app" "done" extras).line =
      "INFO | app | done | method=GET url=/u Alpha=True zeta=1" := by
    rw [line_eq, hshown]
    decide +kernel
  refine ⟨hnames, hline, ?_⟩
  rw [← hline]
  exact (lines_list_extras_in_order (.mk Level.info "app" "done" extras) hnames).2 _ rfl
    extras.reverse_perm

end Record

end QueryBridge.Log
