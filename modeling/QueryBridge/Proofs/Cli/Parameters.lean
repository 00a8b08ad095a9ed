import QueryBridge.Cli.Command
import QueryBridge.Proofs.Fields
import QueryBridge.Proofs.Lists
import QueryBridge.Proofs.Text.Blank
import QueryBridge.Proofs.Text.Split

/-!
# Parameters on the command line

An entry gives a value to a name, or it is unusable.  If all entries are usable, the request has
for each name the value of the last entry that gives one.
-/

namespace QueryBridge.Cli

/-- The entry gives the value to the name: the value is all that follows the first equals sign. -/
def IsEntry (entry name value : String) : Prop :=
  ∃ key, '=' ∉ key ∧ entry.toList = key ++ '=' :: value.toList ∧
    Text.trimChars key = name.toList ∧ name ≠ ""

/-- The entry has no equals sign, or only blanks in front of it. -/
def IsUnusable (entry : String) : Prop :=
  '=' ∉ entry.toList ∨ ∃ key rest, Text.IsBlankRun key ∧ entry.toList = key ++ '=' :: rest

/-- The last of the entries for the name gives it the value. -/
def IsLastEntry (entries : List String) (name value : String) : Prop :=
  ∃ before entry after, entries = before ++ entry :: after ∧ IsEntry entry name value ∧
    ∀ later ∈ after, ∀ other, ¬ IsEntry later name other

namespace Inquiry

variable {entry name value : String}

/-! ## One entry -/

theorem not_mem_of_isBlankRun {key : List Char} (h : Text.IsBlankRun key) : '=' ∉ key := by
  intro hmem
  have hblank := h '=' hmem
  revert hblank
  decide

theorem parameter_of_cut {key rest : List Char} (hkey : '=' ∉ key)
    (heq : entry.toList = key ++ '=' :: rest) :
    parameter entry =
      if Text.trimChars key = [] then .error (.parameterName entry)
      else .ok (String.ofList (Text.trimChars key), String.ofList rest) := by
  have hcontains : entry.toList.contains '=' = true := by simp [heq]
  have hname : String.ofList (Text.trimChars key) = "" ↔ Text.trimChars key = [] := by
    rw [← String.toList_inj, String.toList_ofList]
    rfl
  unfold parameter
  rw [hcontains, heq, Text.cutAt_append_cons hkey]
  simp [hname]

theorem parameter_of_not_mem (h : '=' ∉ entry.toList) :
    parameter entry = .error (.parameterForm entry) := by
  unfold parameter
  simp [h]

theorem parameter_eq_ok_iff : parameter entry = .ok (name, value) ↔ IsEntry entry name value := by
  constructor
  · intro h
    by_cases hmem : '=' ∈ entry.toList
    · obtain ⟨key, rest, heq, hkey⟩ := List.eq_append_cons_of_mem hmem
      rw [parameter_of_cut hkey heq] at h
      split at h
      · cases h
      · next hname =>
          cases h
          refine ⟨key, hkey, ?_, String.toList_ofList.symm, ?_⟩
          · rw [heq, String.toList_ofList]
          · rw [ne_eq, ← String.toList_inj, String.toList_ofList]
            exact hname
    · rw [parameter_of_not_mem hmem] at h
      cases h
  · rintro ⟨key, hkey, heq, hname, hne⟩
    have hfilled : Text.trimChars key ≠ [] := by
      rw [hname]
      exact fun hnil => hne (String.toList_inj.mp hnil)
    rw [parameter_of_cut hkey heq, if_neg hfilled, hname, String.ofList_toList,
      String.ofList_toList]

/-- An entry is read exactly if it is usable. -/
theorem exists_parameter_iff : (∃ pair, parameter entry = .ok pair) ↔ ¬ IsUnusable entry := by
  by_cases hmem : '=' ∈ entry.toList
  · obtain ⟨key, rest, heq, hkey⟩ := List.eq_append_cons_of_mem hmem
    have hunusable : IsUnusable entry ↔ Text.trimChars key = [] := by
      rw [← Text.isBlankRun_iff_trimChars]
      constructor
      · rintro (hnone | ⟨blanks, other, hblanks, hother⟩)
        · exact absurd hmem hnone
        · have hcut := congrArg (Text.cutAt '=') (heq.symm.trans hother)
          rw [Text.cutAt_append_cons hkey,
            Text.cutAt_append_cons (not_mem_of_isBlankRun hblanks)] at hcut
          rw [(Prod.mk.inj hcut).1]
          exact hblanks
      · exact fun hblank => Or.inr ⟨key, rest, hblank, heq⟩
    rw [hunusable, parameter_of_cut hkey heq]
    by_cases hblank : Text.trimChars key = []
    · simp [hblank]
    · simp [hblank]
  · rw [parameter_of_not_mem hmem]
    exact ⟨nofun, fun h => absurd (Or.inl hmem) h⟩

/-! ## All entries -/

theorem exists_mapM_parameter_iff {entries : List String} :
    (∃ pairs, entries.mapM parameter = .ok pairs) ↔ ∀ entry ∈ entries, ¬ IsUnusable entry := by
  induction entries with
  | nil => exact ⟨fun _ => nofun, fun _ => ⟨[], rfl⟩⟩
  | cons entry entries ih =>
      rw [List.forall_mem_cons, ← ih, ← exists_parameter_iff, List.mapM_cons]
      cases parameter entry with
      | error error => exact ⟨nofun, nofun⟩
      | ok pair =>
          cases entries.mapM parameter with
          | error error => exact ⟨nofun, nofun⟩
          | ok pairs => exact ⟨fun _ => ⟨⟨pair, rfl⟩, pairs, rfl⟩, fun _ => ⟨pair :: pairs, rfl⟩⟩

theorem isLastEntry_concat_iff {entries : List String} :
    IsLastEntry (entries ++ [entry]) name value ↔
      IsEntry entry name value ∨
        IsLastEntry entries name value ∧ ∀ other, ¬ IsEntry entry name other := by
  unfold IsLastEntry
  rw [exists_split_concat_iff (P := fun _ entry after => IsEntry entry name value ∧
    ∀ later ∈ after, ∀ other, ¬ IsEntry later name other)]
  simp only [List.not_mem_nil, false_implies, implies_true, and_true, List.forall_mem_append,
    List.forall_mem_singleton]
  refine or_congr_right ⟨?_, ?_⟩
  · rintro ⟨before, item, after, heq, hitem, hafter, hentry⟩
    exact ⟨⟨before, item, after, heq, hitem, hafter⟩, hentry⟩
  · rintro ⟨⟨before, item, after, heq, hitem, hafter⟩, hentry⟩
    exact ⟨before, item, after, heq, hitem, hafter, hentry⟩

/-- The last entry for a name counts. -/
theorem get?_ofList_iff {entries : List String} {pairs : List (String × String)}
    (h : entries.mapM parameter = .ok pairs) :
    Fields.get? (Fields.ofList pairs) name = some value ↔ IsLastEntry entries name value := by
  induction entries using List.reverseRecOn generalizing pairs with
  | nil =>
      cases h
      refine ⟨nofun, ?_⟩
      rintro ⟨before, entry, after, heq, -⟩
      simp at heq
  | append_singleton entries entry ih =>
      rw [List.mapM_append, List.mapM_cons, List.mapM_nil] at h
      cases hentries : entries.mapM parameter with
      | error error =>
          rw [hentries] at h
          cases h
      | ok earlier =>
          cases hentry : parameter entry with
          | error error =>
              rw [hentries, hentry] at h
              cases h
          | ok pair =>
              rw [hentries, hentry] at h
              cases h
              obtain ⟨given, last⟩ := pair
              have hlast : ∀ name value,
                  IsEntry entry name value ↔ given = name ∧ last = value := by
                intro name value
                rw [← parameter_eq_ok_iff, hentry, Except.ok.injEq, Prod.mk.injEq]
              rw [isLastEntry_concat_iff, hlast, ← ih hentries, Fields.ofList_concat]
              by_cases hname : given = name
              · subst hname
                simp [hlast]
              · rw [Fields.get?_insert_of_ne (Ne.symm hname)]
                simp [hlast, hname]

end Inquiry

end QueryBridge.Cli
