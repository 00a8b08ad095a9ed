import QueryBridge.Log.Record
import QueryBridge.Proofs.Json.Parts
import QueryBridge.Proofs.Text.CodeString

/-!
# What redaction leaves

A text in which no secret occurs is left as it is.  A redactor only gains secrets.
-/

namespace QueryBridge.Log

/-! ## Texts without secrets -/

theorem maskFrom_of_not_infix {secret text : List Nat} (h : ¬ secret <:+: text) :
    maskFrom secret 0 text = text := by
  induction text with
  | nil => rfl
  | cons c text ih =>
      have hhere : secret.isPrefixOf (c :: text) = false := by
        rw [← Bool.not_eq_true, List.isPrefixOf_iff_prefix]
        exact fun hbegins => h hbegins.isInfix
      have hlater : ¬ secret <:+: text := fun hinfix => h (List.infix_cons hinfix)
      rw [maskFrom, hhere, if_neg Bool.false_ne_true, ih hlater]

theorem maskSecret_of_not_infix {secret text : List Nat} (h : ¬ secret <:+: text) :
    maskSecret secret text = text := by
  -- the empty text occurs everywhere, so it is no such secret
  have hnonempty : secret ≠ [] := by
    rintro rfl
    exact h List.nil_infix
  unfold maskSecret
  rw [if_neg (by simpa using hnonempty)]
  exact maskFrom_of_not_infix h

theorem foldl_maskSecret {secrets : List CodeString} {text : List Nat}
    (h : ∀ secret ∈ secrets, ¬ secret.codes <:+: text) :
    secrets.foldl (fun text secret => maskSecret secret.codes text) text = text := by
  induction secrets with
  | nil => rfl
  | cons secret secrets ih =>
      rw [List.foldl_cons, maskSecret_of_not_infix (h secret List.mem_cons_self)]
      exact ih fun other hother => h other (List.mem_cons_of_mem _ hother)

/-- A text in which no secret occurs is left as it is. -/
theorem redact_of_not_infix {text : CodeString} {secrets : List CodeString}
    (h : ∀ secret ∈ secrets, ¬ secret.codes <:+: text.codes) : redact text secrets = text := by
  unfold redact redactCodes
  rw [foldl_maskSecret, CodeString.ofCodes_codes]
  intro secret hsecret
  exact h secret (List.mem_mergeSort.mp hsecret)

/-! ## A secret at the end of a text -/

theorem maskFrom_length (secret text : List Nat) : maskFrom secret text.length text = [] := by
  induction text with
  | nil => rfl
  | cons c text ih => exact ih

theorem maskFrom_self {secret : List Nat} (hne : secret ≠ []) :
    maskFrom secret 0 secret = mask := by
  cases secret with
  | nil => exact absurd rfl hne
  | cons c secret =>
      have hbegins : (c :: secret).isPrefixOf (c :: secret) = true :=
        List.isPrefixOf_iff_prefix.mpr (List.prefix_refl _)
      rw [maskFrom, if_pos hbegins, List.length_cons, Nat.add_sub_cancel, maskFrom_length,
        List.append_nil]

/-- A secret that occurs at the end of a text only is all that is replaced. -/
theorem maskFrom_append_self {secret front : List Nat} (hne : secret ≠ [])
    (h : ∀ k < front.length, ¬ secret <+: front.drop k ++ secret) :
    maskFrom secret 0 (front ++ secret) = front ++ mask := by
  induction front with
  | nil => exact maskFrom_self hne
  | cons c front ih =>
      have hhere : ¬ secret.isPrefixOf (c :: (front ++ secret)) = true := by
        rw [List.isPrefixOf_iff_prefix]
        exact h 0 (Nat.zero_lt_succ _)
      have hlater : maskFrom secret 0 (front ++ secret) = front ++ mask :=
        ih fun k hk => h (k + 1) (Nat.succ_lt_succ hk)
      rw [List.cons_append, maskFrom, if_neg hhere, hlater, List.cons_append]

namespace Redactor

theorem redact_of_not_infix {redactor : Redactor} {text : CodeString}
    (h : ∀ secret ∈ redactor.secrets, ¬ secret.codes <:+: text.codes) :
    redactor.redact text = text :=
  Log.redact_of_not_infix h

/-! ## The secrets of a redactor -/

theorem mem_secrets_insert {redactor : Redactor} {secret other : CodeString} :
    other ∈ (redactor.insert secret).secrets ↔
      other ∈ redactor.secrets ∨ other = secret ∧ minLength ≤ secret.length := by
  unfold insert
  by_cases hshort : secret.length < minLength
  · have hnot : ¬ minLength ≤ secret.length := Nat.not_le_of_gt hshort
    simp [hshort, hnot]
  · have hlong : minLength ≤ secret.length := Nat.le_of_not_lt hshort
    by_cases hknown : secret ∈ redactor.secrets
    · have hsame : other = secret → other ∈ redactor.secrets := fun heq => heq ▸ hknown
      simpa [hknown, hlong] using hsame
    · simp [hshort, hknown, hlong]

/-- A redactor takes what is long enough. -/
theorem mem_secrets_add {redactor : Redactor} {secrets : List CodeString} {secret : CodeString} :
    secret ∈ (redactor.add secrets).secrets ↔
      secret ∈ redactor.secrets ∨ secret ∈ secrets ∧ minLength ≤ secret.length := by
  unfold add
  induction secrets generalizing redactor with
  | nil => simp
  | cons first secrets ih =>
      rw [List.foldl_cons, ih, mem_secrets_insert, List.mem_cons, or_assoc, or_and_right]
      have hfirst : secret = first ∧ minLength ≤ first.length ↔
          secret = first ∧ minLength ≤ secret.length :=
        and_congr_right fun heq => by rw [heq]
      rw [hfirst]

theorem subset_secrets_add (redactor : Redactor) (secrets : List CodeString) :
    redactor.secrets ⊆ (redactor.add secrets).secrets :=
  fun _ hsecret => mem_secrets_add.mpr (Or.inl hsecret)

end Redactor

/-! ## Records -/

namespace Record

/-- The message and the extras that are texts. -/
def texts (record : Record) : List CodeString :=
  record.message :: record.extras.filterMap fun extra => extra.2.string?

/-- A secret occurs in the message or in an extra that is a text. -/
def Mentions (record : Record) (secret : CodeString) : Prop :=
  ∃ text ∈ record.texts, secret.codes <:+: text.codes

instance (record : Record) (secret : CodeString) : Decidable (record.Mentions secret) :=
  inferInstanceAs (Decidable (∃ text ∈ record.texts, secret.codes <:+: text.codes))

/-- A record that mentions no secret is left as it is. -/
theorem redact_of_not_mentions {redactor : Redactor} {record : Record}
    (h : ∀ secret ∈ redactor.secrets, ¬ record.Mentions secret) :
    record.redact redactor = record := by
  have hmessage : redactor.redact record.message = record.message :=
    Redactor.redact_of_not_infix fun secret hsecret hinfix =>
      h secret hsecret ⟨record.message, List.mem_cons_self, hinfix⟩
  have hextras : (record.extras.map fun extra =>
      if isReserved extra.1 then extra else (extra.1, redactValue redactor extra.2)) =
        record.extras := by
    refine List.map_congr_left (fun extra hextra => ?_) |>.trans (List.map_id _)
    obtain ⟨name, value⟩ := extra
    -- reserved extras and those that are no texts are never masked
    dsimp only [id]
    split
    · rfl
    · unfold redactValue
      split
      · next text hvalue =>
          have htext : text ∈ record.texts :=
            List.mem_cons_of_mem _ (List.mem_filterMap.mpr ⟨_, hextra, hvalue⟩)
          rw [Redactor.redact_of_not_infix fun secret hsecret hinfix =>
            h secret hsecret ⟨text, htext, hinfix⟩, Json.Value.ofString_of_string? hvalue]
      · rfl
  unfold redact
  rw [hmessage, hextras]

theorem redact_empty (record : Record) : record.redact .empty = record :=
  redact_of_not_mentions fun _ hsecret => absurd hsecret List.not_mem_nil

/-- A text under a name is found with its secrets masked, and another value as it is. -/
theorem get?_extras_redact {record : Record} {name : String} {value : Json.Value}
    (hname : isReserved name = false) (h : Fields.get? record.extras name = some value)
    (redactor : Redactor) :
    Fields.get? (record.redact redactor).extras name = some (redactValue redactor value) := by
  unfold redact
  dsimp only
  generalize record.extras = extras at h
  induction extras with
  | nil => cases h
  | cons extra extras ih =>
      obtain ⟨other, old⟩ := extra
      unfold Fields.get? at h ih ⊢
      rw [List.lookup_cons] at h
      by_cases hother : name = other
      · subst hother
        rw [beq_self_eq_true] at h
        obtain rfl : old = value := Option.some.inj h
        simp [hname]
      · have hskip : (name == other) = false := beq_false_of_ne hother
        rw [hskip] at h
        rw [List.map_cons, List.lookup_cons]
        -- the name of an extra stays, reserved or not
        have hkept : (if isReserved other = true then (other, old)
            else (other, redactValue redactor old)).1 = other := by
          split <;> rfl
        rw [hkept, hskip]
        exact ih h

/-! ## Lines -/

/-- The value with another text, if it is one. -/
def mapText (f : CodeString → CodeString) (value : Json.Value) : Json.Value :=
  match value.string? with
  | some text => .ofString (f text)
  | none => value

/-- The record with its message and all extras that are texts replaced. -/
def mapTexts (f : CodeString → CodeString) (record : Record) : Record :=
  { record with
    message := f record.message
    extras := Fields.mapValues (mapText f) record.extras }

theorem isShown_ofString (name : String) (string : CodeString) :
    isShown (name, .ofString string) = (!isReserved name && !name.startsWith "_") := by
  cases string <;> exact Bool.and_true _

theorem isShown_mapText (f : CodeString → CodeString) (extra : String × Json.Value) :
    isShown (extra.1, mapText f extra.2) = isShown extra := by
  obtain ⟨name, value⟩ := extra
  unfold mapText
  dsimp only
  split
  · next text hvalue =>
      rw [← Json.Value.ofString_of_string? hvalue, isShown_ofString, isShown_ofString]
  · rfl

theorem filter_isShown_map {f : String × Json.Value → String × Json.Value}
    (h : ∀ extra, isShown (f extra) = isShown extra) (extras : Fields Json.Value) :
    (extras.map f).filter isShown = (extras.filter isShown).map f := by
  rw [List.filter_map]
  congr 1
  exact List.filter_congr fun extra _ => h extra

theorem shownExtras_congr {first second : Fields Json.Value}
    (h : first.filter isShown = second.filter isShown) :
    shownExtras first = shownExtras second := by
  unfold shownExtras
  rw [h]

theorem shownExtras_redact (redactor : Redactor) (record : Record) :
    shownExtras (record.redact redactor).extras =
      shownExtras (record.mapTexts redactor.redact).extras := by
  apply shownExtras_congr
  unfold redact mapTexts Fields.mapValues
  dsimp only
  rw [filter_isShown_map (isShown_mapText redactor.redact), filter_isShown_map]
  · refine List.map_congr_left fun extra hextra => ?_
    -- a reserved extra is not shown, so it does not matter that it is left as it is
    have hshown := (List.mem_filter.mp hextra).2
    simp only [isShown, Bool.and_eq_true, Bool.not_eq_true'] at hshown
    rw [hshown.1.1]
    rfl
  · intro extra
    split
    · rfl
    · exact isShown_mapText redactor.redact extra

/-- The line of a masked record is the line with its message and all texts masked. -/
theorem line_redact (redactor : Redactor) (record : Record) :
    (record.redact redactor).line = (record.mapTexts redactor.redact).line := by
  unfold line
  rw [shownExtras_redact]
  rfl

end Record

end QueryBridge.Log
