import QueryBridge.Proofs.Cli.Refinement
import QueryBridge.Proofs.Json.Writing

/-!
# The output of operations

The output of a run that succeeds is the document of the result, and reading it gives the result
back: every text and every integer as it was, and the names in their order.
-/

namespace QueryBridge.Cli

open QueryBridge.Bridge (Adapter Operation Returned)

variable {surroundings : Surroundings} {arguments : List String} {operation : Operation}
  {start : Start}

/-! ## Values without floats -/

def isFloat : Json.Value → Bool
  | .float _ => true
  | _ => false

/-- No float is in the value. -/
def IsWithoutFloats (value : Json.Value) : Prop :=
  value.Everywhere fun part => isFloat part = false

instance (value : Json.Value) : Decidable (IsWithoutFloats value) :=
  inferInstanceAs (Decidable (∀ part ∈ value.parts, isFloat part = false))

theorem ne_float_of_isFloat {value : Json.Value} (h : isFloat value = false)
    (number : Decimal.Binary64) : value ≠ .float number := by
  rintro rfl
  cases h

theorem everywhere_isLegible {value : Json.Value} (h : value.Everywhere Json.Value.IsAdmitted)
    (hfloats : IsWithoutFloats value) : value.Everywhere Json.Value.IsLegible := fun part hpart =>
  Json.Value.isLegible_of_isAdmitted (h part hpart) (ne_float_of_isFloat (hfloats part hpart))

/-! ## Successful runs -/

/-- Only a run whose operation returns something succeeds, and it writes the document of that. -/
theorem exists_returned_of_success [Runtime] (h : Starts surroundings arguments operation start)
    (replies : List Http.Reply) (hexit : (run surroundings arguments replies).exitCode = 0) :
    ∃ request returned value, start.IsRequest request ∧
      (start.connected replies).2.outcome.isOk = true ∧
      (start.operated operation request replies).outcome = .ok returned ∧
      returned.document? = some value ∧ value.Everywhere Json.Value.IsAdmitted ∧
      value.isWellFormed = true ∧
      (run surroundings arguments replies).output = value.render .indented ++ "\n" := by
  by_cases husable : ∀ entry ∈ start.given.values .parameter, ¬ IsUnusable entry
  · obtain ⟨request, hrequest, hdescribed⟩ := start.exists_request husable
    obtain ⟨context, hrun⟩ := exists_run_eq_report h hrequest replies
    rw [hrun] at hexit ⊢
    obtain ⟨hok, returned, value, hoperated, hvalue, hwell⟩ :=
      (start.exitCode_report_call_iff context operation request replies).mp hexit
    obtain ⟨document, hdocument, hadmitted⟩ := Adapter.exists_document_of_run hoperated
    cases hvalue.symm.trans hdocument
    have hreturned := (Start.call_of_isOk hok operation request).1.trans hoperated
    refine ⟨request, returned, value, hdescribed, hok, hoperated, hvalue, hadmitted, hwell, ?_⟩
    rw [(Context.report_of_ok hreturned).2, Context.display, hvalue]
    simp only [Context.document, hwell, if_true]
    rfl
  · have hunusable : ∃ entry ∈ start.given.values .parameter, IsUnusable entry := by
      simpa using husable
    obtain ⟨error, herror⟩ := start.exists_usageError hunusable
    obtain ⟨hub, hrun⟩ := exists_run_eq_perform h replies
    rw [hrun, perform_of_usageError _ herror] at hexit
    cases hexit

/-- The output of a successful run is one document and a line break.  Unless a float is in the
result, reading the document gives what the operation returned. -/
theorem output_reads_as_result [Runtime] (h : Starts surroundings arguments operation start)
    (replies : List Http.Reply) (hexit : (run surroundings arguments replies).exitCode = 0) :
    ∃ request returned value text, start.IsRequest request ∧
      (start.connected replies).2.outcome.isOk = true ∧
      (start.operated operation request replies).outcome = .ok returned ∧
      returned.document? = some value ∧
      (run surroundings arguments replies).output = text ++ "\n" ∧
      (IsWithoutFloats value → Json.read? text = some value) := by
  obtain ⟨request, returned, value, hrequest, hconnected, hoperated, hvalue, hadmitted, hwell,
    houtput⟩ := exists_returned_of_success h replies hexit
  exact ⟨request, returned, value, value.render .indented, hrequest, hconnected, hoperated, hvalue,
    houtput, fun hfloats => Json.read?_render Json.Style.isProper_indented
      (everywhere_isLegible hadmitted hfloats) hwell⟩

/-- Quotes, backslashes, control characters and line separators are read back, in a name and in
a text, and so are integers beyond any machine word. -/
theorem retrieved_record_is_read_back :
    let arguments := ["retrieve", "-S", "FirstStructure", "-q", "id=1"]
    let record :=
      "\x7b\"a\\\"b\": \"\\u0001\\u2028\\\\\", \"n\": -123456789012345678901234567890, " ++
      "\"off\": null, \"on\": true, \"items\": [1, 2.5]\x7d"
    let replies : List Http.Reply :=
      [.blank, .answer ⟨200, [], Text.Utf8.encode ("\x7b\"record\": " ++ record ++ "\x7d").toList⟩]
    ∃ start request returned value text,
      Starts (surroundingsWith "alice" "s3cret") arguments .retrieve start ∧
        start.IsRequest request ∧
        (start.operated .retrieve request replies).outcome = .ok returned ∧
        returned.document? = some value ∧ IsWithoutFloats value ∧
        (run (surroundingsWith "alice" "s3cret") arguments replies).output = text ++ "\n" ∧
        Json.read? text = some value := by
  intro arguments record replies
  have hstarts : Starts (surroundingsWith "alice" "s3cret") arguments .retrieve
      (startWith "alice" "s3cret" "FirstStructure"
        [⟨.structureName, "FirstStructure"⟩, ⟨.query, "id=1"⟩]) := by
    refine ⟨⟨none, none, none, none, .retrieve, arguments.tail⟩, ?_, rfl, ?_, rfl, ?_, rfl⟩
    · decide +kernel
    · decide +kernel
    · decide +kernel
  obtain ⟨request, returned, value, text, hrequest, -, hoperated, hvalue, houtput, hread⟩ :=
    output_reads_as_result hstarts replies (by decide +kernel)
  have hdescribed : request = ⟨"FirstStructure", "id=1", [], []⟩ := by
    obtain ⟨structureName, query, parameters, fields⟩ := request
    obtain rfl : structureName = "FirstStructure" := hrequest.structureName_eq
    obtain rfl : query = "id=1" := hrequest.query_eq
    obtain rfl : parameters = [] := hrequest.parameters_eq_nil rfl
    obtain rfl : fields = [] := hrequest.fields_eq
    rfl
  subst hdescribed
  have hfloats : ∀ other ∈ ((startWith "alice" "s3cret" "FirstStructure"
      [⟨.structureName, "FirstStructure"⟩, ⟨.query, "id=1"⟩]).operated .retrieve
        ⟨"FirstStructure", "id=1", [], []⟩ replies).outcome.toOption.bind Returned.document?,
      IsWithoutFloats other := by
    decide +kernel
  have hvalueFloats : IsWithoutFloats value := hfloats value (by rw [hoperated]; exact hvalue)
  exact ⟨_, _, returned, value, text, hstarts, hrequest, hoperated, hvalue, hvalueFloats, houtput,
    hread hvalueFloats⟩

end QueryBridge.Cli
