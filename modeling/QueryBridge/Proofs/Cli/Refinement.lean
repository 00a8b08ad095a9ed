import QueryBridge.Cli.Session
import QueryBridge.Proofs.Bridge.Document
import QueryBridge.Proofs.Cli.Parameters
import QueryBridge.Runtime.Standard

/-!
# Runs of operations

A run of the command line does what a host would do with a fresh adapter: it connects, and if this
succeeds it runs the operation on the replies that are left.  It shows what the host gets.
-/

namespace QueryBridge.Cli

open QueryBridge.Bridge (Adapter Failure Operation Returned)
open QueryBridge.Service (Call)

/-! ## What a run starts from -/

/-- The name of an operation's command. -/
def commandName : Operation → CommandName
  | .count => .count
  | .retrieve => .retrieve
  | .search => .search

/-- The options of an operation's command, besides that for help. -/
def optionNames : Operation → List OptionName
  | .count => [OptionName.structureName, OptionName.query, OptionName.parameter]
  | .retrieve | .search =>
      [OptionName.structureName, OptionName.query, OptionName.parameter, OptionName.field]

/-- What the run of an operation has read when it starts. -/
structure Start where
  settings : Settings
  registry : Registry
  structureName : String
  given : Arguments

/-- The command line asks for the operation: its options can be parsed, and the settings and the
registry can be loaded. -/
def Starts [Runtime] (surroundings : Surroundings) (arguments : List String) (operation : Operation)
    (start : Start) : Prop :=
  ∃ invocation,
    Invocation.parse surroundings arguments = .ok invocation ∧
      invocation.command = commandName operation ∧
      loadSettings surroundings invocation = .ok start.settings ∧
      loadRegistry surroundings invocation start.settings = .ok start.registry ∧
      Arguments.ofCommand (optionNames operation) invocation.arguments = .ok start.given ∧
      start.given.value? .structureName = some start.structureName

namespace Start

/-- The request that the options describe. -/
structure IsRequest (start : Start) (request : Bridge.Request) : Prop where
  structureName_eq : request.structureName = start.structureName
  query_eq : request.query = (start.given.value? .query).getD ""
  parameters_iff : ∀ name value, request.parameters.lookup name = some value ↔
    IsLastEntry (start.given.values .parameter) name value
  fields_eq : request.fields = (start.given.values .field).map .text

section

variable [Runtime]

/-- A fresh adapter with the endpoint, the structures and the credentials. -/
def host (start : Start) : Adapter :=
  ((Adapter.make start.settings.endpoint start.registry 1 none).perform
    (.setProperties (start.settings.properties.map fun entry => (entry.1, some entry.2)))).1

/-- The connection of the host. -/
def connected (start : Start) (replies : List Http.Reply) : Adapter × Call Returned :=
  start.host.perform (.connect replies)

/-- The operation that the host runs after its connection. -/
def operated (start : Start) (operation : Operation) (request : Bridge.Request)
    (replies : List Http.Reply) : Call Returned :=
  ((start.connected replies).1.perform
    (.operate operation request (start.connected replies).2.rest)).2

end

/-- What the run reads of its command's options. -/
def inquiry (start : Start) : Inquiry :=
  ⟨start.structureName, (start.given.value? .query).getD "", start.given.values .parameter,
    start.given.values .field⟩

end Start

def commandOf : Operation → Inquiry → Command
  | .count, inquiry => .count inquiry
  | .retrieve, inquiry => .retrieve inquiry
  | .search, inquiry => .search inquiry

/-! ## The command -/

variable {surroundings : Surroundings} {arguments : List String} {operation : Operation}
  {start : Start}

theorem parse_command {given : List String}
    (hgiven : Arguments.ofCommand (optionNames operation) given = .ok start.given)
    (hname : start.given.value? .structureName = some start.structureName) :
    Command.parse (commandName operation) given = .ok (commandOf operation start.inquiry) := by
  have hinquiry : ∀ others, [OptionName.structureName, OptionName.query, OptionName.parameter] ++
      others = optionNames operation → Inquiry.parse others given = .ok start.inquiry := by
    intro others hothers
    simp only [Inquiry.parse, hothers, hgiven, hname, bind, Except.bind, pure, Except.pure]
    rfl
  cases operation with
  | count => rw [commandName, Command.parse, hinquiry [] rfl]; rfl
  | retrieve => rw [commandName, Command.parse, hinquiry [OptionName.field] rfl]; rfl
  | search => rw [commandName, Command.parse, hinquiry [OptionName.field] rfl]; rfl

/-- The run performs the command in the context that it has prepared. -/
theorem exists_run_eq_perform [Runtime] (h : Starts surroundings arguments operation start)
    (replies : List Http.Reply) :
    ∃ hub, run surroundings arguments replies =
      (Context.mk start.settings start.registry hub).perform (commandOf operation start.inquiry)
        replies := by
  obtain ⟨invocation, hparse, hcommand, hsettings, hregistry, hgiven, hname⟩ := h
  have hprepare : prepare surroundings invocation = .ok
      ⟨start.settings, start.registry, configureLogging surroundings invocation.logLevel⟩ := by
    simp only [prepare, hsettings, hregistry, Except.mapError, bind, Except.bind, pure, Except.pure]
  refine ⟨configureLogging surroundings invocation.logLevel, ?_⟩
  rw [run, hparse]
  dsimp only
  rw [hprepare]
  dsimp only
  rw [hcommand, parse_command hgiven hname]

/-! ## The report -/

/-- The run shows the error as its only message. -/
structure Session.Reports (session : Session) (error : Bridge.Error) : Prop where
  exitCode_eq : session.exitCode = 1
  output_eq : session.output = ""
  errors_eq : session.errors = [error.label ++ ": " ++ error.message]
  escape_eq : session.escape = none

namespace Context

variable {α β : Type} (context : Context)

/-- How a run shows what an operation returned. -/
def display (returned : Returned) : Session :=
  match returned.document? with
  | some value => document value
  | none => Session.silent 0

theorem report_andThen (call : Call α) (f : α → β) (view : β → Session) :
    context.report (call.andThen fun value => .ok (f value)) view =
      context.report call fun value => view (f value) := by
  obtain ⟨outcome, attempts, waits, records, rest⟩ := call
  cases outcome with
  | error failure => cases failure <;> rfl
  | ok value => rfl

theorem bind_andThen {γ : Type} (call : Call α) (next : α → List Http.Reply → Call β)
    (read : β → Except Failure γ) :
    (call.bind fun value rest => (next value rest).andThen read) =
      (call.bind next).andThen read := by
  obtain ⟨outcome, attempts, waits, records, rest⟩ := call
  cases outcome with
  | error failure => rfl
  | ok value => rfl

/-- What an operation returns may be wrapped before it is shown. -/
theorem report_operate_andThen (operation : Adapter → List Http.Reply → Call α) (f : α → β)
    (view : β → Session) (replies : List Http.Reply) :
    context.report (context.operate (fun adapter rest =>
        (operation adapter rest).andThen fun value => .ok (f value)) replies) view =
      context.report (context.operate operation replies) fun value => view (f value) := by
  unfold operate
  dsimp only
  rw [bind_andThen, report_andThen]

/-- The three commands are one, up to the operation. -/
theorem perform_commandOf [Runtime] (operation : Operation) {inquiry : Inquiry}
    {request : Bridge.Request}
    (h : inquiry.request = .ok request) (replies : List Http.Reply) :
    context.perform (commandOf operation inquiry) replies =
      context.report (context.operate (fun adapter rest => adapter.run operation request rest)
        replies) display := by
  cases operation with
  | count =>
      rw [commandOf, perform, inquire, h]
      exact (report_operate_andThen context (fun adapter rest => adapter.count request rest)
        Returned.count display replies).symm
  | retrieve =>
      rw [commandOf, perform, inquire, h]
      exact (report_operate_andThen context (fun adapter rest => adapter.retrieve request rest)
        Returned.record display replies).symm
  | search =>
      rw [commandOf, perform, inquire, h]
      exact (report_operate_andThen context (fun adapter rest => adapter.search request rest)
        Returned.page display replies).symm

variable {context} {call : Call α} {view : α → Session}

theorem report_of_ok {value : α} (h : call.outcome = .ok value) :
    (context.report call view).exitCode = (view value).exitCode ∧
      (context.report call view).output = (view value).output := by
  unfold report
  rw [h]
  exact ⟨rfl, rfl⟩

theorem reports_of_reported {error : Bridge.Error}
    (h : call.outcome = .error (.reported error)) :
    (context.report call view).Reports error := by
  unfold report
  rw [h]
  exact ⟨rfl, rfl, rfl, rfl⟩

theorem exitCode_report_of_error {failure : Failure} (h : call.outcome = .error failure) :
    (context.report call view).exitCode = 1 := by
  unfold report
  rw [h]
  cases failure <;> rfl

/-- The output is written unless the document cannot be encoded. -/
theorem document_cases (value : Json.Value) :
    (value.isWellFormed = true ∧ document value =
        Session.printed 0 (value.render .indented ++ "\n")) ∨
      (value.isWellFormed = false ∧ document value = Session.escaped .encoding) := by
  unfold document
  cases value.isWellFormed with
  | true => exact Or.inl ⟨rfl, rfl⟩
  | false => exact Or.inr ⟨rfl, rfl⟩

/-- A result that is shown in a document succeeds exactly if the document can be encoded. -/
theorem exitCode_report_iff {call : Call Returned} {returned : Returned}
    (h : call.outcome = .ok returned) {value : Json.Value}
    (hvalue : returned.document? = some value) :
    (context.report call display).exitCode = 0 ↔ value.isWellFormed = true := by
  rw [(report_of_ok h).1, display, hvalue]
  rcases document_cases value with ⟨hwell, hdocument⟩ | ⟨hbroken, hdocument⟩
  · simp [hdocument, hwell, Session.printed, Session.silent]
  · simp [hdocument, hbroken, Session.escaped, Session.silent]

end Context

/-! ## The host -/

namespace Start

section

variable [Runtime] {replies : List Http.Reply}

/-- The call that the run reports. -/
def call (start : Start) (operation : Operation) (request : Bridge.Request)
    (replies : List Http.Reply) : Call Returned :=
  (start.host.connect replies).2.bind fun _ rest =>
    (start.host.connect replies).1.run operation request rest

theorem outcome_connected (start : Start) (replies : List Http.Reply) :
    (start.connected replies).2.outcome =
      (start.host.connect replies).2.outcome.bind fun _ => .ok .nothing := rfl

theorem call_of_error {failure : Failure}
    (h : (start.connected replies).2.outcome = .error failure) (operation : Operation)
    (request : Bridge.Request) :
    (start.call operation request replies).outcome = .error failure ∧
      (start.call operation request replies).requests = (start.connected replies).2.requests := by
  rw [outcome_connected] at h
  cases houtcome : (start.host.connect replies).2.outcome with
  | error other =>
      rw [houtcome] at h
      cases h
      exact Call.bind_of_error houtcome _
  | ok value =>
      rw [houtcome] at h
      cases h

theorem call_of_isOk (h : (start.connected replies).2.outcome.isOk = true)
    (operation : Operation) (request : Bridge.Request) :
    (start.call operation request replies).outcome =
        (start.operated operation request replies).outcome ∧
      (start.call operation request replies).requests =
        (start.connected replies).2.requests ++
          (start.operated operation request replies).requests := by
  rw [outcome_connected] at h
  cases houtcome : (start.host.connect replies).2.outcome with
  | error other =>
      rw [houtcome] at h
      cases h
  | ok value => exact Call.bind_of_ok houtcome _

/-- The operation is run only if the connection returned. -/
theorem requests_call (start : Start) (operation : Operation) (request : Bridge.Request)
    (replies : List Http.Reply) :
    (start.call operation request replies).requests =
      (start.connected replies).2.requests ++
        if (start.connected replies).2.outcome.isOk then
          (start.operated operation request replies).requests else [] := by
  cases houtcome : (start.connected replies).2.outcome with
  | error failure =>
      rw [(call_of_error houtcome operation request).2]
      exact (List.append_nil _).symm
  | ok made =>
      have hok : (start.connected replies).2.outcome.isOk = true := by rw [houtcome]; rfl
      rw [(call_of_isOk hok operation request).2]
      rfl

theorem outcome_call_of_reported {error : Bridge.Error} {request : Bridge.Request}
    (h : (start.connected replies).2.outcome = .error (.reported error) ∨
      (start.connected replies).2.outcome.isOk = true ∧
        (start.operated operation request replies).outcome = .error (.reported error)) :
    (start.call operation request replies).outcome = .error (.reported error) := by
  rcases h with herror | ⟨hok, herror⟩
  · exact (call_of_error herror operation request).1
  · exact (call_of_isOk hok operation request).1.trans herror

/-- The report of the call succeeds exactly if both parts return and the result can be encoded. -/
theorem exitCode_report_call_iff (start : Start) (context : Context) (operation : Operation)
    (request : Bridge.Request) (replies : List Http.Reply) :
    (context.report (start.call operation request replies) Context.display).exitCode = 0 ↔
      (start.connected replies).2.outcome.isOk = true ∧ ∃ returned document,
        (start.operated operation request replies).outcome = .ok returned ∧
          returned.document? = some document ∧ document.isWellFormed = true := by
  -- the run fails with the connection, with the operation, or with writing the result
  cases hconnected : (start.connected replies).2.outcome with
  | error failure =>
      rw [Context.exitCode_report_of_error (call_of_error hconnected operation request).1]
      exact ⟨nofun, fun hboth => absurd hboth.1 Bool.false_ne_true⟩
  | ok made =>
      have hok : (start.connected replies).2.outcome.isOk = true := by rw [hconnected]; rfl
      have hcall := (call_of_isOk hok operation request).1
      cases hoperated : (start.operated operation request replies).outcome with
      | error failure =>
          rw [Context.exitCode_report_of_error (hcall.trans hoperated)]
          exact ⟨nofun, fun ⟨_, _, _, hreturned, _⟩ => nomatch hreturned⟩
      | ok returned =>
          obtain ⟨value, hvalue, -⟩ := Adapter.exists_document_of_run hoperated
          rw [Context.exitCode_report_iff (hcall.trans hoperated) hvalue]
          constructor
          · exact fun hwell => ⟨rfl, returned, value, rfl, hvalue, hwell⟩
          · rintro ⟨-, other, document, hother, hdocument, hwell⟩
            cases hother
            cases hvalue.symm.trans hdocument
            exact hwell

end

/-- The options describe a request unless an entry for a parameter is unusable. -/
theorem exists_request (start : Start)
    (h : ∀ entry ∈ start.given.values .parameter, ¬ IsUnusable entry) :
    ∃ request, start.inquiry.request = .ok request ∧ start.IsRequest request := by
  obtain ⟨pairs, hpairs⟩ := Inquiry.exists_mapM_parameter_iff.mpr h
  refine ⟨⟨start.structureName, (start.given.value? .query).getD "", Fields.ofList pairs,
    (start.given.values .field).map .text⟩, ?_, rfl, rfl,
    fun name value => Inquiry.get?_ofList_iff hpairs, rfl⟩
  rw [Inquiry.request]
  simp only [inquiry, hpairs, bind, Except.bind, pure, Except.pure]

theorem IsRequest.parameters_eq_nil {request : Bridge.Request} (h : start.IsRequest request)
    (hnone : start.given.values .parameter = []) : request.parameters = [] := by
  cases hparameters : request.parameters with
  | nil => rfl
  | cons parameter parameters =>
      have hlast := (h.parameters_iff parameter.1 parameter.2).mp
        (by rw [hparameters, List.lookup_cons_self])
      obtain ⟨before, entry, after, heq, -⟩ := hlast
      rw [hnone] at heq
      exact absurd heq.symm (List.append_ne_nil_of_right_ne_nil _ (List.cons_ne_nil _ _))

theorem exists_usageError (start : Start)
    (h : ∃ entry ∈ start.given.values .parameter, IsUnusable entry) :
    ∃ error, start.inquiry.request = .error error := by
  cases hrequest : start.inquiry.parameters.mapM Inquiry.parameter with
  | ok pairs =>
      obtain ⟨entry, hentry, hunusable⟩ := h
      exact absurd hunusable (Inquiry.exists_mapM_parameter_iff.mp ⟨pairs, hrequest⟩ entry hentry)
  | error error =>
      refine ⟨error, ?_⟩
      rw [Inquiry.request, hrequest]
      rfl

end Start

theorem perform_of_usageError [Runtime] (context : Context) {inquiry : Inquiry} {error : UsageError}
    (h : inquiry.request = .error error) (operation : Operation) (replies : List Http.Reply) :
    context.perform (commandOf operation inquiry) replies = Session.stopped (.usage error) := by
  cases operation with
  | count => rw [commandOf, Context.perform, Context.inquire, h]
  | retrieve => rw [commandOf, Context.perform, Context.inquire, h]
  | search => rw [commandOf, Context.perform, Context.inquire, h]

/-! ## Refinement -/

/-- A run with usable entries reports what its host does. -/
theorem exists_run_eq_report [Runtime] (h : Starts surroundings arguments operation start)
    {request : Bridge.Request} (hrequest : start.inquiry.request = .ok request)
    (replies : List Http.Reply) :
    ∃ context : Context, run surroundings arguments replies =
      context.report (start.call operation request replies) Context.display := by
  obtain ⟨hub, hrun⟩ := exists_run_eq_perform h replies
  exact ⟨_, hrun.trans (Context.perform_commandOf _ operation hrequest replies)⟩

/-- A run with an unusable entry is refused and sends nothing.  Any other run sends what the host
sends, and shows the reported error with which the connection or the operation ends.  It succeeds
exactly if both return something and the result can be encoded. -/
theorem run_refines_host [Runtime] (h : Starts surroundings arguments operation start)
    (replies : List Http.Reply) :
    let session := run surroundings arguments replies
    let connected := (start.connected replies).2
    ((∃ entry ∈ start.given.values .parameter, IsUnusable entry) →
        session.exitCode = 2 ∧ session.requests = []) ∧
      ((∀ entry ∈ start.given.values .parameter, ¬ IsUnusable entry) →
        ∃ request, start.IsRequest request ∧
          let operated := start.operated operation request replies
          session.requests = connected.requests ++
              (if connected.outcome.isOk then operated.requests else []) ∧
            (session.exitCode = 0 ↔ connected.outcome.isOk ∧ ∃ returned document,
              operated.outcome = .ok returned ∧ returned.document? = some document ∧
                document.isWellFormed) ∧
            ∀ error, connected.outcome = .error (.reported error) ∨
              connected.outcome.isOk ∧ operated.outcome = .error (.reported error) →
                session.Reports error) := by
  intro session connected
  constructor
  · intro hunusable
    obtain ⟨error, herror⟩ := start.exists_usageError hunusable
    obtain ⟨hub, hrun⟩ := exists_run_eq_perform h replies
    rw [perform_of_usageError _ herror] at hrun
    rw [show session = _ from hrun]
    exact ⟨rfl, rfl⟩
  · intro husable
    obtain ⟨request, hrequest, hdescribed⟩ := start.exists_request husable
    obtain ⟨context, hrun⟩ := exists_run_eq_report h hrequest replies
    refine ⟨request, hdescribed, ?_⟩
    intro operated
    rw [show session = _ from hrun]
    exact ⟨start.requests_call operation request replies,
      start.exitCode_report_call_iff context operation request replies,
      fun error herror => Context.reports_of_reported (Start.outcome_call_of_reported herror)⟩

/-! ## Fixed runs -/

/-- Surroundings without files that hold credentials. -/
def surroundingsWith (username password : String) : Surroundings :=
  ⟨[(Settings.usernameVariable, username), (Settings.passwordVariable, password)], ⟨[]⟩,
    Path.root, Path.root, []⟩

/-- What a run in such surroundings starts from if its options are for the operation alone. -/
def startWith (username password structureName : String) (given : List Given) : Start :=
  ⟨{ Settings.default with username := some username, password := some password },
    Registry.default, structureName, ⟨given, []⟩⟩

/-- The last value of a parameter counts, blanks around its name do not, and the value goes on
behind further equals signs. -/
theorem count_refines_host :
    let arguments := ["count", "-S", "FirstStructure", "-q", "a=<%=parameter[\"A\"]%>",
      "-p", "A=1", "--param= A =b=c"]
    let replies : List Http.Reply :=
      [.blank, .answer ⟨200, [], Text.Utf8.encode "\x7b\"count\":3\x7d".toList⟩]
    ∃ start request,
      Starts (surroundingsWith "alice" "s3cret") arguments .count start ∧
        start.IsRequest request ∧ request.parameters.lookup "A" = some "b=c" ∧
        (run (surroundingsWith "alice" "s3cret") arguments replies).requests =
          (start.connected replies).2.requests ++
            (start.operated .count request replies).requests ∧
        (run (surroundingsWith "alice" "s3cret") arguments replies).exitCode = 0 := by
  intro arguments replies
  have hstarts : Starts (surroundingsWith "alice" "s3cret") arguments .count
      (startWith "alice" "s3cret" "FirstStructure"
        [⟨.structureName, "FirstStructure"⟩, ⟨.query, "a=<%=parameter[\"A\"]%>"⟩,
          ⟨.parameter, "A=1"⟩, ⟨.parameter, " A =b=c"⟩]) := by
    refine ⟨⟨none, none, none, none, .count, arguments.tail⟩, ?_, rfl, ?_, rfl, ?_, rfl⟩
    · decide +kernel
    · decide +kernel
    · decide +kernel
  obtain ⟨request, hrequest, hrequests, -, -⟩ := (run_refines_host hstarts replies).2 (by
    intro entry hentry
    rcases List.mem_pair.mp hentry with rfl | rfl
    · exact Inquiry.exists_parameter_iff.mp ⟨("A", "1"), by decide +kernel⟩
    · exact Inquiry.exists_parameter_iff.mp ⟨("A", "b=c"), by decide +kernel⟩)
  refine ⟨_, request, hstarts, hrequest, ?_, ?_, by decide +kernel⟩
  · refine (hrequest.parameters_iff "A" "b=c").mpr ⟨["A=1"], " A =b=c", [], rfl, ?_, nofun⟩
    exact ⟨" A ".toList, by decide, by decide, by decide, by decide⟩
  · rw [hrequests, if_pos (by decide +kernel)]

/-- Both calls return, and yet the run fails, if a text in the record is half of a pair. -/
theorem returned_text_cannot_be_written :
    let arguments := ["retrieve", "-S", "FirstStructure", "-q", "id=1"]
    let replies : List Http.Reply :=
      [.blank, .answer ⟨200, [],
        Text.Utf8.encode "\x7b\"record\":\x7b\"name\":\"\\ud800\"\x7d\x7d".toList⟩]
    ∃ start request,
      Starts (surroundingsWith "alice" "s3cret") arguments .retrieve start ∧
        start.IsRequest request ∧
        (start.connected replies).2.outcome.isOk = true ∧
        (start.operated .retrieve request replies).outcome.isOk = true ∧
        (run (surroundingsWith "alice" "s3cret") arguments replies).exitCode = 1 := by
  refine ⟨startWith "alice" "s3cret" "FirstStructure"
      [⟨.structureName, "FirstStructure"⟩, ⟨.query, "id=1"⟩],
    ⟨"FirstStructure", "id=1", [], []⟩, ?_, ?_, ?_, ?_, ?_⟩
  · refine ⟨⟨none, none, none, none, .retrieve, ["-S", "FirstStructure", "-q", "id=1"]⟩,
      ?_, rfl, ?_, rfl, ?_, rfl⟩
    · decide +kernel
    · decide +kernel
    · decide +kernel
  · have hnone : ([] : List String).mapM Inquiry.parameter = .ok [] := rfl
    exact ⟨rfl, rfl, fun name value => Inquiry.get?_ofList_iff hnone, rfl⟩
  · decide +kernel
  · decide +kernel
  · decide +kernel

end QueryBridge.Cli
