import QueryBridge.Proofs.Http.Attempt
import QueryBridge.Proofs.Http.Headers
import QueryBridge.Proofs.Url.Origin

/-!
# Credentials along redirects

A redirect passes the authorization of a request on only within its origin, or to the secure
form of its host.  One step further the secure form admits nothing but itself, so "admits" is
transitive, and a whole row of redirects behaves like a single one: whoever has the authorization
has it from every request before, and is admitted by the origin of each of them.
-/

namespace QueryBridge

/-- Where credentials for an origin may go: to the origin itself, or from the usual port of the
web to that of its secure form on the same host. -/
def Url.Origin.Admits (origin other : Url.Origin) : Prop :=
  other = origin ∨ origin.scheme = "http".toList ∧ origin.port = some 80 ∧
    other = ⟨"https".toList, origin.host, some 443⟩

instance (origin other : Url.Origin) : Decidable (origin.Admits other) :=
  inferInstanceAs (Decidable (_ ∨ _))

theorem Url.Origin.Admits.trans {first second third : Url.Origin} (h : first.Admits second)
    (h' : second.Admits third) : first.Admits third := by
  rcases h with rfl | ⟨hscheme, hport, rfl⟩
  · exact h'
  · rcases h' with rfl | ⟨hsecure, -, -⟩
    · exact Or.inr ⟨hscheme, hport, rfl⟩
    · -- the secure form has no secure form of its own
      have hschemes : "https".toList = "http".toList := hsecure
      exact absurd hschemes (by decide)

namespace Http

/-! ## Origins of requests -/

theorem defaultPort_of_web {scheme : String} {port : Int}
    (h : [("http", (80 : Int)), ("https", 443)].lookup scheme = some port) :
    Url.defaultPort? scheme.toList = some port := by
  by_cases hhttp : scheme = "http"
  · subst hhttp
    exact h
  by_cases hhttps : scheme = "https"
  · subst hhttps
    exact h
  simp [List.lookup_cons, beq_eq_false_iff_ne.mpr hhttp, beq_eq_false_iff_ne.mpr hhttps] at h

/-- The port by which origins are compared is the one that is meant. -/
theorem meantPort_of_effectivePort {url : Url} {port : Int} (h : effectivePort? url = some port) :
    Url.meantPort? url.scheme url.port = some port := by
  unfold effectivePort? at h
  unfold Url.meantPort?
  cases hport : url.port with
  | some own =>
      rw [hport] at h
      exact h
  | none =>
      rw [hport] at h
      simpa using defaultPort_of_web h

theorem origin_eq_of_sameOrigin {first second : Url} (h : sameOrigin first second = true) :
    first.origin = second.origin := by
  simp only [sameOrigin, Bool.and_eq_true, beq_iff_eq] at h
  obtain ⟨⟨hscheme, hhost⟩, hport⟩ := h
  have hmeant : Url.meantPort? first.scheme first.port =
      Url.meantPort? second.scheme second.port := by
    cases heffective : effectivePort? second with
    | some port =>
        rw [meantPort_of_effectivePort heffective,
          meantPort_of_effectivePort (hport.trans heffective)]
    | none =>
        have hnone : ∀ {url : Url}, effectivePort? url = none → url.port = none := by
          intro url heffective
          unfold effectivePort? at heffective
          split at heffective
          · cases heffective
          · next hnone => exact hnone
        rw [hnone heffective, hnone (hport.trans heffective), hscheme]
  unfold Url.origin
  rw [hmeant, hscheme, hhost]

theorem admits_of_isSecureForm {source target : Url} (h : isSecureForm source target = true) :
    source.origin.Admits target.origin := by
  simp only [isSecureForm, Bool.and_eq_true, beq_iff_eq] at h
  obtain ⟨⟨⟨⟨hhost, hsource⟩, hsourcePort⟩, htarget⟩, htargetPort⟩ := h
  have hscheme : source.scheme = "http".toList := by
    rw [← hsource, String.toList_ofList]
  have hscheme' : target.scheme = "https".toList := by
    rw [← htarget, String.toList_ofList]
  refine Or.inr ⟨hscheme, meantPort_of_effectivePort hsourcePort, ?_⟩
  unfold Url.origin
  rw [meantPort_of_effectivePort htargetPort, hscheme', hhost]

/-! ## One redirect -/

/-- Whether a request has an authorization header. -/
def Request.HasCredentials (request : Request) : Prop :=
  Headers.values Authorization.headerName request.headers ≠ []

instance (request : Request) : Decidable request.HasCredentials :=
  inferInstanceAs (Decidable (_ ≠ _))

/-- The second request has credentials only if the first one has and its origin admits them. -/
def Request.PassesOn (first second : Request) : Prop :=
  second.HasCredentials → first.HasCredentials ∧ first.url.origin.Admits second.url.origin

theorem Request.PassesOn.trans {first second third : Request} (h : first.PassesOn second)
    (h' : second.PassesOn third) : first.PassesOn third := by
  intro hthird
  obtain ⟨hsecond, hadmits'⟩ := h' hthird
  obtain ⟨hfirst, hadmits⟩ := h hsecond
  exact ⟨hfirst, hadmits.trans hadmits'⟩

theorem Headers.values_erase_self (name : String) (headers : Headers) :
    values name (erase name headers) = [] := by
  simp [values, erase, List.filter_filter]

theorem Headers.values_erase_ne_nil {name other : String} {headers : Headers}
    (h : values name (erase other headers) ≠ []) : values name headers ≠ [] := by
  intro hnone
  apply h
  simp only [values, erase, List.map_eq_nil_iff, List.filter_eq_nil_iff, List.mem_filter] at hnone ⊢
  exact fun header hheader => hnone header hheader.1

/-- A redirect passes credentials on only where they are admitted. -/
theorem passesOn_of_redirect {request next : Request} {location : String}
    (h : request.redirect location = .ok next) : request.PassesOn next := by
  unfold Request.redirect at h
  split at h
  · cases h
  split at h
  · cases h
  next target _ =>
  cases h
  intro hcredentials
  -- a cookie is left out in any case, the authorization only beyond the origin
  have hkept := Headers.values_erase_ne_nil hcredentials
  by_cases hadmitted : (sameOrigin target request.url || isSecureForm request.url target) = true
  · rw [if_pos hadmitted] at hkept
    refine ⟨hkept, ?_⟩
    rcases Bool.or_eq_true_iff.mp hadmitted with hsame | hsecure
    · exact Or.inl (origin_eq_of_sameOrigin hsame)
    · exact admits_of_isSecureForm hsecure
  · rw [if_neg hadmitted] at hkept
    exact absurd (Headers.values_erase_self _ _) hkept

/-! ## Rows of redirects -/

theorem requests_follow_cases (budget : Nat) (request : Request) (replies : List Reply) :
    (follow (budget + 1) request replies).requests = [request] ∨
      ∃ location next, request.redirect location = .ok next ∧
        (follow (budget + 1) request replies).requests =
          request :: (follow budget next (replies.drop 1)).requests := by
  rw [follow]
  dsimp only
  split
  · exact Or.inl rfl
  split
  · exact Or.inl rfl
  split
  · exact Or.inl rfl
  split
  · exact Or.inl rfl
  · next location _ _ next hnext => exact Or.inr ⟨location, next, hnext, rfl⟩

theorem isChain_requests_follow (budget : Nat) (request : Request) (replies : List Reply) :
    (follow budget request replies).requests.IsChain Request.PassesOn := by
  induction budget generalizing request replies with
  | zero => exact List.isChain_nil
  | succ budget ih =>
      rcases requests_follow_cases budget request replies with
        hlast | ⟨location, next, hnext, hmore⟩
      · rw [hlast]
        exact List.isChain_singleton request
      · rw [hmore, List.isChain_cons]
        refine ⟨fun second hsecond => ?_, ih next _⟩
        cases budget with
        | zero => cases hsecond
        | succ budget =>
            rw [head?_requests_follow] at hsecond
            cases hsecond
            exact passesOn_of_redirect hnext

/-- Within an attempt, credentials come from every request before. -/
theorem pairwise_requests_send (request : Request) (replies : List Reply) :
    (send request replies).requests.Pairwise Request.PassesOn := by
  have htrans : Trans Request.PassesOn Request.PassesOn Request.PassesOn :=
    ⟨fun h h' => h.trans h'⟩
  exact (isChain_requests_follow _ request replies).pairwise

/-- Credentials go nowhere but where the origin of the first request admits them. -/
theorem admits_of_mem_requests_send {request sent : Request} {replies : List Reply}
    (hsent : sent ∈ (send request replies).requests) (hcredentials : sent.HasCredentials) :
    request.url.origin.Admits sent.url.origin := by
  have hpairwise := pairwise_requests_send request replies
  obtain ⟨later, hrequests⟩ := List.head?_eq_some_iff.mp (head?_requests_send request replies)
  rw [hrequests] at hsent hpairwise
  rcases List.mem_cons.mp hsent with rfl | hlater
  · exact Or.inl rfl
  · exact ((List.pairwise_cons.mp hpairwise).1 sent hlater hcredentials).2

/-- A request without credentials is followed by none with credentials. -/
theorem not_hasCredentials_of_later {request sent other : Request} {replies : List Reply}
    {before later : List Request}
    (hrequests : (send request replies).requests = before ++ sent :: later)
    (hsent : ¬ sent.HasCredentials) (hother : other ∈ later) : ¬ other.HasCredentials := by
  have hpairwise := pairwise_requests_send request replies
  rw [hrequests, List.pairwise_append] at hpairwise
  intro hcredentials
  exact hsent ((List.pairwise_cons.mp hpairwise.2.1).1 other hother hcredentials).1

end Http

end QueryBridge
