import TodoServer.Proofs.Api.Confinement
import TodoServer.Proofs.Auth.Token
import TodoServer.Proofs.Storage.Confinement
import TodoServer.Proofs.Text.Parts

/-!
# Access control

A request to an endpoint of the caller's own is refused in one of three ways that depend on its
token alone, or it is answered for the account that the token names and reaches nothing else.
Without a valid token nobody changes anything but by registering.
-/

namespace TodoServer

namespace Text

/-- A text without blanks stays as it is. -/
theorem trim_of_solid {s : String} (solid : ∀ c ∈ s.toList, isBlank c = false) : trim s = s := by
  have kept : ∀ cs : List Char, (∀ c ∈ cs, isBlank c = false) → cs.dropWhile isBlank = cs := by
    intro cs solid
    cases cs with
    | nil => rfl
    | cons c cs =>
      exact List.dropWhile_cons_of_neg
        (by rw [solid c List.mem_cons_self]; exact Bool.false_ne_true)
  have reversed : ∀ c ∈ s.toList.reverse, isBlank c = false :=
    fun c mem => solid c (List.mem_reverse.1 mem)
  rw [trim, trimStart, kept _ solid, trimEnd, kept _ reversed, List.reverse_reverse,
    String.ofList_toList]

end Text

/-! ## Paths -/

namespace Api

end Api

/-! ## Tokens -/

/-- A token is borne by a plain first authorization, behind the word for bearers. -/
def Http.Request.Bears (request : Request) (token : String) : Prop :=
  ∃ value rest, request.header? "authorization" = some value ∧ isPlain value = true ∧
    value.toList = "Bearer ".toList ++ rest ∧ token = Text.trim (String.ofList rest) ∧ token ≠ ""

/-- The endpoint that a request is for. -/
def Http.Request.endpoint? (request : Request) : Option Api.Endpoint :=
  (Api.Resource.ofPath? request.target.path).bind (·.endpoint? request.method)

namespace Api

theorem bearerToken?_eq_some_iff {request : Http.Request} {token : String} :
    bearerToken? request = some token ↔ request.Bears token := by
  constructor
  · intro found
    obtain ⟨value, given, found⟩ := Option.bind_eq_some_iff.1 found
    obtain ⟨header, plain⟩ := Option.filter_eq_some_iff.1 given
    simp only at found
    split at found
    · next marked =>
      obtain ⟨rest, cut⟩ := List.isPrefixOf_iff_prefix.1 marked
      rw [← cut, List.drop_left] at found
      split at found
      · cases found
      · next held =>
        cases found
        exact ⟨value, rest, header, plain, cut.symm, rfl, fun empty => held (by rw [empty]; rfl)⟩
    · cases found
  · rintro ⟨value, rest, header, plain, cut, rfl, held⟩
    have given : request.plainHeader? "authorization" = some value :=
      Option.filter_eq_some_iff.2 ⟨header, plain⟩
    have marked : bearer.isPrefixOf value.toList = true :=
      List.isPrefixOf_iff_prefix.2 ⟨rest, cut.symm⟩
    have dropped : value.toList.drop bearer.length = rest := by
      rw [cut]
      exact List.drop_left
    have present : ¬(Text.trim (String.ofList rest)).isEmpty = true :=
      fun empty => held (String.isEmpty_iff.1 empty)
    rw [bearerToken?, given, Option.bind_eq_bind, Option.bind_some]
    simp only [marked, dropped, if_true, if_neg present]

/-- A token of visible characters is borne by who sends it behind the word for bearers. -/
theorem bears_of_visible {request : Http.Request} {token : String}
    (visible : ∀ c ∈ token.toList, 0x20 < c.toNat ∧ c.toNat < 0x7f) (held : token ≠ "")
    (sent : request.header? "authorization" = some ("Bearer " ++ token)) : request.Bears token := by
  have plain : Http.isPlain ("Bearer " ++ token) = true := by
    rw [Http.isPlain, String.toList_append, List.all_append, Bool.and_eq_true]
    refine ⟨by decide, List.all_eq_true.2 fun c mem => ?_⟩
    have bounds := visible c mem
    rw [Bool.or_eq_true, Bool.and_eq_true, decide_eq_true_eq, decide_eq_true_eq]
    omega
  have solid : ∀ c ∈ token.toList, Text.isBlank c = false := by
    intro c mem
    have bounds := visible c mem
    simp only [Text.isBlank, Bool.or_eq_false_iff, Bool.and_eq_false_iff, decide_eq_false_iff_not,
      beq_eq_false_iff_ne]
    omega
  refine ⟨"Bearer " ++ token, token.toList, sent, plain, String.toList_append, ?_, held⟩
  rw [String.ofList_toList, Text.trim_of_solid solid]

namespace Resource

/-- The endpoint behind a method, which is never the one by which browsers ask beforehand. -/
theorem endpoint?_options (resource : Resource) : resource.endpoint? "OPTIONS" = none := by
  cases resource <;> rfl

end Resource

namespace Site

variable {σ : Type} (site : Site σ) (moment : Moment) (request : Http.Request)

/-- Whether the token of a request is valid for an account. -/
def Admits (now : Instant) (userId : Int) : Prop :=
  ∃ token claims, request.Bears token ∧ site.manager.validate now token = .ok claims ∧
    claims.userId? = some userId

/-- A response as it is sent: with the headers for pages of other origins, and without a body where
only the head was asked for. -/
def finished (r : Http.Response) : Http.Response :=
  if request.method = "HEAD" then (r.withHeaders (site.origins.headers request)).withoutBody
  else r.withHeaders (site.origins.headers request)

/-- The answer to a caller who is not let in, with the state that stays. -/
def unauthorized (code message : String) (state : σ) : Answer × σ :=
  (⟨site.finished request (ApiError.unauthorized code message).response, none⟩, state)

/-- The statements that are handed over for a request. -/
def issued (state : σ) : List Statement :=
  (answer { site with runner := Executor.noting site.runner } moment request (state, [])).2.2

/-- What becomes of a request to an endpoint of the caller's own. -/
structure Guards (endpoint : OwnEndpoint) : Prop where
  required : (∀ token, ¬request.Bears token) → ∀ state,
    site.answer moment request state =
      site.unauthorized request "AUTH_REQUIRED" "Authentication required" state
  expired : ∀ token, request.Bears token →
    site.manager.validate moment.now token = .error .expired → ∀ state,
    site.answer moment request state =
      site.unauthorized request "TOKEN_EXPIRED" "Access token has expired" state
  invalid : ∀ token, request.Bears token →
    (∃ e, site.manager.validate moment.now token = .error e ∧ e ≠ .expired) ∨
      (∃ claims, site.manager.validate moment.now token = .ok claims ∧ claims.userId? = none) →
    ∀ state, site.answer moment request state =
      site.unauthorized request "TOKEN_INVALID" "Invalid access token" state
  silent : (∀ userId, ¬site.Admits request moment.now userId) → ∀ state,
    site.issued moment request state = []
  admitted : ∀ userId, site.Admits request moment.now userId → ∀ state,
    site.answer moment request state =
      (⟨site.finished request
          (respond (site.answerOwn moment endpoint userId request state)).1, none⟩,
        (site.answerOwn moment endpoint userId request state).2)
  confined : ∀ userId, site.Admits request moment.now userId → ∀ state,
    ∀ s ∈ site.issued moment request state, s.command.ConfinedTo userId

variable {site moment request}

theorem caller_eq_ok_iff {now : Instant} {userId : Int} :
    caller site.manager now request = .ok userId ↔ site.Admits request now userId := by
  constructor
  · intro found
    rw [caller] at found
    split at found
    · cases found
    · next token borne =>
      split at found
      · cases found
      · next claims valid =>
        split at found <;> cases found
        exact ⟨token, claims, bearerToken?_eq_some_iff.1 borne, valid, ‹_›⟩
  · rintro ⟨token, claims, borne, valid, named⟩
    simp only [caller, bearerToken?_eq_some_iff.2 borne, valid, named]

theorem caller_of_required {now : Instant} (missing : ∀ token, ¬request.Bears token) :
    caller site.manager now request = .error .required := by
  have none : bearerToken? request = none := by
    rw [Option.eq_none_iff_forall_ne_some]
    exact fun token found => missing token (bearerToken?_eq_some_iff.1 found)
  rw [caller, none]

theorem state_respond (reply : Reply σ) : (respond reply).2 = reply.2 := by
  rw [respond]
  split <;> rfl

/-- What becomes of a request for a resource. -/
theorem answer_of_path {resource : Resource}
    (named : Resource.ofPath? request.target.path = some resource)
    (asked : request.method ≠ "OPTIONS") (state : σ) :
    site.answer moment request state =
      (⟨site.finished request (site.answerResource moment resource request state).1, none⟩,
        (site.answerResource moment resource request state).2) := by
  simp only [answer, named, if_neg asked]
  rfl

/-- A request that has an endpoint has a resource, and no browser asks with it beforehand. -/
theorem resource_of_endpoint? {endpoint : Endpoint} (routed : request.endpoint? = some endpoint) :
    ∃ resource, Resource.ofPath? request.target.path = some resource ∧
      resource.endpoint? request.method = some endpoint ∧ request.method ≠ "OPTIONS" := by
  obtain ⟨resource, named, found⟩ := Option.bind_eq_some_iff.1 routed
  refine ⟨resource, named, found, fun options => ?_⟩
  rw [options, resource.endpoint?_options] at found
  cases found

/-- The answer to a request for an endpoint for everybody. -/
theorem answer_everybody {endpoint : OpenEndpoint}
    (routed : request.endpoint? = some (.everybody endpoint)) (state : σ) :
    site.answer moment request state =
      (⟨site.finished request (respond (site.answerOpen moment endpoint request state)).1, none⟩,
        (site.answerOpen moment endpoint request state).2) := by
  obtain ⟨resource, named, found, asked⟩ := resource_of_endpoint? routed
  rw [answer_of_path named asked, answerResource, found]
  simp only [state_respond]

/-- The answer to a request for an endpoint of the caller's own. -/
theorem answer_owner {endpoint : OwnEndpoint}
    (routed : request.endpoint? = some (.owner endpoint)) (state : σ) :
    site.answer moment request state =
      match caller site.manager moment.now request with
      | .error failure => (⟨site.finished request failure.toApiError.response, none⟩, state)
      | .ok userId => (⟨site.finished request
          (respond (site.answerOwn moment endpoint userId request state)).1, none⟩,
          (site.answerOwn moment endpoint userId request state).2) := by
  obtain ⟨resource, named, found, asked⟩ := resource_of_endpoint? routed
  rw [answer_of_path named asked, answerResource, found]
  cases caller site.manager moment.now request with
  | error failure => rfl
  | ok userId => simp only [state_respond]

theorem status_finished (r : Http.Response) : (site.finished request r).status = r.status := by
  rw [finished]
  split <;> rfl

/-- A method that a resource does not allow. -/
theorem answerResource_of_none {resource : Resource}
    (unrouted : resource.endpoint? request.method = none) :
    ∃ response : Http.Response, response.status ∈ [401, 405] ∧
      ∀ state, site.answerResource moment resource request state = (response, state) := by
  by_cases own : resource.isOwn = true
  · cases called : caller site.manager moment.now request with
    | error failure =>
      refine ⟨failure.toApiError.response.withHeaders [⟨"allow", resource.allowed⟩], ?_, ?_⟩
      · exact List.mem_cons_self
      · intro state
        simp only [answerResource, unrouted, if_pos own, called]
    | ok userId =>
      refine ⟨refusal resource, List.mem_cons_of_mem _ List.mem_cons_self, fun state => ?_⟩
      simp only [answerResource, unrouted, if_pos own, called]
  · refine ⟨refusal resource, List.mem_cons_of_mem _ List.mem_cons_self, fun state => ?_⟩
    simp only [answerResource, unrouted, if_neg own]

/-- A request without an endpoint is refused, unless a browser asks beforehand, and leaves any state
as it is. -/
theorem answer_unrouted (unrouted : request.endpoint? = none) :
    ∃ answer : Answer, (request.method ≠ "OPTIONS" → answer.response.status ∈ [401, 404, 405]) ∧
      ∀ state, site.answer moment request state = (answer, state) := by
  by_cases asked : request.method = "OPTIONS"
  · refine ⟨⟨site.permission request (Resource.ofPath? request.target.path), none⟩,
      fun other => absurd asked other, fun state => ?_⟩
    simp only [answer, if_pos asked]
  · cases named : Resource.ofPath? request.target.path with
    | none =>
      refine ⟨⟨site.finished request (.bare 404), some (missNote request)⟩, fun _ => ?_,
        fun state => ?_⟩
      · rw [status_finished]
        exact List.mem_cons_of_mem _ List.mem_cons_self
      · simp only [answer, named, if_neg asked]
        rfl
    | some resource =>
      rw [Http.Request.endpoint?, named, Option.bind_some] at unrouted
      obtain ⟨response, refused, same⟩ := @answerResource_of_none _ site moment _ _ unrouted
      refine ⟨⟨site.finished request response, none⟩, fun _ => ?_, fun state => ?_⟩
      · rw [status_finished]
        simp only [List.mem_cons] at refused ⊢
        tauto
      · rw [answer_of_path named asked, same]

/-- The statements of a caller who is let in are confined to the account of the token. -/
theorem confined_of_admits {endpoint : OwnEndpoint}
    (routed : request.endpoint? = some (.owner endpoint)) {userId : Int}
    (admits : site.Admits request moment.now userId) (state : σ) :
    ∀ s ∈ site.issued moment request state, s.command.ConfinedTo userId := by
  have caller' : caller site.manager moment.now request = .ok userId := caller_eq_ok_iff.2 admits
  have keeps := Executor.noting_keeps site.runner userId
  have nothing : ∀ s ∈ ([] : List Statement), s.command.ConfinedTo userId :=
    List.forall_mem_nil _
  rw [issued, answer_owner routed, caller']
  exact @answerOwn_keeps _ { site with runner := Executor.noting site.runner } userId _ keeps
    (state, []) nothing moment endpoint request

/-- A caller is let in, or refused for one of three reasons. -/
theorem guards {endpoint : OwnEndpoint} (routed : request.endpoint? = some (.owner endpoint)) :
    site.Guards moment request endpoint := by
  have refused {failure : AuthFailure} (failed : caller site.manager moment.now request =
      .error failure) (state : σ) : site.answer moment request state =
        site.unauthorized request failure.code failure.message state := by
    rw [answer_owner routed, failed]
    rfl
  constructor
  case required => exact fun missing => refused (caller_of_required missing)
  case expired =>
    intro token borne old
    refine @refused .expired ?_
    simp only [caller, bearerToken?_eq_some_iff.2 borne, old]
    rfl
  case invalid =>
    rintro token borne (⟨e, failed, other⟩ | ⟨claims, valid, unnamed⟩)
    · refine @refused .invalid ?_
      simp only [caller, bearerToken?_eq_some_iff.2 borne, failed]
      cases e <;> first | rfl | exact absurd rfl other
    · refine @refused .invalid ?_
      simp only [caller, bearerToken?_eq_some_iff.2 borne, valid, unnamed]
  case silent =>
    intro none state
    rw [issued, answer_owner routed]
    cases failed : caller site.manager moment.now request with
    | error failure => rfl
    | ok userId => exact absurd (caller_eq_ok_iff.1 failed) (none userId)
  case admitted =>
    intro userId admits state
    rw [answer_owner routed, caller_eq_ok_iff.2 admits]
  case confined => exact fun userId admits => confined_of_admits routed admits

end Site

/-! ## The pool -/

open Storage

/-- A login leaves any pool as it is. -/
theorem Accounts.state_login (manager : Auth.Manager) (moment : Moment) (request : Http.Request)
    (p : Pool) : (Accounts.login Pool.runner manager moment request p).2 = p := by
  have kept (email password : String) :
      (Users.authenticate Pool.runner email password p).2 = p := by
    rw [Users.authenticate, Users.mailed_eq]
    exact Executor.state_fetch p _
  rw [Accounts.login]
  cases credentialsForm.ofRequest openLimit request with
  | error rejection => rfl
  | ok credentials =>
    have same := kept credentials.email credentials.password
    simp only [accepting, after]
    split
    · split <;> exact same
    · exact same

/-! ## Methods -/

/-- The method by which an endpoint is asked. -/
def Endpoint.method : Endpoint → String
  | .everybody .health | .everybody .description | .everybody .docs => "GET"
  | .everybody .login | .everybody .register => "POST"
  | .owner .profile | .owner .listTodos | .owner (.todo _) => "GET"
  | .owner .createTodo | .owner .createTodos => "POST"
  | .owner .changeProfile | .owner (.changeTodo _) | .owner (.completeTodo _) => "PUT"
  | .owner .removeAccount | .owner (.removeTodo _) => "DELETE"

namespace Resource

variable {resource : Resource} {endpoint : Endpoint}

theorem mem_of_endpoint? {method : String} (found : resource.endpoint? method = some endpoint) :
    (if method = "HEAD" then "GET" else method, endpoint) ∈ resource.endpoints := by
  obtain ⟨⟨name, endpoint'⟩, picked, same⟩ := Option.map_eq_some_iff.1 found
  cases same
  have wanted := List.find?_some picked
  rw [← eq_of_beq wanted]
  exact List.mem_of_find?_eq_some picked

theorem method_of_mem {name : String} (listed : (name, endpoint) ∈ resource.endpoints) :
    name = endpoint.method := by
  have all : ∀ x ∈ resource.endpoints, x.1 = x.2.method := by
    cases resource <;> simp [endpoints, Endpoint.method]
  exact all (name, endpoint) listed

end Resource

section

variable {request : Http.Request} {endpoint : Endpoint} (routed : request.endpoint? = some endpoint)

include routed

/-- A request for an endpoint has its method, or asks for the head alone. -/
theorem method_of_endpoint? :
    (if request.method = "HEAD" then "GET" else request.method) = endpoint.method := by
  obtain ⟨resource, -, found, -⟩ := Site.resource_of_endpoint? routed
  exact Resource.method_of_mem (Resource.mem_of_endpoint? found)

/-- The head alone is asked for where `GET` is allowed. -/
theorem method_ne_head (writes : endpoint.method ≠ "GET") : request.method ≠ "HEAD" := by
  intro head
  have asked := method_of_endpoint? routed
  rw [if_pos head] at asked
  exact writes asked.symm

end

/-! ## Sites on a pool -/

namespace Site

variable (manager : Auth.Manager) (origins : Http.Origins)

/-- A site on the pool. -/
def onPool : Site Pool := ⟨Pool.runner, manager, origins⟩

variable {manager : Auth.Manager} {origins : Http.Origins} {moment : Moment}
  {request : Http.Request}
  {p : Pool}

end Site

end Api

/-! ## Access control -/

open Api Storage

/-- A request for the todos of the caller. -/
def Http.Request.forTodos (headers : List Header) : Request :=
  ⟨"GET", ⟨"", "/api/v1/todos", none⟩, headers, []⟩

theorem Http.Request.endpoint?_forTodos (headers : List Header) :
    (forTodos headers).endpoint? = some (.owner .listTodos) := by
  have named : Resource.ofPath? "/api/v1/todos" = some .todos := by decide
  have found : Resource.todos.endpoint? "GET" = some (.owner .listTodos) := by decide
  rw [endpoint?, forTodos, named, Option.bind_some, found]

/-- A site on the pool whose tokens last for an hour. -/
def Site.sample : Site Pool :=
  .onPool ⟨[], 60⟩ ⟨[]⟩

/-- A token for the first user. -/
def Site.sampleToken : String :=
  (Site.sample.manager.issue ⟨0⟩ "" 1).token

theorem Site.admits_sampleToken {request : Http.Request}
    (sent : request.header? "authorization" = some ("Bearer " ++ sampleToken)) :
    sample.Admits request Moment.sample.now 1 := by
  have dated : (sample.manager.claims ⟨0⟩ "" 1).IsDated := by
    refine ⟨⟨?_, ?_⟩, ?_, ?_⟩ <;> decide
  have valid : sample.manager.validate ⟨0⟩ sampleToken = .ok (sample.manager.claims ⟨0⟩ "" 1) :=
    Auth.Manager.validate_issue dated (by decide)
  refine ⟨sampleToken, _, ?_, valid, by decide⟩
  exact bears_of_visible (Auth.Token.visible_of_mem_sign _ _) (Auth.Token.sign_ne_empty _ _) sent

end TodoServer
