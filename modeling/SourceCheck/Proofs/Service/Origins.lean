import SourceCheck.Proofs.Language.Compile
import SourceCheck.Service.Handler

/-!
The policy on origins. A request is answered from its route and its body alone; who sends it, and
what the settings allow, decides one header and nothing else. The header names an origin only where
the list of the very route holds it, or `*`.
-/

namespace SourceCheck

namespace Service

def Served (name : String) : Prop := name = "/lex" ∨ name = "/validate"

instance (name : String) : Decidable (Served name) :=
  inferInstanceAs (Decidable (name = "/lex" ∨ name = "/validate"))

theorem route?_eq_none_iff {name : String} : route? name = none ↔ ¬ Served name := by
  unfold route? Served
  by_cases hlex : name = "/lex"
  · simp [hlex]
  · by_cases hvalidate : name = "/validate"
    · simp [hvalidate]
    · simp [hlex, hvalidate]

def Route.reply (route : Route) (v : Vocabulary) (body : Option String) : Response :=
  match Payload.ofBody body with
  | .ok payload => route.answer v payload
  | .error e => .failure 400 e.message

section Replies

variable (v : Vocabulary) (payload : Payload)

theorem lexAnswer_eq_ofBody : ∃ json, lexAnswer v payload = .ofBody 200 json := by
  unfold lexAnswer
  cases payload.mode with
  | resilient => exact ⟨_, rfl⟩
  | strict =>
    cases (requestSource payload).scanStrictly v with
    | ok buffer => exact ⟨_, rfl⟩
    | error e => exact ⟨_, rfl⟩

theorem validateAnswer_eq_ofBody : ∃ status json, validateAnswer v payload = .ofBody status json ∧
    (status = 200 ∨ status = 400) := by
  unfold validateAnswer
  cases (requestSource payload).scanStrictly v with
  | error e => exact ⟨400, _, rfl, .inr rfl⟩
  | ok buffer =>
    refine ⟨_, _, rfl, ?_⟩
    by_cases hok : (Balance.check v buffer.tokens).ok = true
    · exact .inl (if_pos hok)
    · exact .inr (if_neg hok)

/-- A served route adds no header of its own and never denies that there is such a route. -/
theorem reply_eq_ofBody (route : Route) (body : Option String) :
    ∃ status json, route.reply v body = .ofBody status json ∧ (status = 200 ∨ status = 400) := by
  unfold Route.reply
  cases Payload.ofBody body with
  | error e => exact ⟨400, _, rfl, .inr rfl⟩
  | ok payload =>
    cases route with
    | lex =>
      obtain ⟨json, hanswer⟩ := lexAnswer_eq_ofBody v payload
      exact ⟨200, json, hanswer, .inl rfl⟩
    | validate => exact validateAnswer_eq_ofBody v payload

end Replies

variable {service : Service} {request : Request} {route : Route} {value : String}

theorem handle_of_not_served (h : ¬ Served request.route) :
    service.handle request = .failure 404 "no such route" := by
  simp only [handle, route?_eq_none_iff.mpr h]

theorem handle_of_route (h : route? request.route = some route) :
    service.handle request =
      { route.reply service.vocabulary request.body with
        headers := originHeader
          (service.settings.allowedOrigin? request.route request.origin) } := by
  obtain ⟨status, json, hreply, -⟩ := reply_eq_ofBody service.vocabulary route request.body
  have hhandle : service.handle request =
      { route.reply service.vocabulary request.body with
        headers := (route.reply service.vocabulary request.body).headers ++ originHeader
          (service.settings.allowedOrigin? request.route request.origin) } := by
    simp only [handle, h]
    rfl
  rw [hhandle, hreply]
  rfl

theorem handle_of_payload (service : Service) (request : Request) {payload : Payload}
    (hroute : route? request.route = some route)
    (hbody : Payload.ofBody request.body = .ok payload) :
    (service.handle request).status = (route.answer service.vocabulary payload).status ∧
      (service.handle request).body = (route.answer service.vocabulary payload).body := by
  have hreply : route.reply service.vocabulary request.body =
      route.answer service.vocabulary payload := by
    simp only [Route.reply, hbody]
  rw [handle_of_route hroute, hreply]
  exact ⟨rfl, rfl⟩

theorem exists_route (h : Served request.route) : ∃ route, route? request.route = some route :=
  Option.ne_none_iff_exists'.mp fun hnone => route?_eq_none_iff.mp hnone h

/-- The origin that the settings name to the caller: `*` where the list of the route holds it, and
else the origin of the caller where the list holds that. -/
inductive Grants (settings : ServiceSettings) (request : Request) : String → Prop where
  | anyone {origins : List String} (hserved : Served request.route)
      (hlist : settings.cors.lookup request.route = some origins) (hany : "*" ∈ origins) :
      Grants settings request "*"
  | caller {origins : List String} {origin : String} (hserved : Served request.route)
      (hlist : settings.cors.lookup request.route = some origins) (hnot : "*" ∉ origins)
      (horigin : request.origin = some origin) (hmem : origin ∈ origins) :
      Grants settings request origin

variable {settings : ServiceSettings}

theorem Grants.served (h : Grants settings request value) : Served request.route := by
  cases h with
  | anyone hserved => exact hserved
  | caller hserved => exact hserved

theorem Grants.allowed (h : Grants settings request value) :
    settings.allowedOrigin? request.route request.origin = some value := by
  unfold ServiceSettings.allowedOrigin?
  cases h with
  | anyone _ hlist hany => simp [hlist, hany]
  | caller _ hlist hnot horigin hmem => simp [hlist, hnot, horigin, hmem]

theorem grants_of_allowed (hserved : Served request.route)
    (h : settings.allowedOrigin? request.route request.origin = some value) :
    Grants settings request value := by
  unfold ServiceSettings.allowedOrigin? at h
  obtain ⟨origins, hlist, h⟩ := Option.bind_eq_some_iff.mp h
  by_cases hany : "*" ∈ origins
  · rw [if_pos hany] at h
    obtain rfl : "*" = value := Option.some.inj h
    exact .anyone hserved hlist hany
  · rw [if_neg hany] at h
    obtain ⟨caller, hcaller, h⟩ := Option.bind_eq_some_iff.mp h
    by_cases hmem : caller ∈ origins
    · rw [if_pos hmem] at h
      obtain rfl : caller = value := Option.some.inj h
      exact .caller hserved hlist hany hcaller hmem
    · rw [if_neg hmem] at h
      cases h

theorem mem_originHeader_iff {name : String} {origin : Option String} :
    (name, value) ∈ originHeader origin ↔
      name = "Access-Control-Allow-Origin" ∧ origin = some value := by
  cases origin with
  | none => simp [originHeader]
  | some found => simp [originHeader, eq_comm]

theorem length_originHeader_le (origin : Option String) : (originHeader origin).length ≤ 1 := by
  cases origin with
  | none => exact Nat.zero_le 1
  | some found => exact Nat.le_refl 1

/-- The settings and the sender of a request do not change what it is answered. -/
theorem handle_same_answer (v : Vocabulary) (settings other : ServiceSettings) (request : Request)
    (origin : Option String) :
    (handle ⟨v, settings⟩ request).status = (handle ⟨v, other⟩ { request with origin }).status ∧
      (handle ⟨v, settings⟩ request).body = (handle ⟨v, other⟩ { request with origin }).body := by
  by_cases hserved : Served request.route
  · obtain ⟨route, hroute⟩ := exists_route hserved
    have hother : route? { request with origin }.route = some route := hroute
    rw [handle_of_route hroute, handle_of_route hother]
    exact ⟨rfl, rfl⟩
  · have hother : ¬ Served { request with origin }.route := hserved
    rw [handle_of_not_served hserved, handle_of_not_served hother]
    exact ⟨rfl, rfl⟩

theorem mem_headers_handle_iff {name : String} :
    (name, value) ∈ (service.handle request).headers ↔
      name = "Access-Control-Allow-Origin" ∧ Grants service.settings request value := by
  by_cases hserved : Served request.route
  · obtain ⟨route, hroute⟩ := exists_route hserved
    rw [handle_of_route hroute, mem_originHeader_iff]
    exact and_congr_right fun _ => ⟨grants_of_allowed hserved, Grants.allowed⟩
  · rw [handle_of_not_served hserved]
    constructor
    · intro hmem
      cases hmem
    · rintro ⟨-, hgrants⟩
      exact absurd hgrants.served hserved

theorem length_headers_handle_le : (service.handle request).headers.length ≤ 1 := by
  by_cases hserved : Served request.route
  · obtain ⟨route, hroute⟩ := exists_route hserved
    rw [handle_of_route hroute]
    exact length_originHeader_le _
  · rw [handle_of_not_served hserved]
    exact Nat.zero_le 1

theorem status_handle_eq_iff :
    (service.handle request).status = 404 ↔ ¬ Served request.route := by
  constructor
  · intro hstatus hserved
    obtain ⟨route, hroute⟩ := exists_route hserved
    obtain ⟨status, json, hreply, hfound⟩ :=
      reply_eq_ofBody service.vocabulary route request.body
    rw [handle_of_route hroute, hreply] at hstatus
    obtain rfl : status = 404 := hstatus
    omega
  · intro hserved
    rw [handle_of_not_served hserved]
    rfl

end Service

open Service

/-- Two requests that differ in nothing but their origin are answered alike under any settings. The
only header names an origin as the list of the very route allows, and where there is no such route
there is none. -/
theorem origin_policy_is_separate (v : Vocabulary) :
    (∀ (settings other : ServiceSettings) (request : Request) (origin : Option String),
      (handle ⟨v, settings⟩ request).status = (handle ⟨v, other⟩ { request with origin }).status ∧
        (handle ⟨v, settings⟩ request).body = (handle ⟨v, other⟩ { request with origin }).body) ∧
      ∀ (settings : ServiceSettings) (request : Request),
        (handle ⟨v, settings⟩ request).headers.length ≤ 1 ∧
        (∀ name value, (name, value) ∈ (handle ⟨v, settings⟩ request).headers ↔
          name = "Access-Control-Allow-Origin" ∧ Grants settings request value) ∧
        ((handle ⟨v, settings⟩ request).status = 404 →
          (handle ⟨v, settings⟩ request).headers = []) := by
  constructor
  · exact handle_same_answer v
  · intro settings request
    refine ⟨length_headers_handle_le, ?_, ?_⟩
    · intro name value
      exact mem_headers_handle_iff
    · intro hstatus
      rw [handle_of_not_served (status_handle_eq_iff.mp hstatus)]
      rfl

def Service.namedCallers : ServiceSettings :=
  ⟨[("/parse", ["*"]), ("/validate", ["https://editor.example", "https://other.example"])]⟩

/-- A request that is refused still names its caller, and one to another route does not. -/
theorem origin_policy_is_separate_refused :
    ∃ v, Language.standard.compile = .ok v ∧
      (handle ⟨v, namedCallers⟩ ⟨"/validate", some "https://other.example", some "[]"⟩).status =
        400 ∧
      ("Access-Control-Allow-Origin", "https://other.example") ∈
        (handle ⟨v, namedCallers⟩
          ⟨"/validate", some "https://other.example", some "[]"⟩).headers ∧
      (handle ⟨v, namedCallers⟩ ⟨"/parse", some "*", none⟩).status = 404 ∧
      (handle ⟨v, namedCallers⟩ ⟨"/parse", some "*", none⟩).headers = [] := by
  obtain ⟨v, hv⟩ := Language.standard_compiles
  obtain ⟨-, hpolicy⟩ := origin_policy_is_separate v
  have hgrants : Grants namedCallers
      ⟨"/validate", some "https://other.example", some "[]"⟩ "https://other.example" :=
    .caller (by decide) rfl (by decide) rfl (by decide)
  obtain ⟨-, hheaders, -⟩ := hpolicy namedCallers
    ⟨"/validate", some "https://other.example", some "[]"⟩
  obtain ⟨-, -, hnone⟩ := hpolicy namedCallers ⟨"/parse", some "*", none⟩
  exact ⟨v, hv, rfl, (hheaders _ _).mpr ⟨rfl, hgrants⟩, rfl, hnone rfl⟩

end SourceCheck
