import Catalog.Image.Client
import Catalog.Proofs.Text.Bytes
import Catalog.Proofs.Web.Transcript

/-!
# Token negotiation

The lookup of an image asks a registry for a manifest, for the manifest of a platform if the first
one is an index, and for the configuration. Any of these requests may be refused with a challenge;
the first refusal leads to one request for a token, and with the token the refused request is asked
again, unless no header can hold the token. From then on the token goes with every request to the
registry, and no refusal is answered any more.

## Main definitions

* `Web.Exchange.challenge?`, `Web.Exchange.granted?` — the challenge and the token of a reply.
* `ImageSession.Gets` — the exchanges of a request with its negotiation.
* `ImageSession.Converses` — the exchanges of several requests, one after another.
* `ImageSession.Continues` — the session after requests that succeeded.

## Main results

* `Web.Request.target_token` — what a token does to a request.
* `ImageSession.gets_of_gives` — what a request with its negotiation goes through.
* `ImageSession.converses_of_gives_configDescriptor`, `ImageSession.converses_of_gives_config` —
  **what the two halves of a lookup go through.**
-/

namespace Catalog

/-! ### Exchanges -/

namespace Web

/-- Whether a request is one for a token; no other has parameters. -/
def Request.asksForToken (q : Request) : Bool := !q.parameters.isEmpty

namespace Exchange

/-- The response, if there is one. -/
def response? (x : Exchange) : Option Response := x.reply.bind Except.toOption

/-- The media type and the body of a response with success. -/
def content? (x : Exchange) : Option (Option String × List UInt8) :=
  (x.response?.filter Response.isSuccess).bind fun response =>
    response.body.map fun body => (response.contentType, body.bytes)

theorem content?_eq {x : Exchange} {response : Response} (h : x.response? = some response)
    (hsuccess : response.isSuccess = true) :
    x.content? = response.body.map fun body => (response.contentType, body.bytes) := by
  rw [content?, h, Option.filter_some, if_pos hsuccess, Option.bind_some]

/-- The challenge of a response that wants to know who is there. -/
def challenge? (x : Exchange) : Option BearerChallenge :=
  (x.response?.filter fun response => response.status = Response.unauthorized).bind fun response =>
    response.challenge.bind BearerChallenge.parse?

/-- The token that a request for one led to. -/
def granted? (x : Exchange) : Option String :=
  if x.request.asksForToken then
    x.content?.bind fun content =>
      (Token.layout.decodeBytes content.2).toOption.bind Token.ofDocument
  else none

/-- The manifest of a response. -/
def manifest? (x : Exchange) : Option Manifest :=
  x.content?.bind fun content => (Manifest.ofBytes content.1 content.2).toOption

/-- The configuration of a response. -/
def config? (x : Exchange) : Option ImageConfig :=
  x.content?.bind fun content => (ImageConfig.ofBytes content.2).toOption

end Exchange

end Web

/-- The request for the token of a challenge. -/
def BearerChallenge.request (c : BearerChallenge) (scope : String) : Web.Request :=
  ⟨c.realm, c.query scope, none, none⟩

theorem BearerChallenge.asksForToken_request (c : BearerChallenge) (scope : String) :
    (c.request scope).asksForToken = true := by
  simp [Web.Request.asksForToken, request, query]

/-! ### Requests with a token -/

namespace Web

theorem isHeaderValue_bearer (token : String) :
    isHeaderValue (bearer token) = isHeaderValue token := by
  simp only [isHeaderValue, bearer, ← Text.byteArray_toList, Text.toUTF8_toList,
    String.toList_append, Text.utf8_append, List.all_append]
  exact Bool.true_and _

/-- A token has no part in where a request leads, but it may keep the request from being sent. -/
theorem Request.target_token {q : Request} {u : Url} (h : q.target = .ok u) (hnone : q.token = none)
    (token : String) : { q with token := some token }.target =
      if isHeaderValue token then .ok u else .error (.unusable none) := by
  have htoken : { q with token := some token }.hasHeaders =
      (q.hasHeaders && isHeaderValue token) := by
    simp [hasHeaders, hnone, isHeaderValue_bearer]
  rw [target] at h ⊢
  cases hparse : Url.parse q.url with
  | error fault =>
    rw [hparse] at h
    cases h
  | ok u₀ =>
    simp only [hparse, htoken] at h ⊢
    by_cases hhost : u₀.hostText.isEmpty = true
    · rw [if_pos hhost] at h
      cases h
    · rw [if_neg hhost] at h ⊢
      cases hheaders : q.hasHeaders with
      | false => simp [hheaders] at h
      | true =>
        rw [hheaders] at h
        cases hvalue : isHeaderValue token with
        | false => rfl
        | true => exact h

/-- A request that could be sent without a token can be sent with one that a header can hold. -/
theorem Request.exists_target_token_iff {q : Request} (h : ∃ u, q.target = .ok u)
    (hnone : q.token = none) (token : String) :
    (∃ u, { q with token := some token }.target = .ok u) ↔ isHeaderValue token = true := by
  obtain ⟨u, hu⟩ := h
  rw [target_token hu hnone]
  cases isHeaderValue token <;> simp

end Web

/-! ### Lookups that may fail -/

/-- A lookup that may fail goes through exchanges, and gives a value if it succeeds. -/
def Fetch.Gives {α : Type} (x : Fetch α) (es : List Web.Exchange) (v : Option α) : Prop :=
  ∃ o, Lookup.Runs x.run es o ∧ v = o.bind Except.toOption

namespace Fetch

variable {α β : Type} {a : α} {x : Fetch α} {f : α → Fetch β} {es : List Web.Exchange}

theorem Gives.of_pure {v : Option α} (h : (pure a : Fetch α).Gives es v) :
    es = [] ∧ v = some a := by
  obtain ⟨o, hruns, rfl⟩ := h
  obtain ⟨rfl, rfl⟩ := Lookup.runs_done_iff.mp hruns
  exact ⟨rfl, rfl⟩

theorem Gives.of_throw {v : Option α} {e : FetchError} (h : (throw e : Fetch α).Gives es v) :
    es = [] ∧ v = none := by
  obtain ⟨o, hruns, rfl⟩ := h
  obtain ⟨rfl, rfl⟩ := Lookup.runs_done_iff.mp hruns
  exact ⟨rfl, rfl⟩

/-- One lookup after another goes through the exchanges of both, unless the first one fails. -/
theorem Gives.of_bind {v : Option β} (h : (x >>= f).Gives es v) :
    (∃ a es₁ es₂, x.Gives es₁ (some a) ∧ (f a).Gives es₂ v ∧ es = es₁ ++ es₂) ∨
      x.Gives es none ∧ v = none := by
  obtain ⟨o, hruns, rfl⟩ := h
  rcases Lookup.Runs.of_bind hruns with ⟨result, es₁, es₂, hfirst, hsecond, rfl⟩ | ⟨hfirst, rfl⟩
  · cases result with
    | ok a => exact Or.inl ⟨a, es₁, es₂, ⟨_, hfirst, rfl⟩, ⟨o, hsecond, rfl⟩, rfl⟩
    | error e =>
      obtain ⟨rfl, rfl⟩ := Lookup.runs_done_iff.mp hsecond
      rw [List.append_nil]
      exact Or.inr ⟨⟨_, hfirst, rfl⟩, rfl⟩
  · exact Or.inr ⟨⟨none, hfirst, rfl⟩, rfl⟩

end Fetch

namespace ImageSession

variable {s s' : ImageSession} {q : Web.Request} {url scope : String} {accept : Option String}
  {es : List Web.Exchange} {x : Web.Exchange} {response : Web.Response}
  {challenge : BearerChallenge}

/-! ### One request -/

theorem run_send (q : Web.Request) : (send q).run = (Lookup.ask q).bind fun reply =>
    .done (reply.mapError (FetchError.http q.url)) := by
  rw [send, Lookup.ask]
  cases q.target with
  | ok u =>
    refine congrArg (Lookup.page q) (funext fun reply => ?_)
    cases reply <;> rfl
  | error failure => rfl

/-- A request that leads somewhere is one exchange. -/
theorem gives_send {v : Option Web.Response} (h : (send q).Gives es v) :
    (∃ u, q.target = .ok u) ∧ (∃ x : Web.Exchange, es = [x] ∧ x.request = q ∧ v = x.response?) ∨
      (∃ failure, q.target = .error failure) ∧ es = [] ∧ v = none := by
  obtain ⟨o, hruns, rfl⟩ := h
  rw [run_send] at hruns
  rcases hruns.of_bind with ⟨reply, es₁, es₂, hask, hdone, rfl⟩ | ⟨hask, rfl⟩
  · obtain ⟨rfl, rfl⟩ := Lookup.runs_done_iff.mp hdone
    rw [List.append_nil]
    rcases hask.of_ask with ⟨htarget, rfl⟩ | ⟨failure, htarget, rfl, hreply⟩
    · refine Or.inl ⟨htarget, _, rfl, rfl, ?_⟩
      cases reply <;> rfl
    · obtain rfl := Option.some.inj hreply
      exact Or.inr ⟨⟨failure, htarget⟩, rfl, rfl⟩
  · rcases hask.of_ask with ⟨htarget, rfl⟩ | ⟨failure, -, -, hreply⟩
    · exact Or.inl ⟨htarget, _, rfl, rfl, rfl⟩
    · cases hreply

theorem gives_accepted {v : Option Web.Response} (h : (accepted url response).Gives es v) :
    es = [] ∧ (response.isSuccess = true ∧ v = some response ∨
      response.isSuccess = false ∧ v = none) := by
  rw [accepted] at h
  split at h
  · next hsuccess =>
    obtain ⟨rfl, rfl⟩ := h.of_pure
    exact ⟨rfl, Or.inl ⟨hsuccess, rfl⟩⟩
  · next hfailure =>
    obtain ⟨rfl, rfl⟩ := h.of_throw
    exact ⟨rfl, Or.inr ⟨by simpa using hfailure, rfl⟩⟩

/-- A request whose response is refused without success, and what comes after it. -/
theorem gives_send_accepted {α : Type} {next : Web.Response → Fetch α} {v : Option α}
    (h : (send q >>= fun response => accepted url response >>= next).Gives es v) :
    (∃ u, q.target = .ok u) ∧ (∃ x : Web.Exchange, x.request = q ∧
        ((∃ response rest, x.response? = some response ∧ response.isSuccess = true ∧
            (next response).Gives rest v ∧ es = x :: rest) ∨
          x.response?.filter Web.Response.isSuccess = none ∧ es = [x] ∧ v = none)) ∨
      (∃ failure, q.target = .error failure) ∧ es = [] ∧ v = none := by
  rcases h.of_bind with ⟨response, es₁, es₂, hsend, hrest, rfl⟩ | ⟨hsend, rfl⟩
  · rcases gives_send hsend with ⟨htarget, x, rfl, hx, hresponse⟩ | ⟨-, -, hnone⟩
    · refine Or.inl ⟨htarget, x, hx, ?_⟩
      rcases hrest.of_bind with ⟨r, es₃, rest, haccepted, hnext, rfl⟩ | ⟨haccepted, rfl⟩
      · obtain ⟨rfl, ⟨hsuccess, hr⟩ | ⟨-, hnone⟩⟩ := gives_accepted haccepted
        · obtain rfl := Option.some.inj hr
          exact Or.inl ⟨r, rest, hresponse.symm, hsuccess, hnext, rfl⟩
        · cases hnone
      · obtain ⟨rfl, ⟨-, hr⟩ | ⟨hfailure, -⟩⟩ := gives_accepted haccepted
        · cases hr
        · refine Or.inr ⟨?_, rfl, rfl⟩
          rw [← hresponse, Option.filter_some, hfailure]
          rfl
    · cases hnone
  · rcases gives_send hsend with ⟨htarget, x, rfl, hx, hresponse⟩ | ⟨htarget, rfl, -⟩
    · exact Or.inl ⟨htarget, x, hx, Or.inr ⟨by rw [← hresponse]; rfl, rfl, rfl⟩⟩
    · exact Or.inr ⟨htarget, rfl, rfl⟩

/-- What comes after the body of a response. -/
theorem gives_body_bind {α : Type} {next : List UInt8 → Fetch α} {v : Option α}
    (h : (body url response >>= next).Gives es v) :
    (∃ b, response.body = some b ∧ (next b.bytes).Gives es v) ∨ es = [] ∧ v = none := by
  rw [body] at h
  rcases h.of_bind with ⟨bytes, es₁, es₂, hbody, hnext, rfl⟩ | ⟨hbody, rfl⟩
  · split at hbody
    · next b hb =>
      obtain ⟨rfl, hbytes⟩ := hbody.of_pure
      obtain rfl := Option.some.inj hbytes
      exact Or.inl ⟨b, hb, hnext⟩
    · cases hbody.of_throw.2
  · split at hbody
    · cases hbody.of_pure.2
    · exact Or.inr ⟨hbody.of_throw.1, rfl⟩

/-- The request for a token is one exchange, or none if the realm leads nowhere. -/
theorem gives_fetchToken {v : Option String} (h : (fetchToken scope challenge).Gives es v) :
    (∃ x : Web.Exchange, es = [x] ∧ x.request = challenge.request scope ∧ v = x.granted?) ∨
      es = [] ∧ v = none := by
  rw [fetchToken] at h
  rcases gives_send_accepted h with ⟨-, x, hx, hcases⟩ | ⟨-, rfl, rfl⟩
  · have htoken : x.request.asksForToken = true := by
      rw [hx]
      exact challenge.asksForToken_request scope
    rcases hcases with ⟨response, rest, hresponse, hsuccess, hdecode, rfl⟩ | ⟨hnone, rfl, rfl⟩
    · have hgiven : rest = [] ∧ v = (response.body.map (·.bytes)).bind fun bytes =>
          (Token.layout.decodeBytes bytes).toOption.bind Token.ofDocument := by
        cases hbody : response.body with
        | none =>
          rw [hbody] at hdecode
          exact hdecode.of_throw
        | some body =>
          simp only [hbody, Option.map_some] at hdecode
          simp only [Option.map_some, Option.bind_some]
          cases hdocument : Token.layout.decodeBytes body.bytes with
          | error defect =>
            rw [hdocument] at hdecode
            exact hdecode.of_throw
          | ok document =>
            simp only [hdocument] at hdecode
            simp only [Except.toOption, Option.bind_some]
            cases htoken : Token.ofDocument document with
            | none =>
              rw [htoken] at hdecode
              exact hdecode.of_throw
            | some t =>
              rw [htoken] at hdecode
              exact hdecode.of_pure
      obtain ⟨rfl, rfl⟩ := hgiven
      refine Or.inl ⟨x, rfl, hx, ?_⟩
      rw [Web.Exchange.granted?, if_pos htoken, Web.Exchange.content?_eq hresponse hsuccess,
        Option.bind_map, Option.bind_map]
      rfl
    · refine Or.inl ⟨x, rfl, hx, ?_⟩
      rw [Web.Exchange.granted?, if_pos htoken, Web.Exchange.content?, hnone]
      rfl
  · exact Or.inr ⟨rfl, rfl⟩

/-- The exchanges of a request with its negotiation, and what they lead to: no response, or a
response with success and the session after it. What was refused is asked again if a token is
granted that can be sent. -/
inductive Gets (s : ImageSession) (url : String) (accept : Option String) :
    List Web.Exchange → Option (Web.Response × ImageSession) → Prop
  | unsent : Gets s url accept [] none
  | failed {x : Web.Exchange} (request : x.request = s.request url accept) :
    Gets s url accept [x] none
  | answered {x : Web.Exchange} {response : Web.Response}
    (request : x.request = s.request url accept) (response? : x.response? = some response)
    (success : response.isSuccess = true) : Gets s url accept [x] (some (response, s))
  | refused {x y : Web.Exchange} {challenge : BearerChallenge}
    (request : x.request = s.request url accept) (token : s.token = none)
    (challenged : x.challenge? = some challenge) (asked : y.request = challenge.request s.scope)
    (useless : ∀ t, y.granted? = some t → Web.isHeaderValue t = false) :
    Gets s url accept [x, y] none
  | retriedInVain {x y z : Web.Exchange} {challenge : BearerChallenge} {t : String}
    (request : x.request = s.request url accept) (token : s.token = none)
    (challenged : x.challenge? = some challenge) (asked : y.request = challenge.request s.scope)
    (granted : y.granted? = some t) (sendable : Web.isHeaderValue t = true)
    (retry : z.request = { x.request with token := some t }) : Gets s url accept [x, y, z] none
  | retried {x y z : Web.Exchange} {challenge : BearerChallenge} {t : String}
    {response : Web.Response}
    (request : x.request = s.request url accept) (token : s.token = none)
    (challenged : x.challenge? = some challenge) (asked : y.request = challenge.request s.scope)
    (granted : y.granted? = some t) (sendable : Web.isHeaderValue t = true)
    (retry : z.request = { x.request with token := some t })
    (response? : z.response? = some response) (success : response.isSuccess = true) :
    Gets s url accept [x, y, z] (some (response, { s with token := some t }))

/-- A refused request with a token is one exchange, or none if the token cannot be sent. -/
theorem gives_retry {t : String} {v : Option (Web.Response × ImageSession)}
    (htarget : ∃ u, (s.request url accept).target = .ok u) (hnone : s.token = none)
    (h : (send (({ s with token := some t } : ImageSession).request url accept) >>= fun response =>
      accepted url response >>= fun response => pure (response, { s with token := some t })).Gives
        es v) :
    (Web.isHeaderValue t = true ∧ ∃ x : Web.Exchange, es = [x] ∧
        x.request = { s.request url accept with token := some t } ∧
        ∀ p, v = some p → x.response? = some p.1 ∧ p.1.isSuccess = true ∧
          p.2 = { s with token := some t }) ∨
      Web.isHeaderValue t = false ∧ es = [] ∧ v = none := by
  have hsent := Web.Request.exists_target_token_iff htarget hnone t
  rcases gives_send_accepted h with ⟨htarget', x, hx, hcases⟩ | ⟨⟨failure, hfailure⟩, rfl, rfl⟩
  · refine Or.inl ⟨hsent.mp htarget', x, ?_⟩
    rcases hcases with ⟨r, rest, hr, hsuccess, hdone, rfl⟩ | ⟨-, rfl, rfl⟩
    · obtain ⟨rfl, rfl⟩ := hdone.of_pure
      refine ⟨rfl, hx, ?_⟩
      rintro p ⟨⟩
      exact ⟨hr, hsuccess, rfl⟩
    · exact ⟨rfl, hx, nofun⟩
  · refine Or.inr ⟨Bool.of_not_eq_true fun hvalue => ?_, rfl, rfl⟩
    obtain ⟨u, hu⟩ := hsent.mpr hvalue
    cases hu.symm.trans hfailure

/-- A session without a token answers the challenge of a response. -/
theorem challenge?_eq_some (hresponse : x.response? = some response)
    (h : s.challenge? response = some challenge) :
    s.token = none ∧ x.challenge? = some challenge := by
  rw [challenge?] at h
  obtain ⟨hwanted, hchallenge⟩ := Option.ite_none_right_eq_some.mp h
  obtain ⟨hstatus, htoken⟩ := Bool.and_eq_true_iff.mp hwanted
  refine ⟨Option.isNone_iff_eq_none.mp htoken, ?_⟩
  rw [Web.Exchange.challenge?, hresponse, Option.filter_some, if_pos hstatus, Option.bind_some,
    hchallenge]

/-- **What a request with its negotiation goes through.** -/
theorem gets_of_gives {v : Option (Web.Response × ImageSession)}
    (h : (s.get url accept).Gives es v) : Gets s url accept es v := by
  rw [get] at h
  rcases h.of_bind with ⟨response, es₁, es₂, hsend, hrest, rfl⟩ | ⟨hsend, rfl⟩
  · rcases gives_send hsend with ⟨htarget, x, rfl, hx, hresponse⟩ | ⟨-, -, hnone⟩
    · split at hrest
      · rcases hrest.of_bind with ⟨r, es₃, es₄, haccepted, hdone, rfl⟩ | ⟨haccepted, rfl⟩
        · obtain ⟨rfl, ⟨hsuccess, hr⟩ | ⟨-, hnone⟩⟩ := gives_accepted haccepted
          · obtain rfl := Option.some.inj hr
            obtain ⟨rfl, rfl⟩ := hdone.of_pure
            exact .answered hx hresponse.symm hsuccess
          · cases hnone
        · obtain ⟨rfl, -⟩ := gives_accepted haccepted
          exact .failed hx
      · next challenge hchallenge =>
        obtain ⟨htoken, hchallenged⟩ := challenge?_eq_some hresponse.symm hchallenge
        rcases hrest.of_bind with ⟨t, es₃, es₄, hfetch, hretry, rfl⟩ | ⟨hfetch, rfl⟩
        · rcases gives_fetchToken hfetch with ⟨y, rfl, hy, hgranted⟩ | ⟨-, hnone⟩
          · rcases gives_retry htarget htoken hretry with
              ⟨hsendable, z, rfl, hz, hresponse⟩ | ⟨huseless, rfl, rfl⟩
            · rw [← hx] at hz
              cases v with
              | none => exact .retriedInVain hx htoken hchallenged hy hgranted.symm hsendable hz
              | some p =>
                obtain ⟨hr, hsuccess, hp⟩ := hresponse p rfl
                rw [show p = (p.1, { s with token := some t }) from Prod.ext rfl hp]
                exact .retried hx htoken hchallenged hy hgranted.symm hsendable hz hr hsuccess
            · refine .refused hx htoken hchallenged hy fun t' ht' => ?_
              obtain rfl := Option.some.inj (hgranted.trans ht')
              exact huseless
          · cases hnone
        · rcases gives_fetchToken hfetch with ⟨y, rfl, hy, hgranted⟩ | ⟨rfl, -⟩
          · refine .refused hx htoken hchallenged hy fun t ht => ?_
            cases hgranted.trans ht
          · exact .failed hx
    · cases hnone
  · rcases gives_send hsend with ⟨-, x, rfl, hx, -⟩ | ⟨-, rfl, -⟩
    · exact .failed hx
    · exact .unsent

/-- The response with success is the last thing that a request gets. -/
theorem Gets.exists_last (h : Gets s url accept es (some (response, s'))) :
    ∃ front x, es = front ++ [x] ∧ x.request = s'.request url accept ∧
      x.response? = some response ∧ response.isSuccess = true := by
  cases h with
  | answered hx hresponse hsuccess => exact ⟨[], _, rfl, hx, hresponse, hsuccess⟩
  | @retried x y z _ _ _ hx _ _ _ _ _ hz hresponse hsuccess =>
    refine ⟨[x, y], z, rfl, ?_, hresponse, hsuccess⟩
    rw [hz, hx]
    rfl

/-! ### Requests one after another -/

/-- A request to the registry for something below a URL. -/
structure IsBelow (base : String) (token : Option String) (q : Web.Request) : Prop where
  url : ∃ rest, q.url = base ++ "/" ++ rest
  parameters : q.asksForToken = false
  token : q.token = token

/-- The exchanges of at most so many requests with their negotiation. -/
inductive Converses (base scope : String) : Option String → Nat → List Web.Exchange → Prop
  | ended {token : Option String} {n : Nat} : Converses base scope token n []
  | asked {token : Option String} {n : Nat} {x : Web.Exchange} {es : List Web.Exchange}
    (below : IsBelow base token x.request) (rest : Converses base scope token n es) :
    Converses base scope token (n + 1) (x :: es)
  | refused {n : Nat} {x y : Web.Exchange} {challenge : BearerChallenge}
    (below : IsBelow base none x.request) (challenged : x.challenge? = some challenge)
    (asked : y.request = challenge.request scope)
    (useless : ∀ t, y.granted? = some t → Web.isHeaderValue t = false) :
    Converses base scope none (n + 1) [x, y]
  | granted {n : Nat} {x y z : Web.Exchange} {challenge : BearerChallenge} {t : String}
    {es : List Web.Exchange} (below : IsBelow base none x.request)
    (challenged : x.challenge? = some challenge) (asked : y.request = challenge.request scope)
    (granted : y.granted? = some t) (sendable : Web.isHeaderValue t = true)
    (retry : z.request = { x.request with token := some t })
    (rest : Converses base scope (some t) n es) :
    Converses base scope none (n + 1) (x :: y :: z :: es)

variable {base : String} {token : Option String} {n m : Nat} {es' : List Web.Exchange}

theorem Converses.mono (h : Converses base scope token n es) (hnm : n ≤ m) :
    Converses base scope token m es := by
  induction h generalizing m with
  | ended => exact .ended
  | asked hx _ ih =>
    obtain ⟨m, rfl⟩ := Nat.exists_eq_succ_of_ne_zero (show m ≠ 0 by omega)
    exact .asked hx (ih (by omega))
  | refused hx hchallenged hy huseless =>
    obtain ⟨m, rfl⟩ := Nat.exists_eq_succ_of_ne_zero (show m ≠ 0 by omega)
    exact .refused hx hchallenged hy huseless
  | granted hx hchallenged hy hgranted hsendable hz _ ih =>
    obtain ⟨m, rfl⟩ := Nat.exists_eq_succ_of_ne_zero (show m ≠ 0 by omega)
    exact .granted hx hchallenged hy hgranted hsendable hz (ih (by omega))

/-- The URLs of a session are below its base. -/
theorem isBelow_request (s : ImageSession) (h : ∃ rest, url = s.base ++ "/" ++ rest)
    (accept : Option String) : IsBelow s.base s.token (s.request url accept) :=
  ⟨h, rfl, rfl⟩

/-- One request. -/
theorem Gets.converses {v : Option (Web.Response × ImageSession)} (h : Gets s url accept es v)
    (hurl : ∃ rest, url = s.base ++ "/" ++ rest) (n : Nat) :
    Converses s.base s.scope s.token (n + 1) es := by
  have hbelow := isBelow_request s hurl accept
  cases h with
  | unsent => exact .ended
  | failed hx => exact .asked (hx ▸ hbelow) .ended
  | answered hx => exact .asked (hx ▸ hbelow) .ended
  | refused hx htoken hchallenged hy huseless =>
    rw [htoken] at hbelow ⊢
    exact .refused (hx ▸ hbelow) hchallenged hy huseless
  | retriedInVain hx htoken hchallenged hy hgranted hsendable hz =>
    rw [htoken] at hbelow ⊢
    exact .granted (hx ▸ hbelow) hchallenged hy hgranted hsendable hz .ended
  | retried hx htoken hchallenged hy hgranted hsendable hz =>
    rw [htoken] at hbelow ⊢
    exact .granted (hx ▸ hbelow) hchallenged hy hgranted hsendable hz .ended

/-- After at most so many requests the session goes on as another one, which knows the token that
was granted. -/
structure Continues (s : ImageSession) (n : Nat) (es : List Web.Exchange) (s' : ImageSession) :
    Prop where
  base : s'.base = s.base
  append : ∀ {m es'}, Converses s'.base s'.scope s'.token m es' →
    Converses s.base s.scope s.token (m + n) (es ++ es')

theorem Continues.trans {s'' : ImageSession} (h : Continues s n es s')
    (h' : Continues s' m es' s'') : Continues s (m + n) (es ++ es') s'' where
  base := h'.base.trans h.base
  append := by
    intro k rest hrest
    rw [List.append_assoc, ← Nat.add_assoc]
    exact h.append (h'.append hrest)

theorem Continues.mono (h : Continues s n es s') (hnm : n ≤ m) : Continues s m es s' where
  base := h.base
  append hrest := (h.append hrest).mono (Nat.add_le_add_left hnm _)

/-- One request that succeeds. -/
theorem Gets.continues (h : Gets s url accept es (some (response, s')))
    (hurl : ∃ rest, url = s.base ++ "/" ++ rest) : Continues s 1 es s' := by
  have hbelow := isBelow_request s hurl accept
  cases h with
  | answered hx => exact ⟨rfl, .asked (hx ▸ hbelow)⟩
  | retried hx htoken hchallenged hy hgranted hsendable hz =>
    rw [htoken] at hbelow
    refine ⟨rfl, fun hrest => ?_⟩
    rw [htoken]
    exact .granted (hx ▸ hbelow) hchallenged hy hgranted hsendable hz hrest

/-! ### The lookup of an image -/

/-- A request whose response is decoded: what is decoded is the content of the last response. -/
theorem gets_of_gives_decoded {α : Type}
    {decode : Web.Response × ImageSession → List UInt8 → Fetch α} {v : Option α}
    (h : (s.get url accept >>= fun p => body url p.1 >>= decode p).Gives es v)
    (hdecode : ∀ {p bytes es v}, (decode p bytes).Gives es v → es = []) :
    ∃ v', Gets s url accept es v' ∧ ∀ a, v = some a → ∃ p bytes front x, v' = some p ∧
      (decode p bytes).Gives [] (some a) ∧ es = front ++ [x] ∧
      x.request = p.2.request url accept ∧ x.content? = some (p.1.contentType, bytes) := by
  rcases h.of_bind with ⟨⟨response, t⟩, es₁, es₂, hget, hrest, rfl⟩ | ⟨hget, rfl⟩
  · have hgets := gets_of_gives hget
    rcases gives_body_bind hrest with ⟨b, hbody, hgives⟩ | ⟨rfl, rfl⟩
    · obtain rfl := hdecode hgives
      rw [List.append_nil]
      refine ⟨_, hgets, ?_⟩
      rintro a rfl
      obtain ⟨front, x, rfl, hx, hresponse, hsuccess⟩ := hgets.exists_last
      refine ⟨(response, t), b.bytes, front, x, rfl, hgives, rfl, hx, ?_⟩
      rw [Web.Exchange.content?_eq hresponse hsuccess, hbody, Option.map_some]
    · rw [List.append_nil]
      exact ⟨_, hgets, fun _ heq => by cases heq⟩
  · exact ⟨none, gets_of_gives hget, fun _ heq => by cases heq⟩

theorem exists_eq_below (base part name : String) :
    ∃ rest, base ++ ("/" ++ part) ++ name = base ++ "/" ++ rest :=
  ⟨part ++ name, by simp only [String.append_assoc]⟩

/-- The lookup of a manifest is one request, and a manifest comes from its response. -/
theorem converses_of_gives_manifest {name : String} {v : Option (Manifest × ImageSession)}
    (h : (s.manifest name).Gives es v) :
    Converses s.base s.scope s.token 1 es ∧ ∀ manifest s', v = some (manifest, s') →
      Continues s 1 es s' ∧ ∃ x ∈ es, x.manifest? = some manifest := by
  have hurl := exists_eq_below s.base "manifests/" name
  obtain ⟨v', hgets, hvalue⟩ := gets_of_gives_decoded h fun hgives => by
    split at hgives
    · exact hgives.of_pure.1
    · exact hgives.of_throw.1
  refine ⟨hgets.converses hurl 0, ?_⟩
  rintro m s' rfl
  obtain ⟨⟨response, t⟩, bytes, front, x, rfl, hgives, rfl, -, hcontent⟩ := hvalue _ rfl
  dsimp only at hgives
  split at hgives
  · next m' hm =>
    obtain ⟨rfl, rfl⟩ := Prod.mk.inj (Option.some.inj hgives.of_pure.2)
    refine ⟨hgets.continues hurl, x, List.mem_append_right _ List.mem_cons_self, ?_⟩
    rw [Web.Exchange.manifest?, hcontent, Option.bind_some, hm]
    rfl
  · cases hgives.of_throw.2

/-- The lookup of a configuration is one request, and the configuration comes from the response to
its last one. -/
theorem converses_of_gives_config {digest : String} {v : Option ImageConfig}
    (h : (s.config digest).Gives es v) :
    Converses s.base s.scope s.token 1 es ∧ ∀ config, v = some config → ∃ front x,
      es = front ++ [x] ∧ x.request.url = s.base ++ "/blobs/" ++ digest ∧
        x.request.asksForToken = false ∧ x.config? = some config := by
  obtain ⟨v', hgets, hvalue⟩ := gets_of_gives_decoded h fun hgives => by
    split at hgives
    · exact hgives.of_pure.1
    · exact hgives.of_throw.1
  refine ⟨hgets.converses (exists_eq_below s.base "blobs/" digest) 0, ?_⟩
  rintro c rfl
  obtain ⟨⟨response, t⟩, bytes, front, x, -, hgives, rfl, hx, hcontent⟩ := hvalue _ rfl
  split at hgives
  · next c' hc =>
    obtain rfl := Option.some.inj hgives.of_pure.2
    refine ⟨front, x, rfl, ?_, ?_, ?_⟩
    · rw [hx]
      rfl
    · rw [hx]
      rfl
    · rw [Web.Exchange.config?, hcontent, Option.bind_some, hc]
      rfl
  · cases hgives.of_throw.2

/-- The lookup of a descriptor is one request or two, and the descriptor comes from a manifest. -/
theorem converses_of_gives_configDescriptor {name : String} {v : Option (Descriptor × ImageSession)}
    (h : (s.configDescriptor name).Gives es v) :
    Converses s.base s.scope s.token 2 es ∧ ∀ d s', v = some (d, s') →
      Continues s 2 es s' ∧ ∃ x ∈ es, x.manifest? = some (.image d) := by
  rw [configDescriptor] at h
  rcases h.of_bind with ⟨⟨m, t⟩, es₁, es₂, hfirst, hrest, rfl⟩ | ⟨hfirst, rfl⟩
  · obtain ⟨hconverses, hmanifest⟩ := converses_of_gives_manifest hfirst
    obtain ⟨hnext, x, hx, hm⟩ := hmanifest m t rfl
    cases m with
    | image config =>
      obtain ⟨rfl, rfl⟩ := Fetch.Gives.of_pure hrest
      rw [List.append_nil]
      refine ⟨hconverses.mono (Nat.le_succ 1), ?_⟩
      intro d s' heq
      obtain ⟨rfl, rfl⟩ := Prod.mk.inj (Option.some.inj heq)
      exact ⟨hnext.mono (Nat.le_succ 1), x, hx, hm⟩
    | index entries =>
      dsimp only at hrest
      split at hrest
      · obtain ⟨rfl, rfl⟩ := hrest.of_throw
        rw [List.append_nil]
        exact ⟨hconverses.mono (Nat.le_succ 1), fun _ _ heq => by cases heq⟩
      · -- the second manifest is asked for in the session after the first one
        rcases hrest.of_bind with ⟨⟨m', t'⟩, es₃, es₄, hsecond, hlast, rfl⟩ | ⟨hsecond, rfl⟩
        · obtain ⟨hconverses', hmanifest'⟩ := converses_of_gives_manifest hsecond
          obtain ⟨hnext', y, hy, hm'⟩ := hmanifest' m' t' rfl
          cases m' with
          | image config =>
            obtain ⟨rfl, rfl⟩ := Fetch.Gives.of_pure hlast
            rw [List.append_nil]
            refine ⟨hnext.append hconverses', ?_⟩
            intro d s' heq
            obtain ⟨rfl, rfl⟩ := Prod.mk.inj (Option.some.inj heq)
            exact ⟨hnext.trans hnext', y, List.mem_append_right _ hy, hm'⟩
          | index entries' =>
            obtain ⟨rfl, rfl⟩ := Fetch.Gives.of_throw hlast
            rw [List.append_nil]
            exact ⟨hnext.append hconverses', fun _ _ heq => by cases heq⟩
        · obtain ⟨hconverses', -⟩ := converses_of_gives_manifest hsecond
          exact ⟨hnext.append hconverses', fun _ _ heq => by cases heq⟩
  · obtain ⟨hconverses, -⟩ := converses_of_gives_manifest hfirst
    exact ⟨hconverses.mono (Nat.le_succ 1), fun _ _ heq => by cases heq⟩

end ImageSession

end Catalog
