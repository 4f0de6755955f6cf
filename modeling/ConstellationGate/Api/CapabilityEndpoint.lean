import ConstellationGate.Api.Errors
import ConstellationGate.Lib.Revalidation
import ConstellationGate.Services.EntityTag
import ConstellationGate.Services.ListingOrder

/-!
# `GET /v1/capabilities` and `GET /v1/capabilities/{action}`

The endpoints of `api/main.py` around the capability service.  A request may carry an entity tag in
`If-None-Match`; when that is the tag of the answer, the answer has no body.

A client that keeps the last body of each URL and revalidates it sees what a client without a cache
sees, whatever is registered and whoever asks between its requests (`revalidation_exact`): a tag is
that of one text only, unless the digests of two texts that have been served begin alike.
-/

namespace ConstellationGate

/-! ### The endpoints -/

/-- The URLs, with what `include_protected` and `action` are in them. -/
inductive CapabilityUrl
  | listing (includeProtected : Bool)
  | lookup (action : String)
deriving DecidableEq

/-- The bodies: a listing or one descriptor. -/
inductive CapabilityBody
  | listing (payload : CapabilityListResponse)
  | descriptor (item : CapabilityDescriptor)
deriving DecidableEq

/-- The exception of the service. -/
def CapabilityError.toPyError : CapabilityError → PyError
  | .capabilityAuthorizationError message => { cls := .permissionError, message := message }
  | .valueError message => { cls := .valueError, message := message }
  | .lookupError message => { cls := .lookupError, message := message }

/-- An answer to a request for capabilities. -/
abbrev CapabilityAnswer := ConditionalAnswer String CapabilityBody HttpException

namespace CapabilityEndpoint

variable (sha256 : String → String) (kind : PyError → DispatchFailure)

/-- The answer with a tag: no body if the request carries the tag. -/
def tagged (ifNoneMatch : Option String) (etag : String) (body : CapabilityBody) :
    CapabilityAnswer :=
  match ifNoneMatch with
  | none => .full etag body
  | some sent => if Text.strip sent = etag then .notModified etag else .full etag body

/-- `list_capabilities` of `api/main.py`. -/
def listCapabilities (service : CapabilityService) (includeProtected : Bool)
    (ifNoneMatch xAdminToken : Option String) : CapabilityAnswer :=
  match service.listCapabilities sha256 xAdminToken includeProtected with
  | .ok payload => tagged ifNoneMatch payload.etag (.listing payload)
  | .error exc => .failed (toHttpException kind exc.toPyError)

/-- `get_capability` of `api/main.py`. -/
def getCapability (service : CapabilityService) (action : String)
    (ifNoneMatch xAdminToken : Option String) : CapabilityAnswer :=
  match service.getCapability sha256 action xAdminToken with
  | .ok (descriptor, etag) => tagged ifNoneMatch etag (.descriptor descriptor)
  | .error exc => .failed (toHttpException kind exc.toPyError)

/-- A request, with the service as it is when the request arrives. -/
structure Request where
  service : CapabilityService
  url : CapabilityUrl
  xAdminToken : Option String

/-- The answer to a request. -/
def get (request : Request) (ifNoneMatch : Option String) : CapabilityAnswer :=
  match request.url with
  | .listing includeProtected =>
    listCapabilities sha256 kind request.service includeProtected ifNoneMatch request.xAdminToken
  | .lookup action =>
    getCapability sha256 kind request.service action ifNoneMatch request.xAdminToken

/-! ### What is tagged -/

/-- The descriptors in a body. -/
def items : CapabilityBody → List CapabilityDescriptor
  | .listing payload => payload.capabilities
  | .descriptor item => [item]

/-- The body at a URL with the descriptors. -/
def AtUrl (url : CapabilityUrl) (body : CapabilityBody) : Prop :=
  match url, body with
  | .listing _, .listing payload =>
    payload = ⟨capabilityContractVersion, etagFor sha256 payload.capabilities,
      payload.capabilities⟩
  | .lookup _, .descriptor _ => True
  | _, _ => False

/-- A body at a URL is given by its descriptors. -/
lemma AtUrl.eq {url : CapabilityUrl} {body body' : CapabilityBody} (h : AtUrl sha256 url body)
    (h' : AtUrl sha256 url body') (hitems : items body = items body') : body = body' := by
  rcases url with includeProtected | action <;> rcases body with payload | item <;>
    rcases body' with payload' | item'
  · have hpayload : payload.capabilities = payload'.capabilities := hitems
    change payload = _ at h
    change payload' = _ at h'
    rw [h, h', hpayload]
  · exact h'.elim
  · exact h.elim
  · exact h.elim
  · exact h.elim
  · exact h.elim
  · exact h'.elim
  · obtain rfl := List.singleton_inj.1 hitems
    rfl

lemma etag_listCapabilities {service : CapabilityService} {presentedToken : Option String}
    {includeProtected : Bool} {payload : CapabilityListResponse}
    (h : service.listCapabilities sha256 presentedToken includeProtected = .ok payload) :
    payload.etag = etagFor sha256 payload.capabilities ∧
      AtUrl sha256 (.listing includeProtected) (.listing payload) := by
  rw [CapabilityService.listCapabilities] at h
  split at h
  · cases h
  · obtain rfl := Except.ok.inj h
    exact ⟨rfl, rfl⟩

lemma etag_getCapability {service : CapabilityService} {presentedToken : Option String}
    {action : String} {item : CapabilityDescriptor} {etag : String}
    (h : service.getCapability sha256 action presentedToken = .ok (item, etag)) :
    etag = etagFor sha256 [item] := by
  simp only [CapabilityService.getCapability] at h
  split at h
  · cases h
  split at h
  · cases h
  split at h
  · obtain ⟨rfl, rfl⟩ := Prod.mk.inj (Except.ok.inj h)
    rfl
  · split at h
    · obtain ⟨rfl, rfl⟩ := Prod.mk.inj (Except.ok.inj h)
      rfl
    · cases h

/-- A request fails, whatever tag it carries, or it is answered with a body and the tag of its
descriptors. -/
lemma get_cases (request : Request) :
    (∃ exc : CapabilityError, ∀ sent,
      get sha256 kind request sent = .failed (toHttpException kind exc.toPyError)) ∨
    ∃ body, AtUrl sha256 request.url body ∧
      ∀ sent, get sha256 kind request sent = tagged sent (etagFor sha256 (items body)) body := by
  obtain ⟨service, url, xAdminToken⟩ := request
  rcases url with includeProtected | action
  · rcases hlist : service.listCapabilities sha256 xAdminToken includeProtected with exc | payload
    · refine .inl ⟨exc, fun sent => ?_⟩
      simp only [get, listCapabilities, hlist]
    · obtain ⟨hetag, hat⟩ := etag_listCapabilities sha256 hlist
      refine .inr ⟨.listing payload, hat, fun sent => ?_⟩
      simp only [get, listCapabilities, hlist, hetag, items]
  · rcases hlookup : service.getCapability sha256 action xAdminToken with exc | ⟨item, etag⟩
    · refine .inl ⟨exc, fun sent => ?_⟩
      simp only [get, getCapability, hlookup]
    · have hetag := etag_getCapability sha256 hlookup
      refine .inr ⟨.descriptor item, trivial, fun sent => ?_⟩
      simp only [get, getCapability, hlookup, hetag, items]

/-! ### Clients -/

/-- What is current: the answer to a request without a tag. -/
def current (request : Request) : Except HttpException CapabilityBody :=
  match get sha256 kind request none with
  | .full _ body => .ok body
  | .failed http => .error http
  | .notModified _ => .error internalError

/-- The endpoints, as a client sees them. -/
def clientSetting :
    Revalidation.Setting Request CapabilityUrl String CapabilityBody HttpException where
  serve := get sha256 kind
  location := Request.url
  current := current sha256 kind
  tag := fun body => etagFor sha256 (items body)

/-- The texts whose digests are in the tags of a history. -/
def digestedTexts (history : List Request) : List String :=
  history.filterMap fun request =>
    match get sha256 kind request none with
    | .full _ body => some (etagPayload (items body))
    | _ => none

variable {sha256 kind}

lemma current_of_full {request : Request} {body : CapabilityBody}
    (h : ∀ sent, get sha256 kind request sent =
      tagged sent (etagFor sha256 (items body)) body) : current sha256 kind request = .ok body := by
  simp only [current, h none, tagged]

lemma current_of_failed {request : Request} {http : HttpException}
    (h : ∀ sent, get sha256 kind request sent = .failed http) :
    current sha256 kind request = .error http := by
  simp only [current, h none]

/-- A client without a cache sees what is current. -/
lemma shows_current (request : Request) :
    Revalidation.shows none (get sha256 kind request none) =
      some (current sha256 kind request) := by
  rcases get_cases sha256 kind request with ⟨exc, hfailed⟩ | ⟨body, -, hfull⟩
  · rw [current_of_failed hfailed, hfailed]
    rfl
  · rw [current_of_full hfull, hfull]
    rfl

/-- What is current is of its URL, and its text is one of those that are digested. -/
lemma current_ok {history : List Request} {request : Request} {body : CapabilityBody}
    (hmem : request ∈ history) (h : current sha256 kind request = .ok body) :
    AtUrl sha256 request.url body ∧
      etagPayload (items body) ∈ digestedTexts sha256 kind history := by
  rcases get_cases sha256 kind request with ⟨exc, hfailed⟩ | ⟨served, hat, hfull⟩
  · rw [current_of_failed hfailed] at h
    cases h
  · rw [current_of_full hfull] at h
    obtain rfl := Except.ok.inj h
    refine ⟨hat, List.mem_filterMap.2 ⟨request, hmem, ?_⟩⟩
    simp only [hfull none, tagged]

/-- The tags that the endpoints answer with are recognised as they are. -/
lemma serves : (clientSetting sha256 kind).Serves where
  failed request sent error h := by
    rcases get_cases sha256 kind request with ⟨exc, hfailed⟩ | ⟨body, -, hfull⟩
    · have hcurrent : .error _ = Except.error error :=
        (current_of_failed hfailed).symm.trans h
      obtain rfl := Except.error.inj hcurrent
      exact hfailed sent
    · have hcurrent : Except.ok body = .error error := (current_of_full hfull).symm.trans h
      cases hcurrent
  answered request sent body h hknown := by
    rcases get_cases sha256 kind request with ⟨exc, hfailed⟩ | ⟨served, -, hfull⟩
    · have hcurrent : Except.ok body = .error _ := h.symm.trans (current_of_failed hfailed)
      cases hcurrent
    · obtain rfl : served = body := Except.ok.inj ((current_of_full hfull).symm.trans h)
      change get sha256 kind request sent = _ ∨ _ ∧ ∃ tag, get sha256 kind request sent = _
      rw [hfull sent]
      cases sent with
      | none => exact .inl rfl
      | some tag =>
        obtain ⟨-, earlier, -, htag⟩ := hknown tag rfl
        have hstrip : Text.strip tag = tag := by
          rw [htag]
          exact Text.strip_of_stripped (stripped_etagFor sha256 _)
        rw [tagged, hstrip]
        by_cases hsame : tag = etagFor sha256 (items served)
        · rw [if_pos hsame]
          exact .inr ⟨congrArg some hsame, _, rfl⟩
        · rw [if_neg hsame]
          exact .inl rfl

/-- Two current bodies of one URL have the same tag only if they are the same, or two digests begin
alike. -/
lemma distinguished {history : List Request}
    (hdigests : ∀ text ∈ digestedTexts sha256 kind history,
      ∀ text' ∈ digestedTexts sha256 kind history,
        shortDigest sha256 text = shortDigest sha256 text' → text = text') :
    (clientSetting sha256 kind).Distinguished history := by
  intro request hmem request' hmem' hurl body body' h h' htag
  have hurl' : request.url = request'.url := hurl
  obtain ⟨hat, htext⟩ := current_ok hmem h
  obtain ⟨hat', htext'⟩ := current_ok hmem' h'
  rw [← hurl'] at hat'
  exact hat.eq sha256 hat' (etagFor_injective htag (hdigests _ htext _ htext'))

/-- A client that keeps the last body of each URL with its tag, and sends the tag in
`If-None-Match`, sees at each request what a client without a cache sees, whatever is registered and
whichever token is presented between the requests, if no two texts that are served in the history
have digests that begin alike. -/
theorem revalidation_exact (sha256 : String → String) (kind : PyError → DispatchFailure)
    (history : List Request)
    (hdigests : ∀ text ∈ digestedTexts sha256 kind history,
      ∀ text' ∈ digestedTexts sha256 kind history,
        shortDigest sha256 text = shortDigest sha256 text' → text = text') :
    (clientSetting sha256 kind).shown (fun _ => none) history =
      history.map fun request => Revalidation.shows none (get sha256 kind request none) := by
  have hnothing : (clientSetting sha256 kind).Fetched history fun _ => none := by
    intro location tag body hheld
    cases hheld
  rw [Revalidation.Setting.shown_eq serves hnothing (List.Subset.refl _) (distinguished hdigests)]
  refine List.map_congr_left fun request _ => ?_
  exact (shows_current request).symm

/-! ### A worker that registers -/

/-- The hexadecimal SHA-256 of the two texts below. -/
def sha256OfTexts (text : String) : String :=
  if text = "[]" then "4f53cda18c2baa0c0354bb5f9a3ecbe5ed12ab4d8e11ba873c2f11161202b945"
  else "637aa4b03e625e25ecfaaca7df7be579cd07a8bd6e24e28c1a36ac8fe7f1b5cc"

/-- A listing before the worker registers and two after, a lookup, and a listing that is refused. -/
def registering : List Request :=
  let before := CapabilityService.init .empty (some "admin")
  let after := CapabilityService.init
    (NodeRegistry.registered [CapabilityService.tagged]) (some "admin")
  [⟨before, .listing false, none⟩, ⟨after, .listing false, none⟩, ⟨after, .listing false, none⟩,
    ⟨after, .lookup "Score", none⟩, ⟨after, .listing true, none⟩]

/-- The third answer has no body, and the client shows the one it keeps. -/
theorem revalidation_exact_registering :
    (clientSetting sha256OfTexts fun _ => .other).shown (fun _ => none) registering =
      registering.map fun request =>
        Revalidation.shows none (get sha256OfTexts (fun _ => .other) request none) :=
  revalidation_exact sha256OfTexts (fun _ => .other) registering (by decide +kernel)

end CapabilityEndpoint

end ConstellationGate
