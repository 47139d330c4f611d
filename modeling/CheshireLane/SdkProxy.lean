import Mathlib.Tactic.Common

/-!
# Redirecting SDK requests

The proxy forwards requests to the SDK hosts to the configured upstream. It sets two
parts of the request's URI and puts the parts together again, which only works out
if the URI had a path.
-/

namespace CheshireLane

/-- The parts of a URI. -/
structure Parts (Scheme Authority PathAndQuery : Type) where
  scheme : Option Scheme
  authority : Option Authority
  pathAndQuery : Option PathAndQuery

/-- The URIs of the HTTP library, as far as the proxy relies on them. -/
structure HttpUri (Uri Scheme Authority PathAndQuery : Type) where
  http : Scheme
  authorityHost : Authority → String
  intoParts : Uri → Parts Scheme Authority PathAndQuery
  fromParts : Parts Scheme Authority PathAndQuery → Option Uri
  /-- Absolute, origin or asterisk, and authority form. -/
  forms : ∀ uri, (∃ scheme authority path, intoParts uri = ⟨some scheme, some authority, some path⟩) ∨
    (∃ path, intoParts uri = ⟨none, none, some path⟩) ∨
    ∃ authority, intoParts uri = ⟨none, some authority, none⟩
  complete : ∀ scheme authority path, ∃ uri,
    fromParts ⟨some scheme, some authority, some path⟩ = some uri ∧
      intoParts uri = ⟨some scheme, some authority, some path⟩
  incomplete : ∀ scheme authority path, authority = none ∨ path = none →
    fromParts ⟨some scheme, authority, path⟩ = none

/-- `str::eq_ignore_ascii_case`. -/
def eqIgnoreAsciiCase (left right : String) : Bool :=
  left.toList.map Char.toLower == right.toList.map Char.toLower

/-- `SDK_HOSTS`. -/
def sdkHosts : List String := ["jp-sdk-api.yostarplat.com", "en-sdk-api.yostarplat.com"]

/-- `is_sdk_host`: host names do not depend on case. -/
def isSdkHost (host : String) : Bool := sdkHosts.any (eqIgnoreAsciiCase host)

section handler

variable {Uri Scheme Authority PathAndQuery : Type}

/-- A request that passes the proxy. -/
structure ProxyRequest (Uri : Type) where
  method : String
  uri : Uri

/-- `SdkRedirectHandler`. -/
structure SdkRedirectHandler (Uri Scheme Authority PathAndQuery : Type) where
  library : HttpUri Uri Scheme Authority PathAndQuery
  upstream : Authority

namespace SdkRedirectHandler

variable (handler : SdkRedirectHandler Uri Scheme Authority PathAndQuery)

/-- The host of a request, if its address has an authority. -/
def host (uri : Uri) : Option String :=
  (handler.library.intoParts uri).authority.map handler.library.authorityHost

/-- An error is a panic. -/
def rewriteUri (uri : Uri) : Except String (Option Uri) :=
  match handler.host uri with
  | none => .ok none
  | some host =>
    if isSdkHost host then
      let parts := { handler.library.intoParts uri with
        scheme := some handler.library.http
        authority := some handler.upstream }
      match handler.library.fromParts parts with
      | some uri => .ok (some uri)
      | none => .error "proxy upstream must produce a valid URI"
    else .ok none

/-- `handle_request`: `CONNECT` is left alone, everything else goes through `rewrite_uri`. -/
def handleRequest (request : ProxyRequest Uri) : Except String (ProxyRequest Uri) :=
  if request.method = "CONNECT" then .ok request
  else do
    match ← handler.rewriteUri request.uri with
    | some uri => return { request with uri }
    | none => return request

/-- `should_intercept`: only tunnels to the two hosts are opened. -/
def shouldIntercept (request : ProxyRequest Uri) : Bool :=
  (handler.host request.uri).any isSdkHost

/-- A URI that is an authority alone. -/
def AuthorityForm (uri : Uri) : Prop :=
  ∃ authority, handler.library.intoParts uri = ⟨none, some authority, none⟩

/-- The request is forwarded, an SDK request to the upstream and any other as it is,
and rewritten just when it is intercepted. -/
def Redirected (request : ProxyRequest Uri) : Prop :=
  ∃ uri, handler.handleRequest request = .ok ⟨request.method, uri⟩ ∧
    ((handler.host request.uri).any isSdkHost = true →
      handler.library.intoParts uri = ⟨some handler.library.http, some handler.upstream,
        (handler.library.intoParts request.uri).pathAndQuery⟩) ∧
    ((handler.host request.uri).any isSdkHost = false → uri = request.uri) ∧
    ((∃ new, handler.rewriteUri request.uri = .ok (some new)) ↔ handler.shouldIntercept request = true)

variable {handler}

/-- Other hosts are left alone. -/
theorem rewrite_other {uri : Uri} (other : (handler.host uri).any isSdkHost = false) :
    handler.rewriteUri uri = .ok none := by
  unfold rewriteUri
  cases named : handler.host uri with
  | none => rfl
  | some host =>
    rw [named, Option.any_some] at other
    simp only [other, Bool.false_eq_true, ↓reduceIte]

/-- An SDK host is replaced by the upstream, if there is a path. -/
theorem rewrite_sdk {uri : Uri} (sdk : (handler.host uri).any isSdkHost = true) :
    handler.rewriteUri uri =
      match handler.library.fromParts ⟨some handler.library.http, some handler.upstream,
        (handler.library.intoParts uri).pathAndQuery⟩ with
      | some uri => .ok (some uri)
      | none => .error "proxy upstream must produce a valid URI" := by
  unfold rewriteUri
  cases named : handler.host uri with
  | none => simp [named] at sdk
  | some host =>
    rw [named, Option.any_some] at sdk
    simp only [sdk, ↓reduceIte]

/-- A URI without a path is an authority. -/
theorem authority_form_iff (uri : Uri) : handler.AuthorityForm uri ↔
    (handler.library.intoParts uri).pathAndQuery = none := by
  unfold AuthorityForm
  rcases handler.library.forms uri with
    ⟨scheme, authority, path, parts⟩ | ⟨path, parts⟩ | ⟨authority, parts⟩
  · simp [parts]
  · simp [parts]
  · simp [parts]

/-- Every request but a tunnel is redirected, if and only if it does not name an SDK host by an
authority alone.

Only an address in authority form has no path, and only without a path do the parts not make an
address. -/
theorem redirected_iff (handler : SdkRedirectHandler Uri Scheme Authority PathAndQuery)
    (request : ProxyRequest Uri) (method : request.method ≠ "CONNECT") :
    handler.Redirected request ↔
      ¬ (handler.AuthorityForm request.uri ∧ (handler.host request.uri).any isSdkHost = true) := by
  cases sdk : (handler.host request.uri).any isSdkHost with
  | false =>
    have rewritten := rewrite_other sdk
    refine iff_of_true ⟨request.uri, ?_, ?_, fun _ => rfl, ?_⟩ (fun both => nomatch both.2)
    · simp only [handleRequest, if_neg method, rewritten]
      rfl
    · rw [sdk]
      nofun
    · rw [rewritten, shouldIntercept, sdk]
      simp
  | true =>
    have rewritten := rewrite_sdk sdk
    rw [and_iff_left rfl, authority_form_iff]
    cases path : (handler.library.intoParts request.uri).pathAndQuery with
    | none =>
      have fails := handler.library.incomplete handler.library.http (some handler.upstream) none (.inr rfl)
      rw [path, fails] at rewritten
      refine iff_of_false ?_ (fun absent => absent rfl)
      rintro ⟨uri, forwarded, _⟩
      simp only [handleRequest, if_neg method, rewritten] at forwarded
      cases forwarded
    | some path' =>
      obtain ⟨uri, built, parts⟩ :=
        handler.library.complete handler.library.http handler.upstream path'
      rw [path, built] at rewritten
      refine iff_of_true ⟨uri, ?_, fun _ => path ▸ parts, ?_, ?_⟩ nofun
      · simp only [handleRequest, if_neg method, rewritten]
        rfl
      · rw [sdk]
        nofun
      · rw [rewritten, shouldIntercept, sdk]
        simp

end SdkRedirectHandler

end handler

/-- The target of a request line. An asterisk is a path. -/
inductive RequestTarget where
  | absolute (scheme authority path : String)
  | origin (path : String)
  | authority (authority : String)

/-- Targets made of texts. The host ends in front of the port. -/
def RequestTarget.library : HttpUri RequestTarget String String String where
  http := "http"
  authorityHost authority := String.ofList (authority.toList.takeWhile (· ≠ ':'))
  intoParts
    | .absolute scheme server path => ⟨some scheme, some server, some path⟩
    | .origin path => ⟨none, none, some path⟩
    | .authority server => ⟨none, some server, none⟩
  fromParts
    | ⟨some scheme, some server, some path⟩ => some (.absolute scheme server path)
    | ⟨none, none, some path⟩ => some (.origin path)
    | ⟨none, some server, none⟩ => some (.authority server)
    | _ => none
  forms
    | .absolute scheme server path => .inl ⟨scheme, server, path, rfl⟩
    | .origin path => .inr (.inl ⟨path, rfl⟩)
    | .authority server => .inr (.inr ⟨server, rfl⟩)
  complete scheme server path := ⟨.absolute scheme server path, rfl, rfl⟩
  incomplete scheme server path missing := by
    rcases missing with rfl | rfl
    · rfl
    · cases server <;> rfl

/-- An ordinary SDK request is redirected. -/
theorem redirected_iff_config :
    let handler : SdkRedirectHandler RequestTarget String String String :=
      ⟨RequestTarget.library, "127.0.0.1:21080"⟩
    handler.Redirected
      ⟨"GET", .absolute "https" "jp-sdk-api.yostarplat.com" "/common/config?lang=ja"⟩ := by
  intro handler
  refine (handler.redirected_iff _ (by decide)).mpr ?_
  rintro ⟨⟨authority, parts⟩, _⟩
  exact absurd (congrArg Parts.scheme parts) nofun

/-- A request for the host alone ends in a panic. The host is one of the two, so the request is
intercepted; but there is no path to build the new address from. -/
theorem sdk_authority_panics :
    let handler : SdkRedirectHandler RequestTarget String String String :=
      ⟨RequestTarget.library, "127.0.0.1:21080"⟩
    let request : ProxyRequest RequestTarget := ⟨"GET", .authority "jp-sdk-api.yostarplat.com:443"⟩
    (handler.host request.uri).any isSdkHost = true ∧
      handler.handleRequest request = .error "proxy upstream must produce a valid URI" ∧
      ¬ handler.Redirected request := by
  intro handler request
  have sdk : (handler.host request.uri).any isSdkHost = true := by decide
  have panics : handler.handleRequest request =
      .error "proxy upstream must produce a valid URI" := by
    simp only [SdkRedirectHandler.handleRequest, SdkRedirectHandler.rewrite_sdk sdk]
    rfl
  refine ⟨sdk, panics, ?_⟩
  rintro ⟨uri, forwarded, _⟩
  rw [panics] at forwarded
  cases forwarded

end CheshireLane
