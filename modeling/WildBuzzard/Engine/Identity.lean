import WildBuzzard.Dom.Script
import WildBuzzard.Lib.Checked
import WildBuzzard.Lib.NonZero
import WildBuzzard.Lib.Utf8

/-!
# Identities and records at the engine boundary

What the navigation engine and the browser session tell each other: contexts, navigations, requests,
commitments and failures. A text is the list of its characters.

Parsing a URL is the work of an external crate: `UrlParser` is its one function that is used here.

**A commitment carries its bounds**: there is no `NavigationCommitMetadata` with an empty or an
oversized final URL, as in the source, whose constructors all check it.
-/

namespace WildBuzzard.Engine

open Lib

/-- Source: `MAX_NAVIGATION_URL_BYTES` -/
def maxNavigationUrlBytes : ℕ := 16 * 1024

/-- Source: `MAX_TOP_LEVEL_REDIRECTS` -/
def maxTopLevelRedirects : ℕ := 10

/-! ## Identities -/

/-- Source: `TopLevelContextId` -/
structure TopLevelContextId where
  id : NonZero ℕ
  deriving DecidableEq, Repr

namespace TopLevelContextId

/-- Source: `TopLevelContextId::new` -/
def new (raw : ℕ) : Option TopLevelContextId := (NonZero.new raw).map TopLevelContextId.mk

/-- Source: `TopLevelContextId::get` -/
def get (context : TopLevelContextId) : ℕ := context.id.get

end TopLevelContextId

/-- Source: `NavigationGeneration` -/
structure NavigationGeneration where
  id : NonZero ℕ
  deriving DecidableEq, Repr

namespace NavigationGeneration

/-- Source: `NavigationGeneration::INITIAL` -/
def initial : NavigationGeneration := ⟨⟨1, Nat.one_ne_zero⟩⟩

/-- Source: `NavigationGeneration::new` -/
def new (raw : ℕ) : Option NavigationGeneration := (NonZero.new raw).map NavigationGeneration.mk

/-- Source: `NavigationGeneration::get` -/
def get (generation : NavigationGeneration) : ℕ := generation.id.get

/-- Source: `NavigationGeneration::checked_next` -/
def checkedNext (generation : NavigationGeneration) : Option NavigationGeneration :=
  (checkedAdd generation.get 1).bind new

lemma get_of_checkedNext {g next : NavigationGeneration} (h : g.checkedNext = some next) :
    next.get = g.get + 1 := by
  obtain ⟨raw, hraw, hnew⟩ := Option.bind_eq_some_iff.mp h
  obtain ⟨-, rfl⟩ := checkedAdd_eq_some.mp hraw
  cases hnew
  rfl

end NavigationGeneration

/-- Source: `NavigationId` -/
structure NavigationId where
  context : TopLevelContextId
  generation : NavigationGeneration
  deriving DecidableEq, Repr

/-- Source: `DocumentOperationId` -/
structure DocumentOperationId where
  owner : NonZero ℕ
  sequence : NonZero ℕ
  deriving DecidableEq, Repr

/-! ## Requests and commitments -/

/-- Source: `NavigationNetworkCapability` -/
inductive NavigationNetworkCapability where
  | numericLoopback
  | generalWeb
  deriving DecidableEq, Repr

/-- Source: `NavigationTlsVersion` -/
inductive NavigationTlsVersion where
  | tls12
  | tls13
  deriving DecidableEq, Repr

/-- Source: `NavigationAlpn` -/
inductive NavigationAlpn where
  | http11
  | notNegotiated
  deriving DecidableEq, Repr

/-- Source: `NavigationConnectionSecurity` -/
inductive NavigationConnectionSecurity where
  | unverified
  | cleartext
  | authenticatedTls (version : NavigationTlsVersion) (alpn : NavigationAlpn)
  deriving DecidableEq, Repr

/-- Source: `NavigationRequestError` -/
inductive NavigationRequestError where
  | emptyUrl
  | urlTooLong (actual maximum : ℕ)
  deriving DecidableEq, Repr

/-- A URL the engine takes: not empty and within the byte bound. -/
def AdmissibleUrl (url : List Char) : Prop := url ≠ [] ∧ byteLen url ≤ maxNavigationUrlBytes

instance (url : List Char) : Decidable (AdmissibleUrl url) := inferInstanceAs (Decidable (_ ∧ _))

/-- The bound on URLs that requests and commitments check on construction. -/
def checkUrl (url : List Char) : Except NavigationRequestError (PLift (AdmissibleUrl url)) :=
  if hempty : url = [] then .error .emptyUrl
  else if hlong : byteLen url ≤ maxNavigationUrlBytes then .ok ⟨⟨hempty, hlong⟩⟩
  else .error (.urlTooLong (byteLen url) maxNavigationUrlBytes)

/-- Source: `NavigationRequest` -/
structure NavigationRequest where
  url : List Char
  networkCapability : NavigationNetworkCapability
  admissible : AdmissibleUrl url
  deriving DecidableEq, Repr

/-- Source: `NavigationRequest::with_network_capability` -/
def NavigationRequest.withNetworkCapability (url : List Char)
    (networkCapability : NavigationNetworkCapability) :
    Except NavigationRequestError NavigationRequest :=
  (checkUrl url).map fun h => ⟨url, networkCapability, h.down⟩

/-- Source: `NavigationRequest::new` -/
def NavigationRequest.new (url : List Char) : Except NavigationRequestError NavigationRequest :=
  NavigationRequest.withNetworkCapability url .numericLoopback

/-- Source: `NavigationRequest::general_web` -/
def NavigationRequest.generalWeb (url : List Char) :
    Except NavigationRequestError NavigationRequest :=
  NavigationRequest.withNetworkCapability url .generalWeb

/-- Source: `NavigationCommitMetadata`, without the response authority, which the browser session
never reads. -/
structure NavigationCommitMetadata where
  finalUrl : List Char
  redirectCount : ℕ
  security : NavigationConnectionSecurity
  hadHttpsDowngrade : Bool
  admissible : AdmissibleUrl finalUrl
  deriving DecidableEq, Repr

/-- Source: `NavigationCommitMetadata::new` -/
def NavigationCommitMetadata.new (finalUrl : List Char) (redirectCount : ℕ)
    (security : NavigationConnectionSecurity) (hadHttpsDowngrade : Bool) :
    Except NavigationRequestError NavigationCommitMetadata :=
  (checkUrl finalUrl).map fun h => ⟨finalUrl, redirectCount, security, hadHttpsDowngrade, h.down⟩

/-- Source: `WebScheme` -/
inductive WebScheme where
  | http
  | https
  deriving DecidableEq, Repr

/-- The external URL parser: the canonical spelling and the scheme of a credential-free HTTP(S) URL.
Source: `GeneralWebTarget::parse_navigation` -/
class UrlParser where
  parseNavigation : List Char → Option (List Char × WebScheme)

/-- Source: `NavigationCommitValidationError`, the variants of the structural check. -/
inductive NavigationCommitValidationError where
  | invalidFinalUrl
  | nonCanonicalFinalUrl
  | tooManyRedirects
  | unverifiedSecurity
  | schemeSecurityMismatch
  deriving DecidableEq, Repr

/-- Source: `NavigationCommitMetadata::validate_general_web` -/
def NavigationCommitMetadata.validateGeneralWeb [UrlParser]
    (commitment : NavigationCommitMetadata) : Except NavigationCommitValidationError Unit :=
  if maxTopLevelRedirects < commitment.redirectCount then .error .tooManyRedirects
  else
    match UrlParser.parseNavigation commitment.finalUrl with
    | none => .error .invalidFinalUrl
    | some (identity, scheme) =>
      if identity ≠ commitment.finalUrl then .error .nonCanonicalFinalUrl
      else
        match scheme, commitment.security with
        | _, .unverified => .error .unverifiedSecurity
        | .http, .cleartext => .ok ()
        | .https, .authenticatedTls _ _ => .ok ()
        | .http, .authenticatedTls _ _ => .error .schemeSecurityMismatch
        | .https, .cleartext => .error .schemeSecurityMismatch

lemma checkUrl_of_admissible {url : List Char} (h : AdmissibleUrl url) :
    checkUrl url = .ok ⟨h⟩ := by
  unfold checkUrl
  rw [dif_neg h.1, dif_pos h.2]

/-! ## Failures -/

/-- Source: `NavigationStage` -/
inductive NavigationStage where
  | fetch
  | document
  | style
  | layout
  | render
  | shutdown
  deriving DecidableEq, Repr

/-- Source: `ExecutionFailureKind` -/
inductive ExecutionFailureKind where
  | cancelled
  | deadlineExceeded
  | rejected
  | network
  | document
  | rendering
  | resourceLimit
  | internal
  deriving DecidableEq, Repr

/-- Source: `ExecutionFailure` -/
structure ExecutionFailure where
  kind : ExecutionFailureKind
  stage : NavigationStage
  rendererUnusable : Bool
  deriving DecidableEq, Repr

/-- Source: `DocumentOperationFailure` -/
inductive DocumentOperationFailure where
  | noLiveDocument
  | rendererUnavailable
  | versionMismatch
  | mutationRejected
  | cancelled
  | deadlineExceeded
  | document
  | rendering
  | resourceLimit
  | internal
  deriving DecidableEq, Repr

/-- A document identity and a revision of it.
Source: `DocumentVersion` -/
structure DocumentVersion where
  documentId : ℕ
  revision : ℕ
  deriving DecidableEq, Repr

/-- Source: `CommandErrorKind` -/
inductive CommandErrorKind where
  | queueFull (capacity : ℕ)
  | initialGenerationRequired
  | nonMonotonicGeneration (latest : NavigationGeneration)
  | generationExhausted
  | contextLimitReached (maximum : ℕ)
  | contextIdentityRetired (latest : TopLevelContextId)
  | unknownContext
  | notCurrentNavigation
  | noActiveNavigation
  | noActiveDocumentOperation
  | notCurrentDocumentOperation (current : DocumentOperationId)
  | documentOperationNavigationMismatch (current : NavigationId)
  | documentOperationIdentityExhausted
  | contextBusy
  | noLiveDocument
  | documentNavigationMismatch (current : NavigationId)
  | documentVersionMismatch (live : DocumentVersion)
  | mutationPayloadLimit (kind : Dom.ScriptMutationLimitKind) (maximum actual : ℕ)
  | retainedDocumentNodeLimit (maximum : ℕ)
  | mutationResultNodeLimit (maximum : ℕ)
  | mutationPayloadBudget (maximum : ℕ)
  | contextClosing
  | eventReceiverDropped
  | shuttingDown
  deriving DecidableEq, Repr

/-- Why a one-shot transfer was refused.
Source: `FrameLeaseError`, `NavigationCommitError`, `MutationResultLeaseError` -/
inductive LeaseError where
  | stale
  | unknown
  | receiverClosed
  deriving DecidableEq, Repr

end WildBuzzard.Engine
