import WildBuzzard.Net.AddressSpace
import WildBuzzard.Net.Decoding

/-!
# The general web client

`execute_internal` resolves a host, connects to one of its addresses, and reads the head of a
response. What the network does is an input, a `Network`: what the checks for cancellation and
deadlines find, what the resolver answers, and what becomes of each connection. The sockets that
were attempted are logged.

Every connection runs through the loop of `connect_transport`, with its checks in the source's
order; the waits of a connect attempt are events of its `Connection`, and once they are used up the
timeout has passed. Client capabilities are compared by identity, here by a number.
-/

namespace WildBuzzard.Net

open Lib

/-! ## Requests and responses -/

/-- Source: `WebScheme`. -/
inductive WebScheme where
  | http
  | https
  deriving DecidableEq, Repr

/-- Source: `WebHost`. -/
inductive WebHost where
  | domain (name : String)
  | ip (address : IpAddr)
  deriving DecidableEq, Repr

/-- Source: `WebOrigin`, without the text of the authority. -/
structure WebOrigin where
  scheme : WebScheme
  host : WebHost
  port : UInt16
  deriving DecidableEq, Repr

/-- Source: `GeneralWebTarget`, by its origin. -/
structure GeneralWebTarget where
  origin : WebOrigin
  deriving DecidableEq, Repr

/-- Source: `TlsVersion`. -/
inductive TlsVersion where
  | tls12
  | tls13
  deriving DecidableEq, Repr

/-- Source: `AlpnOutcome`. -/
inductive AlpnOutcome where
  | http11
  | notNegotiated
  deriving DecidableEq, Repr

/-- Source: `ConnectionSecurity`. -/
inductive ConnectionSecurity where
  | cleartext
  | tls (version : TlsVersion) (alpn : AlpnOutcome)
  deriving DecidableEq, Repr

/-- Source: `CommittedResponseAuthority`. -/
structure CommittedResponseAuthority where
  clientIdentity : Nat
  target : GeneralWebTarget
  security : ConnectionSecurity
  addressSpace : IpAddressSpace
  deriving DecidableEq, Repr

/-- Source: `CommittedResponseAuthority::is_issued_by`. -/
def CommittedResponseAuthority.isIssuedBy (authority : CommittedResponseAuthority)
    (clientIdentity : Nat) : Bool := authority.clientIdentity = clientIdentity

/-- Source: `InitiatorAddressSpaceEvidence`. -/
inductive InitiatorAddressSpaceEvidence where
  | browserNavigation (clientIdentity : Nat)
  | committedDocument (authority : CommittedResponseAuthority)
  deriving DecidableEq, Repr

/-- Source: `GeneralWebNetworkAccess`. -/
structure GeneralWebNetworkAccess where
  initiator : InitiatorAddressSpaceEvidence
  permissions : LocalNetworkAccessPermissions
  deriving DecidableEq, Repr

/-- Source: `GeneralWebNetworkAccess::parent_address_space`. -/
def GeneralWebNetworkAccess.parentAddressSpace (access : GeneralWebNetworkAccess)
    (clientIdentity : Nat) : Except GeneralWebPolicyError IpAddressSpace :=
  match access.initiator with
  | .browserNavigation expected =>
    if expected = clientIdentity then .ok .localSpace else .error .invalidInitiatorEvidence
  | .committedDocument authority =>
    if authority.isIssuedBy clientIdentity then .ok authority.addressSpace
    else .error .invalidInitiatorEvidence

/-- Source: `GeneralWebConfig`, without the timeouts. -/
structure GeneralWebConfig where
  http : ClientConfig
  maxDnsCandidates : UInt64
  maxConnectionAttempts : UInt64
  deriving DecidableEq, Repr

/-- Source: `GeneralWebRequest`, without what is written to the peer. -/
structure GeneralWebRequest where
  method : Method
  target : GeneralWebTarget
  networkAccess : GeneralWebNetworkAccess
  redirectPolicy : RedirectPolicy
  deriving DecidableEq, Repr

/-- Source: `GeneralWebResponse`. -/
structure GeneralWebResponse where
  response : Response
  authority : CommittedResponseAuthority
  deriving DecidableEq, Repr

/-- Source: `GeneralWebClient`, without the resolver and the trust anchors. -/
structure GeneralWebClient where
  config : GeneralWebConfig
  clientIdentity : Nat
  deriving DecidableEq, Repr

/-- Source: `InternalExecutionError`. -/
inductive InternalExecutionError where
  | policy (error : GeneralWebPolicyError)
  | transport (error : Error)
  deriving DecidableEq, Repr

/-- Source: `GeneralWebClient::network_access_for_committed_response`. -/
def GeneralWebClient.networkAccessForCommittedResponse (client : GeneralWebClient)
    (authority : CommittedResponseAuthority) (permissions : LocalNetworkAccessPermissions) :
    Except GeneralWebPolicyError GeneralWebNetworkAccess :=
  if authority.isIssuedBy client.clientIdentity then
    .ok { initiator := .committedDocument authority, permissions }
  else .error .invalidInitiatorEvidence

/-! ## The network -/

/-- One wait for a connection that was started. -/
inductive Wait where
  /-- The connect timeout or the deadline has passed. -/
  | expired
  /-- The poll fails. -/
  | pollFailure (kind : IoErrorKind)
  /-- The poll returns without an event of the socket. -/
  | idle
  /-- The socket reports an error. -/
  | socketError (failure : IoFailure)
  /-- The socket has a peer, or why it has none. -/
  | peer (address : Except IoErrorKind SocketAddr)
  deriving Repr

/-- What becomes of one connection. -/
structure Connection where
  /-- Whether the socket can be opened. -/
  start : Except IoFailure Unit
  waits : List Wait
  /-- Whether the socket can be turned into a blocking one. -/
  intoStd : Except IoFailure Unit
  /-- What comes of the TLS handshake. -/
  handshake : Except Error ConnectionSecurity
  /-- What comes of writing the request. -/
  written : Except Error Unit
  /-- What the reads of the socket return. -/
  script : List SocketEvent
  deriving Repr

/-- A connection that is refused. -/
def Connection.refused : Connection :=
  { start := .error (.kind (.other 0)), waits := [], intoStd := .ok (), handshake := .ok .cleartext,
    written := .ok (), script := [] }

/-- What the network and the caller do during a request, and the sockets that were attempted. -/
structure Network where
  /-- What the looks at the cancellation token and the deadline find. -/
  checks : List Control
  /-- What the resolver answers. -/
  answer : Except Error (List IpAddr)
  /-- What becomes of the next connections; any other is refused. -/
  connections : List Connection
  attempts : List SocketAddr
  deriving Repr

namespace Network

/-- Source: `check_control`. -/
def checkControl (operation : Operation) : Call Network Error Unit := fun net =>
  match net.checks with
  | [] => .ok () net
  | .proceed :: rest => .ok () { net with checks := rest }
  | .cancelled :: rest => .err .cancelled { net with checks := rest }
  | .deadline :: rest => .err (.timeout operation) { net with checks := rest }

/-- A socket to the address is attempted. -/
def attempt (address : SocketAddr) : Call Network Error Connection := fun net =>
  let connection := net.connections.head?.getD .refused
  .ok connection
    { net with connections := net.connections.tail, attempts := net.attempts ++ [address] }

end Network

variable (address : SocketAddr)

/-- Whether the connection stands. Source: `MioConnectAttempt::poll_connected`. -/
def pollConnected : Wait → Except Error Bool
  | .expired => .error (.timeout .connect)
  | .pollFailure .interrupted => .ok false
  | .pollFailure kind => .error (.ofIo .connect (.kind kind))
  | .idle => .ok false
  | .socketError failure => .error (.ofIo .connect failure)
  | .peer (.ok peer) =>
    if peer = address then .ok true else .error (.ofIo .connect (.kind .invalidData))
  | .peer (.error .notConnected) => .ok false
  | .peer (.error .wouldBlock) => .ok false
  | .peer (.error kind) => .error (.ofIo .connect (.kind kind))

/-- The loop of `drive_connect_attempt`: one wait a round, until the timeout has passed. -/
def awaitConnected (address : SocketAddr) : List Wait → Call Network Error Unit
  | [] => do
    Network.checkControl .connect
    Call.fail (.timeout .connect)
  | wait :: rest => do
    Network.checkControl .connect
    let connected ← Call.ofExcept (pollConnected address wait)
    if connected then Network.checkControl .connect
    else awaitConnected address rest

/-- Source: `drive_connect_attempt`. -/
def driveConnectAttempt : Call Network Error Connection := do
  Network.checkControl .connect
  let connection ← Network.attempt address
  Call.ofExcept (connection.start.mapError (Error.ofIo .connect))
  awaitConnected address connection.waits
  pure connection

/-- Source: `connect_general_interruptible`. -/
def connectGeneralInterruptible : Call Network Error Connection := do
  let connection ← driveConnectAttempt address
  Call.ofExcept (connection.intoStd.mapError (Error.ofIo .connect))
  pure connection

/-- The addresses without repetitions, if they are not too many. Source: `collect_bounded_unique`. -/
def collectBoundedUnique (limit : UInt64) : List IpAddr → List IpAddr → Except Error (List IpAddr)
  | normalized, [] =>
    if normalized = [] then .error (.dns .noRecords) else .ok normalized
  | normalized, address :: rest =>
    if address ∈ normalized then collectBoundedUnique limit normalized rest
    else if normalized.length = limit.toNat then .error (.limitExceeded .dnsCandidates limit)
    else collectBoundedUnique limit (normalized ++ [address]) rest

/-- Source: `normalize_addresses`. -/
def normalizeAddresses (addresses : List IpAddr) (port : UInt16) (limit : UInt64) :
    Except Error (List SocketAddr) := do
  let addresses ← collectBoundedUnique limit [] addresses
  return addresses.map fun address => { ip := address, port }

/-! ## Execution -/

/-- What the loop of `connect_transport` remembers of the addresses it has tried. -/
structure ConnectProgress where
  attempted : Nat
  lastIoKind : Option IoErrorKind
  lastTlsError : Option Error
  deriving DecidableEq, Repr

variable (progress : ConnectProgress)

/-- Why no address could be connected. Source: the end of `connect_transport`. -/
def ConnectProgress.failure (addressCount : Nat) (attemptLimit : UInt64) : Error :=
  if addressCount > attemptLimit.toNat then .limitExceeded .connectionAttempts attemptLimit
  else progress.lastTlsError.getD
    (.connectAttemptsExhausted progress.attempted progress.lastIoKind)

/-- How `connect_transport` takes the failure of one address. -/
inductive Reaction where
  /-- The request fails. -/
  | stop (error : Error)
  /-- The next address is tried, unless the request was cancelled or its deadline has passed. -/
  | recheck (operation : Operation) (progress : ConnectProgress)
  /-- The next address is tried. -/
  | next (progress : ConnectProgress)
  deriving DecidableEq, Repr

/-- Source: the errors of `connect_general_interruptible` in `connect_transport`. -/
def ConnectProgress.connectFailed : Error → Reaction
  | .cancelled => .stop .cancelled
  | .timeout .connect => .recheck .connect { progress with lastIoKind := some .timedOut }
  | .io .connect kind => .next { progress with lastIoKind := some kind }
  | error => .stop error

/-- Source: the errors of `establish_tls` in `connect_transport`. -/
def ConnectProgress.handshakeFailed : Error → Reaction
  | .cancelled => .stop .cancelled
  | .timeout .tlsHandshake =>
    .recheck .tlsHandshake { progress with lastTlsError := some (.timeout .tlsHandshake) }
  | .tls failure => .next { progress with lastTlsError := some (.tls failure) }
  | .io operation kind => .next { progress with lastTlsError := some (.io operation kind) }
  | .limitExceeded kind limit =>
    .next { progress with lastTlsError := some (.limitExceeded kind limit) }
  | error => .stop error

/-- A step of the transport inside the execution of a request. -/
def transport {α : Type} (m : Call Network Error α) : Call Network InternalExecutionError α :=
  Call.mapError .transport m

namespace GeneralWebClient

variable (client : GeneralWebClient) (request : GeneralWebRequest)

/-- Source: `GeneralWebClient::resolve_addresses`. -/
def resolveAddresses : Call Network Error (List SocketAddr) :=
  match request.target.origin.host with
  | .ip address => do
    Network.checkControl .connect
    pure [{ ip := address, port := request.target.origin.port }]
  | .domain _ => do
    Network.checkControl .resolveDns
    let net ← Call.read
    let addresses ← Call.ofExcept net.answer
    Call.ofExcept
      (normalizeAddresses addresses request.target.origin.port client.config.maxDnsCandidates)

/-- Go on with the next address, if at all. -/
def react {α : Type} (next : ConnectProgress → Call Network InternalExecutionError α) :
    Reaction → Call Network InternalExecutionError α
  | .stop error => Call.fail (.transport error)
  | .recheck operation progress => do
    transport (Network.checkControl operation)
    next progress
  | .next progress => next progress

/-- The loop of `connect_transport` over the addresses; it ends with `failure`. -/
def connectAddresses (request : GeneralWebRequest) (parent : IpAddressSpace)
    (failure : ConnectProgress → Error) : List SocketAddr → ConnectProgress →
      Call Network InternalExecutionError (Connection × ConnectionSecurity × IpAddressSpace)
  | [], progress => Call.fail (.transport (failure progress))
  | address :: rest, progress => do
    let space := classifyIpAddressSpace address.ip
    Call.ofExcept ((authorizeAddressSpaceTransition parent space
      request.networkAccess.permissions).mapError .policy)
    let progress := { progress with attempted := progress.attempted + 1 }
    match ← Call.settle Except.ok Except.error (connectGeneralInterruptible address) with
    | .error error =>
      react (connectAddresses request parent failure rest) (progress.connectFailed error)
    | .ok connection =>
      if request.target.origin.scheme = .http then pure (connection, .cleartext, space)
      else
        match connection.handshake with
        | .error error =>
          react (connectAddresses request parent failure rest)
            (progress.handshakeFailed error)
        | .ok security => pure (connection, security, space)

/-- Source: `GeneralWebClient::connect_transport`. -/
def connectTransport (addresses : List SocketAddr) (parent : IpAddressSpace) :
    Call Network InternalExecutionError (Connection × ConnectionSecurity × IpAddressSpace) := do
  let attemptLimit := client.config.maxConnectionAttempts
  Call.check (attemptLimit ≠ 0) (.transport (.limitExceeded .connectionAttempts attemptLimit))
  connectAddresses request parent (·.failure addresses.length attemptLimit)
    (addresses.take attemptLimit.toNat)
    { attempted := 0, lastIoKind := none, lastTlsError := none }

/-- Read the head of the response from the connection. Source: `execute_prepared`. -/
def respond (connection : Connection) : Call Network Error Response := fun net =>
  match executePrepared request.method request.redirectPolicy client.config.http
      connection.written (.new connection.script net.checks) with
  | .ok response s => .ok response { net with checks := s.reader.checks }
  | .err error s => .err error { net with checks := s.reader.checks }
  | .halt reason => .halt reason

/-- The response to a request; `prepared` is what came of preparing it (`prepare_request`).
Source: `GeneralWebClient::execute_internal`. -/
def executeInternal
    (prepared : Except Error Unit) : Call Network InternalExecutionError GeneralWebResponse := do
  Call.check (¬isRestrictedWebPort request.target.origin.port) (.policy .restrictedPort)
  let parent ← Call.ofExcept
    ((request.networkAccess.parentAddressSpace client.clientIdentity).mapError .policy)
  Call.ofExcept (prepared.mapError .transport)
  let addresses ← transport (client.resolveAddresses request)
  let (connection, security, addressSpace) ← client.connectTransport request addresses parent
  let response ← transport (client.respond request connection)
  pure
    { response
      authority :=
        { clientIdentity := client.clientIdentity, target := request.target, security,
          addressSpace } }

end GeneralWebClient

end WildBuzzard.Net
