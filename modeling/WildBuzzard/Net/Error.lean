/-!
# Errors of the network stack

The error type that the HTTP client, the body decoder and the general web client share. A text that
the source decodes leniently from peer bytes for a message is kept as those bytes.
-/

namespace WildBuzzard.Net

/-- Source: `LimitKind`. -/
inductive LimitKind where
  | urlBytes
  | headerBytes
  | headerCount
  | bodyBytes
  | chunkLineBytes
  | informationalResponses
  | requestHeadBytes
  | requestHeaderCount
  | requestBodyBytes
  | dnsCandidates
  | connectionAttempts
  | tlsHandshakeBytes
  deriving DecidableEq, Repr

/-- Source: `Operation`. -/
inductive Operation where
  | resolveDns
  | connect
  | writeRequest
  | readHead
  | readBody
  | tlsHandshake
  deriving DecidableEq, Repr

/-- Source: `DnsFailure`. -/
inductive DnsFailure where
  | configuration
  | invalidName
  | noRecords
  | lookup
  | runtime
  | runtimePoisoned
  deriving DecidableEq, Repr

/-- Source: `CertificateFailure`. -/
inductive CertificateFailure where
  | badEncoding
  | expired
  | notValidYet
  | unknownIssuer
  | notValidForName
  | revoked
  | badSignature
  | invalidPurpose
  | unhandledCriticalExtension
  | unsupportedSignatureAlgorithm
  | other
  deriving DecidableEq, Repr

/-- Source: `TlsFailure`. -/
inductive TlsFailure where
  | configuration
  | invalidServerName
  | invalidCertificate (failure : CertificateFailure)
  | noCertificatesPresented
  | peerIncompatible
  | peerMisbehaved
  | protocol
  | unsupportedVersion
  | unsupportedApplicationProtocol
  deriving DecidableEq, Repr

/-- Source: `TrustStoreFailure`. -/
inductive TrustStoreFailure where
  | invalidCertificate
  | empty
  deriving DecidableEq, Repr

/-- The kinds of `std::io::ErrorKind` the source names, and the others. -/
inductive IoErrorKind where
  | timedOut
  | wouldBlock
  | interrupted
  | permissionDenied
  | writeZero
  | invalidData
  | notConnected
  | other (code : Nat)
  deriving DecidableEq, Repr

/-- Source: `Error`. -/
inductive Error where
  | invalidUrl (message : String)
  | unsupportedScheme (scheme : String)
  | credentialsNotAllowed
  | fragmentNotAllowed
  | nonLoopbackTarget
  | missingPort
  | missingHost
  | invalidRequestTarget
  | invalidMethod
  | invalidHeaderName
  | invalidHeaderValue
  | reservedRequestHeader (name : List UInt8)
  | limitExceeded (kind : LimitKind) (limit : UInt64)
  | cancelled
  | timeout (operation : Operation)
  | io (operation : Operation) (kind : IoErrorKind)
  | dns (failure : DnsFailure)
  | connectAttemptsExhausted (attempted : Nat) (lastKind : Option IoErrorKind)
  | trustStore (failure : TrustStoreFailure)
  | tls (failure : TlsFailure)
  | invalidLineEnding
  | malformedStatusLine
  | malformedHeader
  | obsoleteLineFolding
  | conflictingContentLength
  | ambiguousBodyFraming
  | invalidContentLength
  | unsupportedTransferCoding (coding : List UInt8)
  | unsupportedContentCoding (coding : List UInt8)
  | malformedChunkSize
  | prohibitedTrailer (name : List UInt8)
  | prematureEof
  | protocolSwitchUnsupported
  | redirectRejected (status : Nat)
  deriving DecidableEq, Repr

/-- A failed socket operation: one of the TLS layer, or a kind of I/O error. -/
inductive IoFailure where
  | tls (failure : TlsFailure)
  | kind (kind : IoErrorKind)
  deriving DecidableEq, Repr

/-- Source: `Error::io`. -/
def Error.ofIo (operation : Operation) : IoFailure → Error
  | .tls failure => .tls failure
  | .kind .timedOut => .timeout operation
  | .kind .wouldBlock => .timeout operation
  | .kind kind => .io operation kind

end WildBuzzard.Net
