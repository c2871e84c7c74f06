/-
  Failover.Fault
  ──────────────
  **Everything that can go wrong, by cause.** A fault has a kind, and
  within it a cause with the values that the cause is about.  The wording
  is derived: `Kind.describe` gives the frame of a kind, the cause the
  words inside it.  Two kinds, a wrong configuration and a broken
  invariant, are not worth another attempt; all others are.

  A `Breach` is no fault: it says that a caller did not keep the terms
  under which a function may be called.
-/
import Failover.Json.Fault
import Failover.Bytes.Base64
import Failover.Text.Utf8
import Failover.Http.Status

namespace Failover

/-! ## §1. Kinds. -/

/-- The kinds of faults. -/
inductive Kind where
  | io
  | config
  | parse
  | protocol
  | negotiation
  | process
  | alreadyRunning
  | stopped
  | connection
  | timeout
  | auth
  | http
  | internal
  deriving DecidableEq, Repr

/-- All kinds. -/
def Kind.all : List Kind :=
  [.io, .config, .parse, .protocol, .negotiation, .process, .alreadyRunning, .stopped,
    .connection, .timeout, .auth, .http, .internal]

/-- The frame that a kind puts around the words of a cause. -/
def Kind.describe (kind : Kind) (detail : String) : String :=
  match kind with
  | .io => "IO error: " ++ detail
  | .config => "Configuration error: " ++ detail
  | .parse => "Parse error: " ++ detail
  | .protocol => "Protocol error: " ++ detail
  | .negotiation => "Negotiation error: " ++ detail
  | .process => "Process error: " ++ detail
  | .alreadyRunning => "Service already running, cannot " ++ detail
  | .stopped => "Service " ++ detail ++ " was stopped before negotiation finished"
  | .connection => "Connection error: " ++ detail
  | .timeout => "Timeout error: " ++ detail
  | .auth => "Authentication failed: " ++ detail
  | .http => "HTTP error: " ++ detail
  | .internal => "Internal error: " ++ detail

/-- Whether another attempt may succeed after a fault of this kind. -/
def Kind.recoverable : Kind → Bool
  | .config | .internal => false
  | _ => true

/-! ## §2. Causes. -/

/-- Why reading, writing, opening or launching failed. -/
inductive IoFault where
  | earlyEof
  | brokenPipe
  | writeZero
  | connectionReset
  | undecodable
  | notText
  | notFound
  | permissionDenied
  | isDirectory
  | notDirectory
  | nameTooLong
  | invalidArgument
  | cannotAssign
  | inUse
  | unreachable
  | refused
  | invalidSocketAddress
  | invalidPort
  | unresolved
  | nulInName
  | nulInData
  deriving DecidableEq, Repr

/-- The wording of a failed operation. -/
def IoFault.message : IoFault → String
  | .earlyEof => "early eof"
  | .brokenPipe => "broken pipe"
  | .writeZero => "write zero"
  | .connectionReset => "connection reset"
  | .undecodable => "Unable to decode input as UTF8"
  | .notText => "stream did not contain valid UTF-8"
  | .notFound => "No such file or directory (os error 2)"
  | .permissionDenied => "Permission denied (os error 13)"
  | .isDirectory => "Is a directory (os error 21)"
  | .notDirectory => "Not a directory (os error 20)"
  | .nameTooLong => "File name too long (os error 36)"
  | .invalidArgument => "Invalid argument (os error 22)"
  | .cannotAssign => "Cannot assign requested address (os error 99)"
  | .inUse => "Address already in use (os error 98)"
  | .unreachable => "Network is unreachable (os error 101)"
  | .refused => "Connection refused (os error 111)"
  | .invalidSocketAddress => "invalid socket address"
  | .invalidPort => "invalid port value"
  | .unresolved => "failed to lookup address information: Name or service not known"
  | .nulInName => "file name contained an unexpected NUL byte"
  | .nulInData => "nul byte found in provided data"

/-- What is wrong with a setting or a launch request. -/
inductive ConfigFault where
  | controllerAddress (text : String)
  | namespaceName (text : String)
  | historyLimit
  | intervals
  | probeTimeout
  | probeUrl (text : String)
  | proxyAddress
  | launchless (transport : String)
  | connectionWithoutTransport
  | duplicateConnection (display : String)
  | noCommand (transport : String)
  | variableName (key : String)
  | variableMissing (name : String)
  | noService
  | serviceUnknown (service : String)
  | parentIdle
  | parentWithoutAddress
  deriving DecidableEq

/-- The wording of a wrong setting. -/
def ConfigFault.message : ConfigFault → String
  | .controllerAddress text =>
      "invalid controller-bind-addr " ++ Text.quote text ++ ": invalid socket address syntax"
  | .namespaceName text => "invalid env-namespace: " ++ Text.quote text
  | .historyLimit => "history-limit must be at least 1"
  | .intervals => "reconnect-delay-ms and reverify-interval-ms must be positive"
  | .probeTimeout => "probe-timeout-ms must be positive"
  | .probeUrl text => "invalid probe-url: " ++ text
  | .proxyAddress => "proxy-bind-addr is empty"
  | .launchless transport => "transport " ++ transport ++ " needs a command or bundled: true"
  | .connectionWithoutTransport => "connection without transport"
  | .duplicateConnection display => "duplicate connection " ++ display
  | .noCommand transport => "no command registered for transport " ++ transport
  | .variableName key => "invalid variable name: " ++ Text.quote key
  | .variableMissing name => "required variable not set: " ++ name
  | .noService => "no service specified"
  | .serviceUnknown service => service ++ " SERVICE NOT FOUND"
  | .parentIdle => "Parent must be running before starting service"
  | .parentWithoutAddress => "parent has no bindaddr"

/-- Why a text is not what it should spell. -/
inductive ParseFault where
  | json (fault : Json.Fault)
  | sharedJson (fault : Json.Fault)
  | base64 (fault : Bytes.Base64.Fault)
  | tooShort
  | unknownVersion
  | domain (fault : Text.Utf8.Malformed)
  deriving DecidableEq

/-- The wording of a text that cannot be read. -/
def ParseFault.message : ParseFault → String
  | .json fault => fault.message
  | .sharedJson fault => "cannot read json: " ++ fault.message
  | .base64 fault => "could not b64 decode: " ++ fault.message
  | .tooShort => "too short format"
  | .unknownVersion => "unknown format version"
  | .domain fault => "Invalid domain: " ++ fault.message

/-- How the other side broke the handshake or the proxy protocol. -/
inductive ProtocolFault where
  | forbiddenBytes (line : String)
  | emptyLine
  | malformedKeyword (keyword : String)
  | argumentCount (keyword : String) (expected got : Nat)
  | unhandled (keyword : String)
  | versionExpected (keyword : String)
  | duplicateVersion
  | afterDone
  | lineTooLong
  | closedBeforeDone
  | clientVersion (version : UInt8)
  | command (code : UInt8)
  | greetingVersion
  | replyVersion
  | authMethod (method : UInt8)
  | addressType (code : UInt8)
  deriving DecidableEq

/-- The wording of a broken protocol. -/
def ProtocolFault.message : ProtocolFault → String
  | .forbiddenBytes line => "line " ++ Text.quote line ++ " contains forbidden bytes"
  | .emptyLine => "empty line"
  | .malformedKeyword keyword => "malformed keyword " ++ Text.quote keyword
  | .argumentCount keyword expected got =>
      keyword ++ " takes " ++ toString expected ++ " arguments, got " ++ toString got
  | .unhandled keyword => "unhandled line: " ++ keyword
  | .versionExpected keyword => "expected VERSION as first line, got " ++ keyword
  | .duplicateVersion => "duplicate VERSION line"
  | .afterDone => "line received after DONE"
  | .lineTooLong => "line exceeds maximum length"
  | .closedBeforeDone => "stream closed before DONE"
  | .clientVersion version => "Unsupported SOCKS version: " ++ toString version.toNat
  | .command code => "Unsupported SOCKS5 command: " ++ toString code.toNat
  | .greetingVersion => "Invalid SOCKS5 version"
  | .replyVersion => "Invalid SOCKS5 version in reply"
  | .authMethod method => "Unsupported authentication method: " ++ toString method.toNat
  | .addressType code => "Unknown address type: " ++ toString code.toNat

/-- Why a process is not there. -/
inductive ProcessFault where
  | launch (command : String) (reason : IoFault)
  | exited (service : String)
  | pipes
  deriving DecidableEq

/-- The wording of a missing process. -/
def ProcessFault.message : ProcessFault → String
  | .launch command reason => "failed to start " ++ command ++ ": " ++ reason.message
  | .exited service => "service " ++ service ++ " has already exited"
  | .pipes => "child pipes unavailable"

/-- What a service that is not idle can no longer do. -/
inductive IdleAction where
  | setVariable
  | start
  | setBindAddress
  | setVerbose
  | setParent
  deriving DecidableEq, Repr

/-- The wording of such an action. -/
def IdleAction.message : IdleAction → String
  | .setVariable => "set configuration variable"
  | .start => "start"
  | .setBindAddress => "set bindaddr"
  | .setVerbose => "set verbose"
  | .setParent => "set parent"

/-- The meaning of a reply code that is not success. -/
def replyMessage (code : UInt8) : String :=
  match code with
  | 1 => "General SOCKS server failure"
  | 2 => "Connection not allowed by ruleset"
  | 3 => "Network unreachable"
  | 4 => "Host unreachable"
  | 5 => "Connection refused"
  | 6 => "TTL expired"
  | 7 => "Command not supported"
  | 8 => "Address type not supported"
  | _ => "Unknown error: " ++ toString code.toNat

/-- Why there is no connection. -/
inductive ConnectionFault where
  | domainTooLong
  | greetingUnsent (reason : IoFault)
  | greetingUnanswered (reason : IoFault)
  | requestUnsent (reason : IoFault)
  | requestUnanswered (reason : IoFault)
  | refusedWith (code : UInt8)
  | targetFailed (target : String) (reason : IoFault)
  | noEndpoint (service : String)
  | noTransport
  | inactive
  deriving DecidableEq

/-- The wording of a missing connection. -/
def ConnectionFault.message : ConnectionFault → String
  | .domainTooLong => "Domain name too long"
  | .greetingUnsent reason => "Failed to send SOCKS5 greeting: " ++ reason.message
  | .greetingUnanswered reason => "Failed to read SOCKS5 response: " ++ reason.message
  | .requestUnsent reason => "Failed to send SOCKS5 connect request: " ++ reason.message
  | .requestUnanswered reason => "Failed to read SOCKS5 reply: " ++ reason.message
  | .refusedWith code => replyMessage code
  | .targetFailed target reason => "connect to " ++ target ++ " failed: " ++ reason.message
  | .noEndpoint service => "transport service " ++ service ++ " exposes no endpoint"
  | .noTransport => "transport not connected"
  | .inactive => "No active transport"

/-- Why a page could not be fetched, or a report not be posted. -/
inductive HttpFault where
  /-- There was no answer, or none that could be understood. -/
  | failed
  | probeRefused (status : Nat)
  | statusRefused (status : Nat) (url : String)
  deriving DecidableEq

/-- The wording of an exchange that failed. -/
def HttpFault.message : HttpFault → String
  | .failed => "request failed"
  | .probeRefused status => "probe returned " ++ Http.statusText status
  | .statusRefused status url =>
      "HTTP status " ++ (if status < 500 then "client" else "server") ++ " error (" ++
        Http.statusText status ++ ") for url (" ++ url ++ ")"

/-! ## §3. Faults. -/

/-- A fault: a kind and a cause of that kind. -/
inductive Fault where
  | io (cause : IoFault)
  | config (cause : ConfigFault)
  | parse (cause : ParseFault)
  | protocol (cause : ProtocolFault)
  | negotiation (message : String)
  | process (cause : ProcessFault)
  | alreadyRunning (action : IdleAction)
  | stopped (service : String)
  | connection (cause : ConnectionFault)
  | timeout
  | auth
  | http (cause : HttpFault)
  | unregistered (service : String)
  deriving DecidableEq

/-- The kind of a fault. -/
def Fault.kind : Fault → Kind
  | .io _ => .io
  | .config _ => .config
  | .parse _ => .parse
  | .protocol _ => .protocol
  | .negotiation _ => .negotiation
  | .process _ => .process
  | .alreadyRunning _ => .alreadyRunning
  | .stopped _ => .stopped
  | .connection _ => .connection
  | .timeout => .timeout
  | .auth => .auth
  | .http _ => .http
  | .unregistered _ => .internal

/-- The words of the cause. -/
def Fault.detail : Fault → String
  | .io cause => cause.message
  | .config cause => cause.message
  | .parse cause => cause.message
  | .protocol cause => cause.message
  | .negotiation message => message
  | .process cause => cause.message
  | .alreadyRunning action => action.message
  | .stopped service => service
  | .connection cause => cause.message
  | .timeout => "deadline has elapsed"
  | .auth => "No acceptable authentication method"
  | .http cause => cause.message
  | .unregistered service => "service " ++ service ++ " is not registered"

/-- The wording of a fault: the words of its cause in the frame of its kind. -/
def Fault.message (f : Fault) : String := f.kind.describe f.detail

/-- Whether another attempt may succeed. -/
def Fault.recoverable (f : Fault) : Bool := f.kind.recoverable

/-! ## §4. Breaches. -/

/-- What a caller did that it may not do. -/
inductive Breach where
  | forbiddenKeyword (keyword : String)
  | forbiddenArgument (argument : String)
  | alreadyEnded
  | sumOverflow
  | environmentNotText
  deriving DecidableEq

/-- The wording of a breach. -/
def Breach.message : Breach → String
  | .forbiddenKeyword keyword => "keyword " ++ Text.quote keyword ++ " contains forbidden bytes"
  | .forbiddenArgument argument => "arg " ++ Text.quote argument ++ " contains forbidden bytes"
  | .alreadyEnded => "connection already ended"
  | .sumOverflow => "attempt to add with overflow"
  | .environmentNotText => "the environment holds a variable that is no text"

/-- How an operation that may be called wrongly can end early. -/
inductive Abort where
  | fault (cause : Fault)
  | breach (cause : Breach)
  deriving DecidableEq

/-! ## §5. Which faults end for good. -/

/-- Only a wrong configuration and a broken invariant are not worth another attempt. -/
theorem Fault.not_recoverable_iff (f : Fault) :
    f.recoverable = false ↔ f.kind = .config ∨ f.kind = .internal := by
  cases f <;> simp [Fault.recoverable, Fault.kind, Kind.recoverable]

end Failover
