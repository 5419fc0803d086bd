import TraceHeaders.HeaderValue
import TraceHeaders.TextMap

namespace TraceHeaders

/-- A header that tells where a request came from: an address set by a proxy, or the user agent. -/
inductive ClientHeader where
  | forwarded
  | forwardedFor
  | xForwarded
  | xForwardedFor
  | xForwardedProto
  | xForwardedHost
  | xForwardedPort
  | xClientIp
  | trueClientIp
  | xClusterClientIp
  | xRealIp
  | fastlyClientIp
  | cfConnectingIp
  | cfConnectingIpv6
  | userAgent
  deriving DecidableEq, Repr

namespace ClientHeader

def all : List ClientHeader :=
  [forwarded, forwardedFor, xForwarded, xForwardedFor, xForwardedProto, xForwardedHost,
    xForwardedPort, xClientIp, trueClientIp, xClusterClientIp, xRealIp, fastlyClientIp,
    cfConnectingIp, cfConnectingIpv6, userAgent]

def name : ClientHeader → String
  | forwarded => "forwarded"
  | forwardedFor => "forwarded-for"
  | xForwarded => "x-forwarded"
  | xForwardedFor => "x-forwarded-for"
  | xForwardedProto => "x-forwarded-proto"
  | xForwardedHost => "x-forwarded-host"
  | xForwardedPort => "x-forwarded-port"
  | xClientIp => "x-client-ip"
  | trueClientIp => "true-client-ip"
  | xClusterClientIp => "x-cluster-client-ip"
  | xRealIp => "x-real-ip"
  | fastlyClientIp => "fastly-client-ip"
  | cfConnectingIp => "cf-connecting-ip"
  | cfConnectingIpv6 => "cf-connecting-ipv6"
  | userAgent => "user-agent"

def ofName? (name : String) : Option ClientHeader := all.find? (·.name == name)

/-- Headers of which the entry of the nearest proxy alone is kept. -/
def keepsFirstEntry : ClientHeader → Bool
  | xForwardedProto | xForwardedHost | xForwardedPort => true
  | _ => false

/-- The value as it is kept. -/
def kept (header : ClientHeader) (value : String) : String :=
  if header.keepsFirstEntry then HeaderValue.first value else value

/-- The headers that may hold the address of the client, the most trusted one first, after the list
of forwarding proxies. -/
def addresses : List ClientHeader :=
  [xRealIp, trueClientIp, xClientIp, xForwarded, forwardedFor, xClusterClientIp, fastlyClientIp,
    cfConnectingIp, cfConnectingIpv6, forwarded]

theorem ofName?_name (header : ClientHeader) : ofName? header.name = some header := by
  cases header <;> rfl

end ClientHeader

/-- Values of such headers by name, which are kept beside whatever trace context a request carries.
-/
structure ClientHeaders where
  values : TextMap
  deriving DecidableEq

namespace ClientHeaders

instance : EmptyCollection ClientHeaders := ⟨⟨∅⟩⟩

instance : Inhabited ClientHeaders := ⟨∅⟩

def isEmpty (headers : ClientHeaders) : Bool := headers.values.isEmpty

def get? (headers : ClientHeaders) (header : ClientHeader) : Option String :=
  headers.values.get? header.name

/-- Keeps a value unless there is one already. -/
def keep (headers : ClientHeaders) (header : ClientHeader) (value : String) : ClientHeaders :=
  ⟨headers.values.insertIfNew header.name (header.kept value)⟩

/-- Takes in a header by its lowercase name. -/
def record (headers : ClientHeaders) (name value : String) : ClientHeaders :=
  match ClientHeader.ofName? name with
  | some header => headers.keep header value
  | none => headers

/-- The address of the client: the first entry of the list of forwarding proxies, or else the first
of the other headers that is there. -/
def clientIp? (headers : ClientHeaders) : Option String :=
  match headers.get? .xForwardedFor with
  | some value => some (HeaderValue.first value)
  | none => ClientHeader.addresses.findSome? headers.get?

end ClientHeaders

end TraceHeaders
