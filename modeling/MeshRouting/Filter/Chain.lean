import MeshRouting.Discovery.Resource
import MeshRouting.Net.Cidr
import MeshRouting.Net.Endpoint

/-!
# Filter chains

A filter chain takes the inbound connections that meet all its predicates and says where their
route configuration comes from. An empty list of ranges or ports allows anything.
-/
namespace MeshRouting

/-- How the peer relates to the local address. -/
inductive SourceType where
  | any
  | sameIpOrLoopback
  | external
  deriving DecidableEq, Repr

def SourceType.allows (kind : SourceType) (localIp remoteIp : Ip) : Bool :=
  let same := remoteIp.isLoopback || localIp.canonical == remoteIp.canonical
  match kind with
  | any => true
  | sameIpOrLoopback => same
  | external => !same

structure ChainMatch where
  destinationRanges : List Cidr := []
  destinationPort : Option UInt16 := none
  sourceType : SourceType := .any
  sourceRanges : List Cidr := []
  sourcePorts : List UInt16 := []
  deriving DecidableEq, Repr

def inRanges (ranges : List Cidr) (ip : Ip) : Bool := ranges.isEmpty || ranges.any (·.contains ip)

def ChainMatch.holds (m : ChainMatch) (localEnd remoteEnd : Endpoint) : Bool :=
  inRanges m.destinationRanges localEnd.ip
    && m.destinationPort.all (· == localEnd.port)
    && m.sourceType.allows localEnd.ip remoteEnd.ip
    && inRanges m.sourceRanges remoteEnd.ip
    && (m.sourcePorts.isEmpty || m.sourcePorts.contains remoteEnd.port)

/-- A route configuration given with the chain, or the name of one to watch. -/
inductive RouteSource where
  | inline (config : RouteConfig)
  | dynamic (name : String)
  deriving DecidableEq, Repr

/-- Certificate providers of a chain; the handshake itself happens elsewhere. -/
structure TransportSecurity where
  identityProvider : Option String
  rootProvider : Option String
  requireClientCert : Bool
  deriving DecidableEq, Repr

structure FilterChain where
  name : String
  accepts : ChainMatch
  route : RouteSource
  security : Option TransportSecurity
  deriving DecidableEq, Repr

def FilterChain.dynamicRoute? (chain : FilterChain) : Option String :=
  match chain.route with
  | .inline _ => none
  | .dynamic name => some name

/-- An inbound listener; the order of the chains is the order in which they are tried. -/
structure ListenerUpdate where
  ip : Ip
  port : UInt16
  chains : List FilterChain
  fallback : Option FilterChain
  deriving DecidableEq, Repr

end MeshRouting
