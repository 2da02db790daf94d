/-!
# IP addresses

An address is a word of 32 or 128 bits. The IPv6 addresses `::ffff:a.b.c.d` stand for IPv4
addresses seen through an IPv6 socket; `canonical` takes them back.
-/
namespace MeshRouting

inductive Ip where
  | v4 (bits : BitVec 32)
  | v6 (bits : BitVec 128)
  deriving DecidableEq, Repr

namespace Ip

def width : Ip → Nat
  | v4 _ => 32
  | v6 _ => 128

def mapped? (bits : BitVec 128) : Option (BitVec 32) :=
  if bits >>> 32 = 0xffff#128 then some (bits.setWidth 32) else none

/-- An IPv4-mapped address as IPv4, any other as it is. -/
def canonical : Ip → Ip
  | v4 bits => v4 bits
  | v6 bits => match mapped? bits with
    | some inner => v4 inner
    | none => v6 bits

/-- A mapped loopback address does not count. -/
def isLoopback : Ip → Bool
  | v4 bits => bits >>> 24 == 127#32
  | v6 bits => bits == 1#128

end Ip
end MeshRouting
