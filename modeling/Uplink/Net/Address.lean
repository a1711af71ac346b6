/-
Internet addresses, and the addressing a PPP peer hands out.
-/
import Uplink.Text.Numeral
import Uplink.Text.Split

namespace Uplink.Net

/-- An address of four bytes, written with points between them. -/
structure Address where
  a : UInt8
  b : UInt8
  c : UInt8
  d : UInt8
deriving DecidableEq, Repr, Inhabited

namespace Address

/-- The dotted form: four decimal numbers. -/
def render (x : Address) : String :=
  s!"{x.a}.{x.b}.{x.c}.{x.d}"

def ofString? (s : String) : Option Address := do
  match Text.fields '.' s.toList with
  | [a, b, c, d] =>
    pure ⟨← Text.byte? a, ← Text.byte? b, ← Text.byte? c, ← Text.byte? d⟩
  | _ => none

/-- The bytes in the order in which they are written. -/
def toList (x : Address) : List UInt8 :=
  [x.a, x.b, x.c, x.d]

/-- The mask that leaves a single host: a point-to-point link has nobody
else on it. -/
def hostMask : Address :=
  ⟨255, 255, 255, 255⟩

end Address

/-- An address and the length of its network part. -/
structure Subnet where
  address : Address
  bits : Nat
deriving DecidableEq, Repr

namespace Subnet

/-- The address, a slash and the length. -/
def render (n : Subnet) : String :=
  s!"{n.address.render}/{n.bits}"

/-- Read an address, a slash and a length of at most 32 bits. -/
def ofString? (s : String) : Option Subnet := do
  match Text.fields '/' s.toList with
  | [address, bits] =>
    let address ← Address.ofString? (String.ofList address)
    let bits ← Text.unsigned? 32 bits
    pure ⟨address, bits⟩
  | _ => none

end Subnet

/-- A port on a host. -/
structure Endpoint where
  address : Address
  port : Nat
deriving DecidableEq, Repr

namespace Endpoint

/-- The address, a colon and the port. -/
def render (e : Endpoint) : String :=
  s!"{e.address.render}:{e.port}"

def ofString? (s : String) : Option Endpoint := do
  match Text.fields ':' s.toList with
  | [address, port] =>
    let address ← Address.ofString? (String.ofList address)
    let port ← Text.unsigned? 65535 port
    pure ⟨address, port⟩
  | _ => none

end Endpoint

/-- The addressing of a PPP session. -/
structure IpInfo where
  ip : Address
  netmask : Address
  gateway : Address
deriving DecidableEq, Repr

def IpInfo.text (i : IpInfo) : String :=
  s!"IpInfo \x7b ip: {i.ip.render}, netmask: {i.netmask.render}, "
    ++ s!"gateway: {i.gateway.render} \x7d"

end Uplink.Net
