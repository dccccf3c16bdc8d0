import SimpleTests.SocketCalls
import SimpleTests.DecimalText

/-! # The address of a peer

`SysSocket::get_addr()` of `mock/accept/test_accept.cpp` accepts a connection and renders the
address of its peer.  `accept()` writes the address into a `sockaddr_storage`, and the
function reads it as a `sockaddr_in`, whatever its family is.

`Sockaddr` is an address that `accept()` may write, in the layout of its family.  In both
layouts the port has the same place.  Where a `sockaddr_in` has the address, a `sockaddr_in6`
has its flow information (`sinAddr_store`).
-/
namespace SimpleTests.Sockets
open DecimalText

/-- The bytes of a `sockaddr_storage`. -/
structure SockaddrStorage where
  bytes : Fin 128 → UInt8

namespace SockaddrStorage
variable (x : SockaddrStorage)

/-- `sin_port` of the storage, read as a `sockaddr_in`. -/
def sinPort : NetShort := ⟨x.bytes 2, x.bytes 3⟩

/-- `sin_addr` of the storage, read as a `sockaddr_in`. -/
def sinAddr : InAddr := ⟨x.bytes 4, x.bytes 5, x.bytes 6, x.bytes 7⟩

end SockaddrStorage

/-! ## The layouts -/

/-- Four bytes in the order they have in memory. -/
structure Word where
  b0 : UInt8
  b1 : UInt8
  b2 : UInt8
  b3 : UInt8
  deriving DecidableEq

/-- `struct in6_addr` -/
structure In6Addr where
  s6Addr : Vector UInt8 16
  deriving DecidableEq

/-- `struct sockaddr_in6` of family `AF_INET6`. -/
structure SockaddrIn6 where
  sin6Port : NetShort
  sin6Flowinfo : Word
  sin6Addr : In6Addr
  sin6ScopeId : Word
  deriving DecidableEq

/-- The address of a peer. -/
inductive Sockaddr
  | inet (addr : SockaddrIn)
  | inet6 (addr : SockaddrIn6)
  deriving DecidableEq

/-- The family, address and port of a peer. -/
inductive Endpoint
  | inet (addr : InAddr) (port : NetShort)
  | inet6 (addr : In6Addr) (port : NetShort)
  deriving DecidableEq

namespace Sockaddr

/-- The address in memory.  The family is an integer in host byte order, here with the low
byte first: `AF_INET` is 2 and `AF_INET6` is 10. -/
def bytes : Sockaddr → List UInt8
  | .inet ⟨port, addr⟩ =>
    [2, 0, port.hi, port.lo, addr.b0, addr.b1, addr.b2, addr.b3] ++ List.replicate 8 0
  | .inet6 ⟨port, flowinfo, addr, scopeId⟩ =>
    [10, 0, port.hi, port.lo, flowinfo.b0, flowinfo.b1, flowinfo.b2, flowinfo.b3] ++
      addr.s6Addr.toList ++ [scopeId.b0, scopeId.b1, scopeId.b2, scopeId.b3]

def endpoint : Sockaddr → Endpoint
  | .inet addr => .inet addr.sinAddr addr.sinPort
  | .inet6 addr => .inet6 addr.sin6Addr addr.sin6Port

def port : Sockaddr → NetShort
  | .inet addr => addr.sinPort
  | .inet6 addr => addr.sin6Port

/-- The four bytes behind the port. -/
def word : Sockaddr → Word
  | .inet ⟨_, addr⟩ => ⟨addr.b0, addr.b1, addr.b2, addr.b3⟩
  | .inet6 addr => addr.sin6Flowinfo

/-- The family is `AF_INET`. -/
def IsInet : Sockaddr → Prop
  | .inet _ => True
  | .inet6 _ => False

instance : DecidablePred IsInet
  | .inet _ => .isTrue trivial
  | .inet6 _ => .isFalse id

end Sockaddr

namespace SockaddrStorage

/-- `accept()` writes an address to the start of the storage. -/
def store (s : SockaddrStorage) (x : Sockaddr) : SockaddrStorage where
  bytes i := x.bytes.getD i (s.bytes i)

variable (s : SockaddrStorage) (x : Sockaddr)

@[simp] theorem sinPort_store : (s.store x).sinPort = x.port := by
  cases x <;> rfl

/-- What is read as the address. -/
@[simp] theorem sinAddr_store :
    (s.store x).sinAddr = ⟨x.word.b0, x.word.b1, x.word.b2, x.word.b3⟩ := by
  cases x <;> rfl

end SockaddrStorage

namespace SysSocket

/-- The results of the calls. -/
structure Answers where
  /-- The descriptor, and the storage as `accept()` has left it. -/
  accept : Except Errno (ℕ × SockaddrStorage)
  inetNtop : InAddr → Option Text

/-- `get_addr()` -/
def getAddr (a : Answers) (listenSock : ℕ) (p : Process) : Text × Process :=
  let p := p.call (.accept listenSock (a.accept.map Prod.fst)) (failed a.accept)
  match a.accept with
  | .error _ => ([], p)
  | .ok (_, clientAddr) =>
    let p := p.call (.inetNtop clientAddr.sinAddr (a.inetNtop clientAddr.sinAddr).isSome) none
    match a.inetNtop clientAddr.sinAddr with
    | none => ([], p)
    | some textAddr =>
      let port := ntohs clientAddr.sinPort
      (textAddr ++ [':'] ++ Nat.toDigits 10 port.toNat, p)

end SysSocket

end SimpleTests.Sockets
