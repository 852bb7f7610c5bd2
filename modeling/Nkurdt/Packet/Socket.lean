import Nkurdt.Packet.Codec

/-
  What a UDP socket hands to its users.

  Main declarations:
    * `SocketAddr`
    * `RecvResult`
    * `isFatalError`
-/

namespace Nkurdt

/- An IPv4 socket address. -/
structure SocketAddr where
  sinAddr : UInt32
  sinPort : UInt16
deriving DecidableEq

/-
  The result of `Socket::recv`: an error value with an empty
  buffer, or the bytes of one datagram and their source.
-/
inductive RecvResult where
| error (value : Nat)
| datagram (bytes : List UInt8) (addr : SocketAddr)

/- `EAGAIN`, which is also `EWOULDBLOCK`, on Linux. -/
def eAgain : Nat :=
  11

def eWouldBlock : Nat :=
  11

/- `is_fatal_error`, for an error value. -/
def isFatalError (value : Nat) : Bool :=
  value != eAgain && value != eWouldBlock

end Nkurdt
