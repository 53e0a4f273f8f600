import MiniTun.Common.Bytes

/-!
# Network addresses

The addresses of the networking library.  Reading and printing an address is
that library's work: `AddressText` names the two functions, and a statement that
depends on how they behave says so as a hypothesis.
-/

namespace MiniTun

/-- `asio::ip::address`; a version 6 address carries a scope identifier. -/
inductive Address where
  | v4 (bits : BitVec 32)
  | v6 (bits : BitVec 128) (scope : Nat)
deriving Repr, DecidableEq

/-- `address::is_loopback`: `127.0.0.0/8` or `::1`. -/
def Address.isLoopback : Address → Bool
  | .v4 bits => bits.toNat / 2 ^ 24 = 127
  | .v6 bits _ => bits = 1

/-- The largest prefix length a network of this family can have. -/
def Address.maximumPrefix : Address → Nat
  | .v4 _ => 32
  | .v6 _ _ => 128

/-- `common::Endpoint`.  Its kind is a function of the host text. -/
structure Endpoint where
  host : Bytes
  port : Nat
deriving Repr, DecidableEq

/-- `asio::ip::make_address` and `address::to_string`. -/
structure AddressText where
  make : Bytes → Option Address
  print : Address → Bytes

end MiniTun
