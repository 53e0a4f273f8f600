import MiniTun.Common.Bytes
import MiniTun.Common.Result

/-!
# Port ranges

`common::PortRange`: an inclusive range of ports, written `443` or
`6000-6999`.  The bounds a parsed range satisfies are fields of the structure.
-/

namespace MiniTun

structure PortRange where
  start : Nat
  stop : Nat
  start_pos : 0 < start
  start_le : start ≤ stop
  stop_le : stop ≤ 65535
deriving DecidableEq

namespace PortRange

def isWhitespace (b : UInt8) : Bool :=
  b = 32 ∨ b = 9 ∨ b = 10 ∨ b = 13 ∨ b = 12 ∨ b = 11

/-- `parse_port`; `std::from_chars` reads digits only. -/
def parsePort (value : Bytes) : Result { port : Nat // 0 < port ∧ port ≤ 65535 } :=
  if value = [] then failure .invalidArgument "port range contains an empty port"
  else if 5 < value.length then failure .invalidArgument "port contains too many digits"
  else if h : value.all isDigit = true ∧
      0 < decimalValue value ∧ decimalValue value ≤ 65535 then
    .ok ⟨decimalValue value, h.2⟩
  else failure .invalidArgument "port must be a decimal number in 1..65535"

def parse (value : Bytes) : Result PortRange :=
  if value = [] then failure .invalidArgument "port range is empty"
  else if 11 < value.length then
    failure .invalidArgument "port range exceeds the maximum length"
  else if value.any isWhitespace then
    failure .invalidArgument "port range must not contain whitespace"
  else match value.count 45 with
    | 0 => do
      let port ← parsePort value
      pure ⟨port, port, port.2.1, Nat.le_refl _, port.2.2⟩
    | 1 => do
      let start ← parsePort (value.takeWhile (· ≠ 45))
      let stop ← parsePort ((value.dropWhile (· ≠ 45)).drop 1)
      if h : start.1 ≤ stop.1 then pure ⟨start, stop, start.2.1, h, stop.2.2⟩
      else failure .invalidArgument "port range start must not exceed its end"
    | _ => failure .invalidArgument "port range must contain at most one '-' separator"

def contains (range : PortRange) (port : Nat) : Bool :=
  range.start ≤ port ∧ port ≤ range.stop

def toText (range : PortRange) : Bytes :=
  if range.start = range.stop then decimal range.start
  else decimal range.start ++ ascii "-" ++ decimal range.stop

end PortRange

end MiniTun
