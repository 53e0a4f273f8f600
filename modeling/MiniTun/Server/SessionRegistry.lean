import MiniTun.Common.Id
import MiniTun.Lib.KeyedMap

/-!
# Session registry

`server::SessionRegistry` maps a client to the generation of its newest control
session.  Opening draws a random generation and supersedes whatever was there;
closing only removes an entry that still holds the closed generation.
-/

namespace MiniTun.Server

open KeyedMap

/-- `server::SessionRegistry`; the constructor raises a zero limit to one. -/
structure SessionRegistry where
  maxClients : Nat
  generations : Map Bytes Nat
  maxClients_pos : 0 < maxClients

namespace SessionRegistry

def empty (maxClients : Nat) : SessionRegistry :=
  ⟨max maxClients 1, ∅, by omega⟩

section Calls

variable (r : SessionRegistry)

variable (clientId : Bytes)

/-- `SessionRegistry::open`; `draw` is what `generate_session_generation`
returns. -/
def openSession (draw : Result Nat) : Result Nat × SessionRegistry :=
  if validId .client clientId = false then
    (failure .invalidArgument "client ID is invalid", r)
  else match draw with
    | .error e => (.error e, r)
    | .ok generation =>
      if r.generations.lookup clientId = none ∧ r.maxClients ≤ size r.generations then
        (failure .resourceExhausted "server client limit has been reached", r)
      else
        (.ok generation, { r with generations := r.generations.insert clientId generation })

def isCurrent (generation : Nat) : Bool :=
  r.generations.lookup clientId = some generation

def close (generation : Nat) : SessionRegistry :=
  if r.generations.lookup clientId = some generation then
    { r with generations := r.generations.erase clientId }
  else r

@[simp] theorem isCurrent_iff {r : SessionRegistry} {cid : Bytes} {gen : Nat} :
    r.isCurrent cid gen = true ↔
      r.generations.lookup cid = some gen := by
  simp [isCurrent]

/-- Everything opening can do: refuse and change nothing, or install the drawn
generation as the client's current one. -/
theorem openSession_cases (cid : Bytes) (draw : Result Nat) :
    (∃ e, r.openSession cid draw = (.error e, r)) ∨
    (∃ gen, draw = .ok gen ∧
      r.openSession cid draw =
        (.ok gen,
          { r with generations := r.generations.insert cid gen })) := by
  unfold openSession
  split
  · exact .inl ⟨_, rfl⟩
  · cases draw with
    | error e => exact .inl ⟨e, rfl⟩
    | ok gen =>
      simp only
      split
      · exact .inl ⟨_, rfl⟩
      · exact .inr ⟨gen, rfl, rfl⟩

theorem lookup_close (cid other : Bytes) (gen : Nat) :
    (r.close cid gen).generations.lookup other =
      if other = cid ∧ r.generations.lookup cid = some gen then none
      else r.generations.lookup other := by
  unfold close
  split
  · next h => simp [lookup_erase_eq_ite, h]
  · next h => simp [h]

end Calls

end SessionRegistry

end MiniTun.Server
