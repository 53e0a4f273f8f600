import MiniTun.Protocol.Authentication

/-!
# What the authentication digests are of

`compute_authentication_data` and `compute_worker_authentication_data` lay their arguments out
one behind the other before the digest is taken.  Accepted identifiers of one kind have one
length, so every field stands at a fixed place and the bytes determine the arguments.  The
Worker's input begins with a label, whose length is not the protocol version the other input
begins with.
-/

namespace MiniTun.Protocol

open PayloadWriter (written finish_holding)

section SessionData

variable (hmac : Hmac) (token clientId serverId : Bytes) (timestampSeconds : Int64)
  (nonce : AuthenticationNonce) (selectedCapabilities : CapabilitySet)

def computeAuthenticationData : Result AuthenticationData :=
  if token = [] ∨ 64 * 1024 < token.length then
    failure .invalidArgument "authentication token length is invalid"
  else if !validId .client clientId then
    failure .invalidArgument "client ID is invalid for authentication"
  else if !validId .server serverId then
    failure .invalidArgument "server ID is invalid for authentication"
  else if selectedCapabilities &&& kRequiredCapabilities ≠ kRequiredCapabilities ∨
      selectedCapabilities &&& ~~~kSupportedCapabilities ≠ 0 then
    failure .invalidArgument "authentication capability selection is invalid"
  else do
    let writer ← written (newWriter.writeU16 Remote.kProtocolVersion)
    let writer ← written (writer.writeString clientId)
    let writer ← written (writer.writeString serverId)
    let writer ← written (writer.writeU64 timestampSeconds.toUInt64)
    let writer ← written (writer.writeBytes nonce)
    let writer ← written (writer.writeU64 (.ofBitVec selectedCapabilities))
    let input ← writer.finish
    match hmac token input with
    | none => failure .internalError "authentication digest generation failed"
    | some output => .ok output

def authenticationInput : Bytes :=
  u16.encode Remote.kProtocolVersion ++ bytesField clientId ++ bytesField serverId ++
    u64.encode timestampSeconds.toUInt64 ++ bytesField nonce ++
    u64.encode (.ofBitVec selectedCapabilities)

variable {hmac token clientId serverId timestampSeconds nonce selectedCapabilities}

theorem computeAuthenticationData_ok {output : AuthenticationData}
    (h : computeAuthenticationData hmac token clientId serverId timestampSeconds nonce
      selectedCapabilities = .ok output) :
    (IsId .client clientId ∧ IsId .server serverId) ∧
      hmac token (authenticationInput clientId serverId timestampSeconds nonce
        selectedCapabilities) = some output := by
  unfold computeAuthenticationData at h
  split at h
  · exact absurd h failure_ne_ok
  split at h
  · exact absurd h failure_ne_ok
  next hc =>
  split at h
  · exact absurd h failure_ne_ok
  next hs =>
  split at h
  · exact absurd h failure_ne_ok
  rw [newWriter_eq, writeU16_bind, writeString_bind, writeString_bind, writeU64_bind,
    writeBytes_bind, writeU64_bind] at h
  exact ⟨⟨validId_iff.1 (by simpa using hc), validId_iff.1 (by simpa using hs)⟩,
    digest_eq_ok.1 h.2.2.2.2.2.2⟩

end SessionData

/-! ## Fields at fixed places -/

theorem encode_injective {width : Nat} {W : Type*} (word : Wire.Word width W) {x y : W}
    (h : word.encode x = word.encode y) : x = y := by
  rw [← word.decode_encode x, h, word.decode_encode]

theorem bytesField_inj {x y : Bytes} (h : bytesField x = bytesField y) : x = y := by
  exact (List.append_inj h (by simp)).2

theorem length_bytesField_eq {kind : IdKind} {x y : Bytes} (hx : IsId kind x) (hy : IsId kind y) :
    (bytesField x).length = (bytesField y).length := by
  rw [length_bytesField, length_bytesField, hx.length, hy.length]

theorem length_nonceField (nonce nonce' : AuthenticationNonce) :
    (bytesField nonce.1).length = (bytesField nonce'.1).length := by
  rw [length_bytesField, length_bytesField, nonce.2, nonce'.2]

theorem timestamp_inj {s t : Int64} (h : u64.encode s.toUInt64 = u64.encode t.toUInt64) :
    s = t := by
  exact congrArg Int64.ofUInt64 (encode_injective u64 h)

section Inputs

variable {clientId cid' serverId serverId' workerId workerId' : Bytes}
  {timestamp timestamp' : Int64} {nonce nonce' : AuthenticationNonce}

theorem authenticationInput_inj {caps capabilities' : CapabilitySet}
    (hc : IsId .client clientId) (hc' : IsId .client cid')
    (hsv : IsId .server serverId) (hs' : IsId .server serverId')
    (h : authenticationInput clientId serverId timestamp nonce caps =
      authenticationInput cid' serverId' timestamp' nonce' capabilities') :
    (clientId, serverId, timestamp, nonce, caps) =
      (cid', serverId', timestamp', nonce', capabilities') := by
  obtain ⟨h, hcap⟩ := List.append_inj' h (by simp)
  obtain ⟨h, hnon⟩ := List.append_inj' h (length_nonceField nonce nonce')
  obtain ⟨h, ht⟩ := List.append_inj' h (by simp)
  obtain ⟨h, hs⟩ := List.append_inj' h (length_bytesField_eq hsv hs')
  obtain ⟨-, hci⟩ := List.append_inj' h (length_bytesField_eq hc hc')
  have hset := congrArg UInt64.toBitVec (encode_injective u64 hcap)
  rw [bytesField_inj hci, bytesField_inj hs, timestamp_inj ht,
    Subtype.ext (bytesField_inj hnon), show caps = capabilities' from hset]

theorem workerAuthenticationInput_inj {generation generation' : UInt64}
    (hc : IsId .client clientId) (hc' : IsId .client cid')
    (hsv : IsId .server serverId) (hs' : IsId .server serverId')
    (hw : IsId .connection workerId) (hw' : IsId .connection workerId')
    (h : workerAuthenticationInput clientId serverId generation workerId timestamp nonce =
      workerAuthenticationInput cid' serverId' generation' workerId' timestamp' nonce') :
    (clientId, serverId, generation, workerId, timestamp, nonce) =
      (cid', serverId', generation', workerId', timestamp', nonce') := by
  obtain ⟨h, hnon⟩ := List.append_inj' h (length_nonceField nonce nonce')
  obtain ⟨h, ht⟩ := List.append_inj' h (by simp)
  obtain ⟨h, hwr⟩ := List.append_inj' h (length_bytesField_eq hw hw')
  obtain ⟨h, hgen⟩ := List.append_inj' h (by simp)
  obtain ⟨h, hs⟩ := List.append_inj' h (length_bytesField_eq hsv hs')
  obtain ⟨-, hci⟩ := List.append_inj' h (length_bytesField_eq hc hc')
  rw [bytesField_inj hci, bytesField_inj hs, encode_injective u64 hgen,
    bytesField_inj hwr, timestamp_inj ht, Subtype.ext (bytesField_inj hnon)]

theorem authenticationInput_ne_worker {caps : CapabilitySet} {gen : UInt64} :
    authenticationInput clientId serverId timestamp nonce caps ≠
      workerAuthenticationInput cid' serverId' gen workerId timestamp' nonce' := by
  intro h
  have hword := congrArg (List.take 2) h
  simp only [authenticationInput, workerAuthenticationInput, bytesField, List.append_assoc] at hword
  rw [List.take_left' (by simp), List.take_left' (by simp)] at hword
  revert hword
  decide

end Inputs

/-- **The digests' inputs are injective and separated**: accepted arguments that differ are laid
out differently, and no input of one function is an input of the other. -/
theorem authentication_inputs_separated (hmac : Hmac) :
    (∀ token token' clientId clientId' serverId serverId' timestamp timestamp' nonce nonce'
        capabilities capabilities' output output',
      computeAuthenticationData hmac token clientId serverId timestamp nonce capabilities =
        .ok output →
      computeAuthenticationData hmac token' clientId' serverId' timestamp' nonce' capabilities' =
        .ok output' →
      (clientId, serverId, timestamp, nonce, capabilities) ≠
        (clientId', serverId', timestamp', nonce', capabilities') →
      hmac token (authenticationInput clientId serverId timestamp nonce capabilities) =
        some output ∧
      authenticationInput clientId serverId timestamp nonce capabilities ≠
        authenticationInput clientId' serverId' timestamp' nonce' capabilities') ∧
    (∀ token token' clientId clientId' serverId serverId' generation generation' workerId workerId'
        timestamp timestamp' nonce nonce' output output',
      computeWorkerAuthenticationData hmac token clientId serverId generation workerId timestamp
        nonce = .ok output →
      computeWorkerAuthenticationData hmac token' clientId' serverId' generation' workerId'
        timestamp' nonce' = .ok output' →
      (clientId, serverId, generation, workerId, timestamp, nonce) ≠
        (clientId', serverId', generation', workerId', timestamp', nonce') →
      hmac token (workerAuthenticationInput clientId serverId generation workerId timestamp nonce) =
        some output ∧
      workerAuthenticationInput clientId serverId generation workerId timestamp nonce ≠
        workerAuthenticationInput clientId' serverId' generation' workerId' timestamp' nonce') ∧
    ∀ clientId clientId' serverId serverId' timestamp timestamp' nonce nonce' capabilities
        generation workerId,
      authenticationInput clientId serverId timestamp nonce capabilities ≠
        workerAuthenticationInput clientId' serverId' generation workerId timestamp' nonce' := by
  refine ⟨?_, ?_, ?_⟩
  · intro _ _ _ _ _ _ _ _ _ _ _ _ _ _ h h' hne
    obtain ⟨⟨hclient, hserver⟩, hdigest⟩ := computeAuthenticationData_ok h
    obtain ⟨⟨hclient', hserver'⟩, -⟩ := computeAuthenticationData_ok h'
    exact ⟨hdigest, mt (authenticationInput_inj hclient hclient' hserver hserver') hne⟩
  · intro _ _ _ _ _ _ _ _ _ _ _ _ _ _ _ _ h h' hne
    obtain ⟨-, ⟨hclient, hserver, hworker, -⟩, hdigest⟩ :=
      computeWorkerAuthenticationData_eq_ok.1 h
    obtain ⟨-, ⟨hclient', hserver', hworker', -⟩, -⟩ := computeWorkerAuthenticationData_eq_ok.1 h'
    exact ⟨hdigest,
      mt (workerAuthenticationInput_inj hclient hclient' hserver hserver' hworker hworker') hne⟩
  · intros
    exact authenticationInput_ne_worker

end MiniTun.Protocol
