import MiniTun.Storage.ReadableRows

/-!
# Removing a server

`server.remove` stamps a server and its live tunnels with one time, the later of the server's
own and the clock's, and the repository refuses a time that is before a tunnel's.  A new tunnel
has the clock's time, which its server does not take over.  So after the clock has been set
back, the server of a newer tunnel stays until the clock has caught up.
-/

namespace MiniTun.Daemon

open Relational Storage

section Handler

variable (net : AddressFamilies) (db : Database) (identifier : Bytes)

def getServerByName (name : Bytes) : Result ServerRecord := do
  validateText name 1 maxNameBytes "server name"
  match db.servers.rows.find? fun row => row.name = some name with
  | none => failure .notFound "server record was not found"
  | some row => readServer net row

/-- The row `resolve_server` selects. -/
def lookUpServer : Result ServerRecord :=
  match Id.parseKind identifier .server with
  | .ok id => getServer net db id.text
  | .error _ => getServerByName net db identifier

def resolveServer : Result ServerRecord := do
  let server ← lookUpServer net db identifier
  if server.desiredState = .removed then failure .notFound "server was not found"
  else pure server

/-- `update_time`, where the clock reads `now`. -/
def updateTime (previous now : Int) : Int := max previous now

/-- `ControlService::server_remove` where SQLite and the credential store do what they are
asked: the database it commits, and the one it leaves.  A refusal to erase is only logged. -/
def serverRemove (now : Int) : Result (Database × Database) := do
  let server ← resolveServer net db identifier
  let id ← Id.parseKind server.id .server
  let removed ← markServerRemoved net id (updateTime server.updatedAt now) db
  pure (removed, (eraseServer net id removed).toOption.getD removed)

end Handler

/-! ## Naming a server -/

/-- A request names a server by its identifier, or by a name that is none. -/
def Names (identifier : Bytes) (server : ServerRecord) : Prop :=
  match Id.parseKind identifier .server with
  | .ok _ => server.id = identifier
  | .error _ => server.name = some identifier

section Naming

variable {net : AddressFamilies} {db : Database} {identifier : Bytes} {server other : ServerRecord}

theorem eq_of_name {name : Bytes} (hmem : server ∈ db.servers.rows)
    (ho : other ∈ db.servers.rows) (hn : server.name = some name)
    (hn' : other.name = some name) : other = server := by
  refine List.inj_on_of_nodup_map db.servers.uniques ho hmem ?_
  change other.nameKey = server.nameKey
  rw [ServerRecord.nameKey, ServerRecord.nameKey, hn, hn']
  rfl

theorem Names.unique (hmem : server ∈ db.servers.rows) (ho : other ∈ db.servers.rows)
    (h : Names identifier server) (h' : Names identifier other) : other = server := by
  unfold Names at h h'
  cases hp : Id.parseKind identifier .server with
  | ok id =>
    rw [hp] at h h'
    exact List.inj_on_of_nodup_map db.servers.keys ho hmem (h'.trans h.symm)
  | error e =>
    rw [hp] at h h'
    exact eq_of_name hmem ho h h'

theorem getServerByName_eq_ok :
    getServerByName net db identifier = .ok server ↔
      server ∈ db.servers.rows ∧ server.name = some identifier ∧ server.Readable net := by
  rw [getServerByName, do_eq_ok]
  constructor
  · rintro ⟨-, -, h⟩
    split at h
    · exact absurd h failure_ne_ok
    · next row hf =>
      obtain ⟨hr, rfl⟩ := readServer_eq_ok.1 h
      exact ⟨List.mem_of_find?_eq_some hf, by simpa using List.find?_some hf, hr⟩
  · rintro ⟨hmem, hn, hr⟩
    have hval := (validateServerRecord_eq_ok.1 hr.valid).1.name
    rw [hn] at hval
    refine ⟨(), hval, ?_⟩
    split
    · next hno =>
      exact absurd hn (by simpa using List.find?_eq_none.1 hno server hmem)
    · next row hf =>
      obtain rfl : row = server := eq_of_name hmem (List.mem_of_find?_eq_some hf) hn
        (by simpa using List.find?_some hf)
      exact readServer_eq_ok.2 ⟨hr, rfl⟩

theorem resolveServer_eq_ok :
    resolveServer net db identifier = .ok server ↔
      server ∈ db.servers.rows ∧ Names identifier server ∧ server.Readable net ∧
        server.desiredState ≠ .removed := by
  have hlo : ∀ row, lookUpServer net db identifier = .ok row ↔
      row ∈ db.servers.rows ∧ Names identifier row ∧ row.Readable net := by
    intro row
    unfold lookUpServer Names
    cases hp : Id.parseKind identifier .server with
    | error e => exact getServerByName_eq_ok
    | ok id =>
      rw [← (Id.parseKind_ok_iff.1 hp).1]
      exact getServer_eq_ok
  rw [resolveServer, do_eq_ok]
  simp only [hlo, guard_eq_ok]
  constructor
  · rintro ⟨row, ⟨hmem, hn, hr⟩, hl, h⟩
    cases h
    exact ⟨hmem, hn, hr, hl⟩
  · rintro ⟨hmem, hn, hr, hl⟩
    exact ⟨server, ⟨hmem, hn, hr⟩, hl, rfl⟩

end Naming

/-! ## When it succeeds -/

/-- No live tunnel of the server is newer than `time`. -/
def ChildrenBy (db : Database) (serverId : Bytes) (time : Int) : Prop :=
  ∀ row ∈ db.tunnels.rows, isLiveChild serverId row = true → row.updatedAt ≤ time

/-- Every row is still there, with no earlier time. -/
def NoEarlier {ρ : Type} (key : ρ → Bytes) (time : ρ → Int) (rows rows' : List ρ) : Prop :=
  ∀ row ∈ rows, ∃ row' ∈ rows', key row' = key row ∧ time row ≤ time row'

theorem noEarlier_assigned {ρ : Type} {key : ρ → Bytes} {time : ρ → Int} {rows : List ρ}
    {selects : ρ → Bool} {assign : ρ → ρ} (hkey : ∀ row, key (assign row) = key row)
    (htime : ∀ row ∈ rows, selects row = true → time row ≤ time (assign row)) :
    NoEarlier key time rows (rows.map (Table.assigned selects assign)) := by
  intro row hrow
  refine ⟨_, List.mem_map_of_mem hrow, Table.column_assigned hkey row, ?_⟩
  unfold Table.assigned
  split
  · next hsel => exact htime row hrow hsel
  · exact le_rfl

/-- The commit leaves tombstones of the server and of all its tunnels, and no row with an
earlier time; then the tombstones are erased. -/
structure Removed (server : ServerRecord) (db committed final : Database) : Prop where
  tombstone : ∃ row ∈ committed.servers.rows, row.id = server.id ∧
    row.desiredState = .removed ∧ row.actualState = .disabled
  tunnels : ∀ row ∈ committed.tunnels.rows, row.serverId = server.id → row.isTombstone = true
  serverTimes : NoEarlier ServerRecord.id ServerRecord.updatedAt db.servers.rows
    committed.servers.rows
  tunnelTimes : NoEarlier TunnelRecord.id TunnelRecord.updatedAt db.tunnels.rows
    committed.tunnels.rows
  erasedServer : final.servers = committed.servers.delete fun row => row.id = server.id
  erasedTunnels : final.tunnels = committed.tunnels.delete fun row => row.serverId = server.id

section Removing

variable {net : AddressFamilies} {db committed : Database} {id : Id} {server : ServerRecord}
  {time : Int}

theorem hasNonTombstoneChildren_eq_false {sid : Bytes} :
    hasNonTombstoneChildren db sid (some time) = false ↔ ChildrenBy db sid time := by
  rw [hasNonTombstoneChildren, List.any_eq_false]
  refine forall₂_congr fun row _ => ?_
  simp [isLiveChild, and_imp]

theorem exists_markServerRemoved (hk : id.kind = .server) (hmem : server ∈ db.servers.rows)
    (hid : server.id = id.text) (hr : server.Readable net) (hnow : server.updatedAt ≤ time)
    (hch : ChildrenBy db id.text time) :
    ∃ committed, markServerRemoved net id time db = .ok committed := by
  have htime : 0 ≤ time := by
    have hval := validateServerRecord_eq_ok.1 hr.valid
    have hcr := hval.1.created
    have hupd := hval.2.updated
    omega
  obtain ⟨mid, _, hmid⟩ : ∃ mid changes, db.updateTunnels "mark child tunnels removed"
      (isLiveChild id.text) (TunnelRecord.entombed time) = .ok (mid, changes) :=
    Database.updateTunnels_ok (fun _ => rfl) (fun _ => rfl) fun row hrow hc hl =>
      hc.restated _ _ (hch row hrow hl)
  obtain ⟨hs, htns, -⟩ := Database.updateTunnels_eq_ok.1 hmid
  obtain ⟨committed, _, hcm⟩ : ∃ committed changes,
      mid.updateServers "mark server removed" (fun row => row.id = id.text)
        (ServerRecord.entombed time) = .ok (committed, changes) := by
    refine Database.updateServers_ok (fun _ => rfl) (fun _ => rfl) fun row hrow hc hsa => ?_
    rw [hs] at hrow
    obtain rfl : row = server := List.inj_on_of_nodup_map db.servers.keys hrow hmem
      ((of_decide_eq_true hsa).trans hid.symm)
    exact hc.restated _ _ hnow
  obtain ⟨hs', htns', -⟩ := Database.updateServers_eq_ok.1 hcm
  refine ⟨committed, markServerRemoved_eq_ok.2 ⟨hk, htime, ⟨server, hmem, hid, hr, hnow⟩,
    hasNonTombstoneChildren_eq_false.2 hch, ?_, ?_⟩⟩
  · rw [hs', hs]
  · rw [htns', htns]

theorem removed_of_markServerRemoved (hmem : server ∈ db.servers.rows) (hid : server.id = id.text)
    (hr : server.Readable net) (h : markServerRemoved net id time db = .ok committed) :
    Removed server db committed ((eraseServer net id committed).toOption.getD committed) := by
  obtain ⟨hk, -, ⟨row, hrow, hrowI, -, hnow⟩, hch, hs, htns⟩ :=
    markServerRemoved_eq_ok.1 h
  obtain rfl : row = server :=
    List.inj_on_of_nodup_map db.servers.keys hrow hmem (hrowI.trans hid.symm)
  rw [hasNonTombstoneChildren_eq_false] at hch
  have hent : row.entombed time ∈ committed.servers.rows := by
    rw [hs]
    exact List.mem_map.2 ⟨row, hmem, if_pos (decide_eq_true hid)⟩
  have ht : ∀ child ∈ committed.tunnels.rows, child.serverId = id.text →
      child.isTombstone = true := by
    intro child hc hp
    rw [htns] at hc
    obtain ⟨old, -, rfl⟩ := List.mem_map.1 hc
    unfold Table.assigned at hp ⊢
    split at hp
    · next hl =>
      rw [if_pos hl]
      rfl
    · next hl =>
      rw [if_neg hl]
      simpa [isLiveChild, hp] using hl
  obtain ⟨final, hfin⟩ : ∃ final, eraseServer net id committed = .ok final :=
    exists_eraseServer hk hent hid
      (hr.of_columns (committed.servers.checked _ hent) rfl) rfl rfl ht
  obtain ⟨-, -, -, he, he'⟩ := eraseServer_eq_ok.1 hfin
  rw [hfin]
  refine ⟨⟨_, hent, rfl, rfl, rfl⟩, hid ▸ ht, ?_, ?_, hid ▸ he, hid ▸ he'⟩
  · rw [hs]
    refine noEarlier_assigned (fun _ => rfl) fun other ho hsa => ?_
    obtain rfl : other = row := List.inj_on_of_nodup_map db.servers.keys ho hmem
      ((of_decide_eq_true hsa).trans hid.symm)
    exact hnow
  · rw [htns]
    exact noEarlier_assigned (fun _ => rfl) hch

end Removing

theorem serverRemove_succeeds_iff (net : AddressFamilies) (db : Database) (identifier : Bytes)
    (now : Int) (server : ServerRecord) (hmem : server ∈ db.servers.rows)
    (hlive : server.desiredState ≠ .removed) (hnamed : Names identifier server) :
    (∃ committed final, serverRemove net db identifier now = .ok (committed, final) ∧
        Removed server db committed final) ↔
      server.Readable net ∧ ChildrenBy db server.id (updateTime server.updatedAt now) := by
  constructor
  · rintro ⟨committed, final, h, -⟩
    obtain ⟨found, hresolve, h⟩ := do_eq_ok.1 h
    obtain ⟨hfound, hnames, hreadable, -⟩ := resolveServer_eq_ok.1 hresolve
    obtain rfl : found = server := hnamed.unique hmem hfound hnames
    obtain ⟨id, hid, h⟩ := do_eq_ok.1 h
    obtain ⟨removed, hremoved, -⟩ := do_eq_ok.1 h
    obtain ⟨-, -, -, hchildren, -⟩ := markServerRemoved_eq_ok.1 hremoved
    rw [(Id.parseKind_ok_iff.1 hid).1] at hchildren
    exact ⟨hreadable, hasNonTombstoneChildren_eq_false.1 hchildren⟩
  · rintro ⟨hreadable, hchildren⟩
    obtain ⟨id, hparse⟩ := isOk_iff.1 (validateServerRecord_eq_ok.1 hreadable.valid).1.id
    obtain ⟨hid, hkind⟩ := Id.parseKind_ok_iff.1 hparse
    obtain ⟨committed, hcommitted⟩ := exists_markServerRemoved hkind hmem hid.symm hreadable
      (Int.le_max_left _ now) (hid.symm ▸ hchildren)
    refine ⟨committed, _, ?_, removed_of_markServerRemoved hmem hid.symm hreadable hcommitted⟩
    exact do_eq_ok.2 ⟨server, resolveServer_eq_ok.2 ⟨hmem, hnamed, hreadable, hlive⟩,
      do_eq_ok.2 ⟨id, hparse, do_eq_ok.2 ⟨committed, hcommitted, rfl⟩⟩⟩

/-- The condition holds as long as the clock has not moved back behind a tunnel's time. -/
theorem childrenBy_of_clock {db : Database} {now : Int}
    (h : ∀ row ∈ db.tunnels.rows, row.updatedAt ≤ now) (serverId : Bytes) (previous : Int) :
    ChildrenBy db serverId (updateTime previous now) :=
  fun row hrow _ => (h row hrow).trans (Int.le_max_right previous now)

/-! ## A clock that is set back -/

namespace ClockSetBack

open NulMessage

def server : ServerRecord := { NulMessage.server with createdAt := 500, updatedAt := 500 }

def tunnel : TunnelRecord := { NulMessage.tunnel with createdAt := 1000, updatedAt := 1000 }

def db : Database :=
  exec limits Database.empty
    [⟨.createServer server parsed_server, none⟩,
      ⟨.createTunnel tunnel parsed_local parsed_remote, none⟩]

theorem serverRemove_refused :
    server ∈ db.servers.rows ∧ server.desiredState ≠ .removed ∧
      serverRemove Endpoint.plainFamilies db server.id 600 =
        failure .invalidArgument "server removal time precedes a child tunnel update" := by
  refine ⟨by decide +kernel, by decide, ?_⟩
  rfl

theorem serverRemove_later :
    ∃ committed final, serverRemove Endpoint.plainFamilies db server.id 1000 =
        .ok (committed, final) ∧ Removed server db committed final := by
  refine (serverRemove_succeeds_iff _ _ _ _ server (by decide +kernel) (by decide) ?_).2
    ⟨?_, ?_⟩
  · exact Eq.refl server.id
  · exact readServer_isOk.1 (by decide +kernel)
  · exact childrenBy_of_clock (by decide +kernel) _ _

end ClockSetBack

end MiniTun.Daemon
