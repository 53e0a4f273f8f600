import MiniTun.Lib.TransitionSystem
import MiniTun.Server.PolicyManagement

/-!
# The document and the snapshot of the policy store

The store keeps the text of the policy document beside the snapshot it enforces,
and the management interface edits that text.  Opening and reloading read the
file twice, once to build the snapshot and once for the text, so others can
rename a new document into place in between.

The file is here as each access finds it.
-/

namespace MiniTun.Server

open TransitionSystem

/-- What others have renamed onto the policy file since the last access. -/
abbrev Renamed := Option FileNode

namespace PolicyStore

/-- The store when its next access to the disk comes. -/
def overtaken (store : PolicyStore) : Renamed → PolicyStore
  | none => store
  | some node =>
    { store with fs := store.fs.put (store.fs.locate (pathOf store.configPath)) node }

/-- The validator of a reload; `open` has none. -/
def validated : Option Environment → PolicySnapshot → Result Unit
  | none, _ => .ok ()
  | some env, snapshot => validateSnapshot env snapshot

/-- The two reads of a load, with the snapshot built from the first.  The key files are read
in between. -/
def readTwice (libs : Libraries) (env : Option Environment) (store : PolicyStore)
    (first keys second : Renamed) : Result (Bytes × PolicySnapshot × Bytes) := do
  let opened := store.overtaken first
  let text ← readSecureFile opened.fs store.configPath .policy
  let document ← parsePolicyJson libs.json text
  let keyed := opened.overtaken keys
  let replacement ←
    buildSnapshot libs keyed.fs document (configDirectory store.configPath) store.limits
  validated env replacement
  let bytes ← readSecureFile (keyed.overtaken second).fs store.configPath .policy
  pure (text, replacement, bytes)

end PolicyStore

/-- A store, and the text its snapshot was built from. -/
structure HeldPolicies where
  store : PolicyStore
  builtFrom : Bytes

/-- A call, with what its accesses to the disk find: `open` or `reload`, `replace`, or a read of
the document in memory. -/
inductive StoreCall where
  | load (env : Option Environment) (first keys second : Renamed)
  | replace (env : Environment) (text : Bytes) (keys write : Renamed)
  | document

namespace HeldPolicies

variable {libs : Libraries} {s : HeldPolicies} {call : StoreCall}

def perform (libs : Libraries) (s : HeldPolicies) : StoreCall → Result Unit × HeldPolicies
  | .load env first keys second =>
    let found := ((s.store.overtaken first).overtaken keys).overtaken second
    match s.store.readTwice libs env first keys second with
    | .error e => (.error e, { s with store := found })
    | .ok (text, replacement, bytes) =>
      (.ok (), ⟨{ found with snapshot := replacement, documentText := bytes }, text⟩)
  | .replace env text keys write =>
    let keyed := s.store.overtaken keys
    let found := keyed.overtaken write
    match keyed.validateReplacement libs env text with
    | .error e => (.error e, { s with store := found })
    | .ok replacement =>
      match writeSecureFileAtomic found.fs found.configPath text env.documentWrite with
      | .error e => (.error e, { s with store := found })
      | .ok written =>
        (.ok (), ⟨{ found with fs := written, snapshot := replacement, documentText := text },
          text⟩)
  | .document => (s.store.document.map fun _ => (), s)

def step (libs : Libraries) (s : HeldPolicies) (call : StoreCall) : HeldPolicies :=
  (s.perform libs call).2

/-- A reload nobody interferes with is the reload of the store. -/
theorem step_load_undisturbed (env : Environment) :
    (s.step libs (.load (some env) none none none)).store = (s.store.reload libs env).2 := by
  simp only [step, perform, PolicyStore.readTwice, PolicyStore.overtaken, PolicyStore.reload,
    PolicyStore.load, loadSnapshot]
  cases readSecureFile s.store.fs s.store.configPath .policy with
  | error e => rfl
  | ok text =>
    simp only [bind, Except.bind]
    cases parsePolicyJson libs.json text with
    | error e => rfl
    | ok doc =>
      simp only
      cases buildSnapshot libs s.store.fs doc (configDirectory s.store.configPath)
          s.store.limits with
      | error e => rfl
      | ok new =>
        simp only [PolicyStore.validated]
        cases PolicyStore.validateSnapshot env new <;> rfl

theorem step_replace_undisturbed (env : Environment) (text : Bytes) :
    (s.step libs (.replace env text none none)).store = (s.store.replace libs env text).2 := by
  simp only [step, perform, PolicyStore.overtaken, PolicyStore.replace]
  cases s.store.validateReplacement libs env text with
  | error e => rfl
  | ok new =>
    simp only
    cases writeSecureFileAtomic s.store.fs s.store.configPath text env.documentWrite <;> rfl

/-- The text is the one the snapshot was built from. -/
def InStep (s : HeldPolicies) : Prop :=
  s.store.documentText = s.builtFrom

def kept (s : HeldPolicies) : PolicySnapshot × Bytes × Bytes :=
  (s.store.snapshot, s.store.documentText, s.builtFrom)

/-- A call that succeeds leaves the text and the snapshot together; one that fails leaves
both alone. -/
def Faithful (libs : Libraries) (s : HeldPolicies) (call : StoreCall) : Prop :=
  ((s.perform libs call).1.isOk = true → (s.step libs call).InStep) ∧
    ((s.perform libs call).1.isOk = false → (s.step libs call).kept = s.kept)

/-- A load that succeeds finds the same text in both reads. -/
def ReadsAgree (libs : Libraries) (s : HeldPolicies) : StoreCall → Prop
  | .load env first keys second => ∀ text replacement bytes,
    s.store.readTwice libs env first keys second = .ok (text, replacement, bytes) → bytes = text
  | .replace .. | .document => True

@[simp] theorem snapshot_overtaken (store : PolicyStore) (r : Renamed) :
    (store.overtaken r).snapshot = store.snapshot := by
  cases r <;> rfl

@[simp] theorem documentText_overtaken (store : PolicyStore) (r : Renamed) :
    (store.overtaken r).documentText = store.documentText := by
  cases r <;> rfl

/-- Only a load can part the two, and only if its two reads differ. -/
theorem faithful_iff (hs : s.InStep) : s.Faithful libs call ↔ s.ReadsAgree libs call := by
  cases call with
  | load env first keys second =>
    unfold Faithful step perform
    cases hr : s.store.readTwice libs env first keys second with
    | error e => simp [ReadsAgree, kept, hr, Except.toBool]
    | ok found =>
      obtain ⟨text, replacement, bytes⟩ := found
      simp [ReadsAgree, InStep, hr, Except.toBool]
  | replace env text keys write =>
    unfold Faithful step perform
    simp only
    split
    · simp [ReadsAgree, kept, Except.toBool]
    · split <;> simp [ReadsAgree, kept, InStep, Except.toBool]
  | document => simpa [Faithful, ReadsAgree, step, perform] using fun _ => hs

theorem Faithful.inStep (h : s.Faithful libs call) (hs : s.InStep) :
    (s.step libs call).InStep := by
  cases hok : (s.perform libs call).1.isOk with
  | true => exact h.1 hok
  | false =>
    have hk := h.2 hok
    simp only [kept, Prod.mk.injEq] at hk
    rw [InStep, hk.2.1, hk.2.2]
    exact hs

/-- Along a run, the document and the snapshot belong together after every call that succeeds, and
are left alone by every call that fails, exactly if every load that succeeds reads the same
text twice. -/
theorem documents_in_step_iff (libs : Libraries) (s : HeldPolicies) (hs : s.InStep)
    (calls : List StoreCall) :
    AllSteps (step libs) (Faithful libs) s calls ↔ AllSteps (step libs) (ReadsAgree libs) s calls :=
  allSteps_congr_of_kept (L := fun _ _ => True) (fun _ _ hs _ => faithful_iff hs)
    (fun _ _ hs h => h.inStep hs) hs (allSteps_of_forall_mem fun _ _ => trivial)

end HeldPolicies

namespace Sample

def plainLibraries : Libraries := libraries (.ofValues [document [entry pskFile 4 8]])

def held : HeldPolicies := ⟨store pskFile, documentText pskFile⟩

/-- A document with another limit, renamed into place before the second read. -/
def overtakenReload : StoreCall :=
  .load (some calm) none none
    (some (createdFile 0o600 ((document [entry pskFile 2 8]).write (some 2) 0)))

end Sample

open Sample

open HeldPolicies

theorem documents_in_step_reload :
    AllSteps (step plainLibraries) (Faithful plainLibraries) held
      [.load (some calm) none none none, .document] := by
  refine (documents_in_step_iff plainLibraries held rfl _).2 ⟨?_, trivial, trivial⟩
  intro text replacement bytes hread
  have htexts : (held.store.readTwice plainLibraries (some calm) none none none).map
      (fun found => (found.1, found.2.2)) = .ok (documentText pskFile, documentText pskFile) := by
    decide +kernel
  rw [hread] at htexts
  cases htexts
  rfl

/-- The reload succeeds and keeps the new text beside the snapshot of the old one. -/
theorem overtaken_reload_drifts :
    held.InStep ∧
    (held.perform plainLibraries overtakenReload).1.isOk = true ∧
    ¬(held.step plainLibraries overtakenReload).InStep := by
  refine ⟨rfl, by decide +kernel, ?_⟩
  unfold InStep
  decide +kernel

end MiniTun.Server
